import Lasso.Xml.CleanNs

/-!
# The original node of an object

An object that is parsed keeps a copy of its element, cut out of the document, on which a signature
can be checked later. `xmlCopyNode` declares the namespaces that the copied names use, and
`lasso_node_set_original_xmlnode` adds the other declarations of the ancestors.

## Main definitions

* `DomNode.xmlCopyNode`, `DomNode.setOriginalXmlnode` — the copy.
* `DomNode.Below` — an element of a document, with the declarations of its ancestors.
* `DomNode.ResolvesAs` — each prefix means the same everywhere in two trees.

## Main results

* `DomNode.resolvesAs_setOriginalXmlnode` — the copy resolves every prefix as its original.
-/

namespace Lasso

/-- `xmlSearchNs`, in the declarations on the way up. The namespaces of the names on the way, which
are tried too, are among them. -/
def xmlSearchNs (scope : List NsDecl) (pre : Option String) : Option NsDecl :=
  scope.find? (·.pre == pre)

namespace DomNode

/-! ## Copying -/

/-- The namespace of a copied name, and the declarations of the root of the copy: the declaration
of its prefix in the copy, or the one in the document, which is then declared at the root. In a
document no prefix means something else in the copy, so that none has to be reconciled. -/
def copyNs (fresh : Nat) (scope inner rootDefs : List NsDecl) :
    Option NsDecl → Option NsDecl × List NsDecl
  | none => (none, rootDefs)
  | some ns =>
    match xmlSearchNs (inner ++ rootDefs ++ [xmlDecl]) ns.pre with
    | some found => (some found, rootDefs)
    | none =>
      match xmlSearchNs scope ns.pre with
      | none => (none, rootDefs)
      | some found =>
        let rootDefs := xmlNewNs fresh rootDefs found.href found.pre
        (xmlSearchNs rootDefs found.pre, rootDefs)

/-- `xmlCopyPropList` -/
def copyProps (fresh : Nat) (scope inner rootDefs : List NsDecl) :
    List DomAttr → List DomAttr × List NsDecl
  | [] => ([], rootDefs)
  | attr :: properties =>
    let (ns, rootDefs) := copyNs fresh scope inner rootDefs attr.ns
    let (properties, rootDefs) := copyProps fresh scope inner rootDefs properties
    ({ attr with ns } :: properties, rootDefs)

mutual

/-- A copied node below the root of the copy: `scope` has the declarations in the document, `inner`
those of the copy below its root, and `rootDefs` those of the root. -/
def copyNode (fresh : Nat) (scope inner rootDefs : List NsDecl) : DomNode → DomNode × List NsDecl
  | element name ns nsDef properties children =>
    let scope := nsDef ++ scope
    let inner := nsDef ++ inner
    let (ns, rootDefs) := copyNs fresh scope inner rootDefs ns
    let (properties, rootDefs) := copyProps fresh scope inner rootDefs properties
    let (children, rootDefs) := copyNodeList fresh scope inner rootDefs children
    (element name ns nsDef properties children, rootDefs)
  | leaf node => (leaf node, rootDefs)

def copyNodeList (fresh : Nat) (scope inner rootDefs : List NsDecl) :
    List DomNode → List DomNode × List NsDecl
  | [] => ([], rootDefs)
  | t :: ts =>
    let (t, rootDefs) := copyNode fresh scope inner rootDefs t
    let (ts, rootDefs) := copyNodeList fresh scope inner rootDefs ts
    (t :: ts, rootDefs)

end

/-- `xmlCopyNode`, of an element in the scope `outer`. -/
def xmlCopyNode (fresh : Nat) (outer : List NsDecl) : DomNode → DomNode
  | element name ns nsDef properties children =>
    let scope := nsDef ++ outer
    let (ns, rootDefs) := copyNs fresh scope [] nsDef ns
    let (properties, rootDefs) := copyProps fresh scope [] rootDefs properties
    let (children, rootDefs) := copyNodeList fresh scope [] rootDefs children
    element name ns rootDefs properties children
  | leaf node => leaf node

/-- The loop over the declarations of an ancestor. -/
def inheritNsDef (fresh : Nat) (rootDefs nsDef : List NsDecl) : List NsDecl :=
  nsDef.foldl (fun rootDefs ns =>
    if rootDefs.any (·.pre == ns.pre) then rootDefs
    else xmlNewNs fresh rootDefs ns.href ns.pre) rootDefs

/-- The copy that `lasso_node_set_original_xmlnode` keeps, with the declarations of each ancestor,
the parent first. -/
def setOriginalXmlnode (fresh : Nat) (ancestors : List (List NsDecl)) (xmlnode : DomNode) :
    DomNode :=
  match xmlCopyNode fresh (ancestors.flatten ++ [xmlDecl]) xmlnode with
  | element name ns rootDefs properties children =>
    element name ns (ancestors.foldl (inheritNsDef fresh) rootDefs) properties children
  | leaf node => leaf node

/-! ## What a prefix means -/

/-- The URI of each prefix in a scope, and of the default namespace. -/
def resolves (scope : List NsDecl) (pre : Option String) : Option String :=
  (scope.map (·.binding)).lookup pre

/-- The scope at a node of a tree, by the path to it. -/
def scopeAt (scope : List NsDecl) : DomNode → List Nat → Option (List NsDecl)
  | element _ _ nsDef _ _, [] => some (nsDef ++ scope)
  | element _ _ nsDef _ children, i :: path =>
    (children[i]?).bind fun t => scopeAt (nsDef ++ scope) t path
  | leaf _, _ => none

/-- The trees have the same names, and at each of their elements every prefix means the same. -/
structure ResolvesAs (scope : List NsDecl) (t : DomNode) (scope' : List NsDecl) (t' : DomNode) :
    Prop where
  names : t'.expanded = t.expanded
  scopes : ∀ path, (t'.scopeAt scope' path).map resolves = (t.scopeAt scope path).map resolves

/-- The nodes of a document, with the declarations of their ancestors, the parent first. -/
inductive Below (document : DomNode) : List (List NsDecl) → DomNode → Prop
  | root : Below document [] document
  | child {ancestors : List (List NsDecl)} {name : String} {ns : Option NsDecl}
      {nsDef : List NsDecl} {properties : List DomAttr} {children : List DomNode} {t : DomNode}
      (h : Below document ancestors (element name ns nsDef properties children))
      (ht : t ∈ children) : Below document (nsDef :: ancestors) t

/-! ## The declarations of the root -/

open Scopes

section

variable (fresh : Nat) {scope rootDefs : List NsDecl} {pre : Option String} {href : String}

@[simp] theorem resolves_append (inner scope : List NsDecl) (pre : Option String) :
    resolves (inner ++ scope) pre = (resolves inner pre).or (resolves scope pre) := by
  rw [resolves, List.map_append, List.lookup_append]
  rfl

theorem resolves_eq (scope : List NsDecl) (pre : Option String) :
    resolves scope pre = (xmlSearchNs scope pre).map (·.href) := lookup_bindings scope pre

theorem xmlSearchNs_append (inner scope : List NsDecl) (pre : Option String) :
    xmlSearchNs (inner ++ scope) pre = (xmlSearchNs inner pre).or (xmlSearchNs scope pre) := by
  rw [xmlSearchNs, List.find?_append]
  rfl

theorem pre_of_xmlSearchNs {d : NsDecl} (h : xmlSearchNs scope pre = some d) : d.pre = pre := by
  simpa using List.find?_some h

theorem xmlSearchNs_xmlDecl {d : NsDecl} (h : xmlSearchNs [xmlDecl] pre = some d) :
    d = xmlDecl ∧ pre = some "xml" := by
  obtain rfl : d = xmlDecl := List.mem_singleton.mp (List.mem_of_find?_eq_some h)
  exact ⟨rfl, (pre_of_xmlSearchNs h).symm⟩

/-- What the copying does to the declarations of the root: they stay, and others come behind them,
each with the URI that its prefix has in the document. -/
structure Declares (scope before after : List NsDecl) : Prop where
  grows : ∃ added, after = before ++ added
  agrees : (∀ pre href, resolves before pre = some href → resolves scope pre = some href) →
    ∀ pre href, resolves after pre = some href → resolves scope pre = some href

theorem Declares.refl (scope rootDefs : List NsDecl) : Declares scope rootDefs rootDefs :=
  ⟨⟨[], (List.append_nil _).symm⟩, id⟩

theorem Declares.trans {first second third : List NsDecl} (h : Declares scope first second)
    (h' : Declares scope second third) : Declares scope first third := by
  obtain ⟨added, rfl⟩ := h.grows
  obtain ⟨added', rfl⟩ := h'.grows
  exact ⟨⟨added ++ added', List.append_assoc _ _ _⟩, fun hfirst => h'.agrees (h.agrees hfirst)⟩

theorem resolves_xmlNewNs (fresh : Nat) (rootDefs : List NsDecl) (href : String)
    (pre pre' : Option String) : resolves (xmlNewNs fresh rootDefs href pre) pre' =
      (resolves rootDefs pre').or (if pre' = pre then some href else none) := by
  rw [resolves, bindings_xmlNewNs]
  have hdeclare := @lookup_declare_append _ _ _ _ [] (rootDefs.map (·.binding)) (pre, href) pre'
  rw [List.append_nil, List.lookup_append] at hdeclare
  rw [hdeclare, resolves]
  congr 1
  by_cases hpre : pre' = pre
  · simp [hpre]
  · rw [lookup_cons_of_ne hpre, if_neg hpre]
    rfl

/-- A name that is copied declares at most its own prefix. -/
theorem declares_copyNs (inner : List NsDecl) (ns : Option NsDecl) :
    Declares scope rootDefs (copyNs fresh (inner ++ scope) inner rootDefs ns).2 := by
  cases ns with
  | none => exact .refl scope rootDefs
  | some ns =>
    rw [copyNs]
    split
    · exact .refl scope rootDefs
    · rename_i hmissing
      split
      · exact .refl scope rootDefs
      · rename_i found hfound
        have hinner : xmlSearchNs inner ns.pre = none := by
          rw [xmlSearchNs_append, xmlSearchNs_append] at hmissing
          exact (Option.or_eq_none_iff.mp (Option.or_eq_none_iff.mp hmissing).1).1
        rw [xmlSearchNs_append, hinner, Option.none_or] at hfound
        have hpre := pre_of_xmlSearchNs hfound
        refine ⟨?_, fun hagrees pre href hresolves => ?_⟩
        · dsimp only
          unfold xmlNewNs
          split_ifs
          · exact ⟨[], (List.append_nil _).symm⟩
          · exact ⟨_, rfl⟩
        · rw [resolves_xmlNewNs] at hresolves
          cases hbefore : resolves rootDefs pre with
          | some href' =>
            rw [hbefore] at hresolves
            cases hresolves
            exact hagrees pre _ hbefore
          | none =>
            rw [hbefore, Option.none_or] at hresolves
            split_ifs at hresolves with hsame
            cases hresolves
            rw [resolves_eq, hsame, hpre, hfound]
            rfl

theorem declares_copyProps (inner : List NsDecl) (properties : List DomAttr) :
    Declares scope rootDefs (copyProps fresh (inner ++ scope) inner rootDefs properties).2 := by
  induction properties generalizing rootDefs with
  | nil => exact .refl scope rootDefs
  | cons attr properties ih => exact (declares_copyNs fresh inner attr.ns).trans ih

mutual

theorem declares_copyNode : ∀ (t : DomNode) (inner rootDefs : List NsDecl),
    Declares scope rootDefs (copyNode fresh (inner ++ scope) inner rootDefs t).2
  | element _ ns nsDef properties children, inner, rootDefs => by
    rw [copyNode, ← List.append_assoc]
    exact ((declares_copyNs fresh _ ns).trans (declares_copyProps fresh _ properties)).trans
      (declares_copyNodeList children (nsDef ++ inner) _)
  | leaf _, _, rootDefs => .refl scope rootDefs

theorem declares_copyNodeList : ∀ (ts : List DomNode) (inner rootDefs : List NsDecl),
    Declares scope rootDefs (copyNodeList fresh (inner ++ scope) inner rootDefs ts).2
  | [], _, rootDefs => .refl scope rootDefs
  | t :: ts, inner, rootDefs =>
    (declares_copyNode t inner rootDefs).trans (declares_copyNodeList ts inner _)

end

/-- Each declaration of an ancestor is declared, unless its prefix is already. -/
theorem bindings_inheritNsDef (fresh : Nat) (rootDefs nsDef : List NsDecl) :
    (inheritNsDef fresh rootDefs nsDef).map (·.binding) =
      (nsDef.map (·.binding)).foldl declare (rootDefs.map (·.binding)) := by
  unfold inheritNsDef
  induction nsDef generalizing rootDefs with
  | nil => rfl
  | cons ns nsDef ih =>
    have hdeclared : (if rootDefs.any (·.pre == ns.pre) then rootDefs
        else xmlNewNs fresh rootDefs ns.href ns.pre) = xmlNewNs fresh rootDefs ns.href ns.pre := by
      unfold xmlNewNs
      split_ifs <;> rfl
    rw [List.foldl_cons, hdeclared, ih, bindings_xmlNewNs]
    rfl

theorem resolves_inherit (fresh : Nat) (ancestors : List (List NsDecl)) (rootDefs : List NsDecl)
    (pre : Option String) : resolves (ancestors.foldl (inheritNsDef fresh) rootDefs) pre =
      resolves (rootDefs ++ ancestors.flatten) pre := by
  induction ancestors generalizing rootDefs with
  | nil => simp
  | cons nsDef ancestors ih =>
    rw [List.foldl_cons, ih, resolves_append, resolves, bindings_inheritNsDef,
      lookup_foldl_declare, ← List.map_append]
    simp [resolves, List.lookup_append, Option.or_assoc]

/-! ## The names -/

/-- A name keeps its namespace: the declaration that is found for its prefix says the same. -/
theorem href_copyNs {inner : List NsDecl} {ns : Option NsDecl}
    (hxml : resolves scope (some "xml") = some xmlDecl.href)
    (hagrees : ∀ pre href, resolves rootDefs pre = some href → resolves scope pre = some href)
    (hns : ∀ p ∈ ns, p.InScope (inner ++ scope)) :
    (copyNs fresh (inner ++ scope) inner rootDefs ns).1.map (·.href) = ns.map (·.href) := by
  cases ns with
  | none => rfl
  | some p =>
    have hscope : xmlSearchNs (inner ++ scope) p.pre = some p := hns p rfl
    rw [copyNs]
    split
    · rename_i found hfound
      refine congrArg some ?_
      rw [xmlSearchNs_append, xmlSearchNs_append] at hfound
      rw [xmlSearchNs_append] at hscope
      cases hinner : xmlSearchNs inner p.pre with
      | some d =>
        rw [hinner, Option.some_or] at hfound hscope
        cases hfound
        cases hscope
        rfl
      | none =>
        rw [hinner, Option.none_or] at hfound hscope
        have hresolved : resolves scope p.pre = some p.href := by rw [resolves_eq, hscope]; rfl
        cases hroot : xmlSearchNs rootDefs p.pre with
        | some d =>
          rw [hroot, Option.some_or] at hfound
          cases hfound
          have hsame := hagrees p.pre found.href (by rw [resolves_eq, hroot]; rfl)
          exact Option.some.inj (hsame.symm.trans hresolved)
        | none =>
          rw [hroot, Option.none_or] at hfound
          obtain ⟨rfl, hpre⟩ := xmlSearchNs_xmlDecl hfound
          rw [hpre, hxml] at hresolved
          exact Option.some.inj hresolved
    · rename_i hmissing
      rw [hscope]
      dsimp only
      rw [xmlSearchNs_append, xmlSearchNs_append] at hmissing
      have hroot := (Option.or_eq_none_iff.mp (Option.or_eq_none_iff.mp hmissing).1).2
      rw [← resolves_eq, resolves_xmlNewNs, resolves_eq, hroot, if_pos rfl]
      rfl

/-- What an attribute says. -/
def DomAttr.expanded (attr : DomAttr) : XmlAttr := ⟨attr.name, attr.ns.map (·.href), attr.value⟩

theorem expanded_copyProps {inner : List NsDecl} {properties : List DomAttr}
    (hxml : resolves scope (some "xml") = some xmlDecl.href)
    (hagrees : ∀ pre href, resolves rootDefs pre = some href → resolves scope pre = some href)
    (hns : ∀ attr ∈ properties, ∀ p ∈ attr.ns, p.InScope (inner ++ scope)) :
    (copyProps fresh (inner ++ scope) inner rootDefs properties).1.map DomAttr.expanded =
      properties.map DomAttr.expanded := by
  induction properties generalizing rootDefs with
  | nil => rfl
  | cons attr properties ih =>
    have hfirst : (copyNs fresh (inner ++ scope) inner rootDefs attr.ns).1.map (·.href) =
        attr.ns.map (·.href) := href_copyNs fresh hxml hagrees (hns attr List.mem_cons_self)
    have hrest := ih ((declares_copyNs fresh inner attr.ns).agrees hagrees)
      fun attr hattr => hns attr (List.mem_cons_of_mem _ hattr)
    rw [copyProps, List.map_cons, List.map_cons]
    refine congrArg₂ List.cons ?_ hrest
    rw [DomAttr.expanded, hfirst]
    rfl

mutual

theorem expanded_copyNode (hxml : resolves scope (some "xml") = some xmlDecl.href) :
    ∀ (t : DomNode) (inner rootDefs : List NsDecl),
      (∀ pre href, resolves rootDefs pre = some href → resolves scope pre = some href) →
      t.WellScoped (inner ++ scope) →
      (copyNode fresh (inner ++ scope) inner rootDefs t).1.expanded = t.expanded
  | element name ns nsDef properties children, inner, rootDefs, hagrees, hscoped => by
    obtain ⟨helement, hchildren⟩ := hscoped
    rw [← List.append_assoc] at helement hchildren
    rw [copyNode, ← List.append_assoc]
    have hagrees' := (declares_copyNs fresh (nsDef ++ inner) ns).agrees hagrees
    have hprops := expanded_copyProps fresh hxml hagrees'
      fun attr hattr p hp => (helement.attributeNs attr hattr p hp).1
    have hns := href_copyNs fresh hxml hagrees fun p hp => (helement.elementNs p hp).1
    have hrest := expanded_copyNodeList hxml children (nsDef ++ inner) _
      ((declares_copyProps fresh (nsDef ++ inner) properties).agrees hagrees')
      hchildren
    exact XmlNode.element.injEq .. ▸ ⟨hns, rfl, hprops, hrest⟩
  | leaf _, _, _, _, _ => rfl

theorem expanded_copyNodeList (hxml : resolves scope (some "xml") = some xmlDecl.href) :
    ∀ (ts : List DomNode) (inner rootDefs : List NsDecl),
      (∀ pre href, resolves rootDefs pre = some href → resolves scope pre = some href) →
      WellScopedList (inner ++ scope) ts →
      expandedList (copyNodeList fresh (inner ++ scope) inner rootDefs ts).1 = expandedList ts
  | [], _, _, _, _ => rfl
  | t :: ts, inner, rootDefs, hagrees, hscoped => by
    have hrest := expanded_copyNodeList hxml ts inner _
      ((declares_copyNode fresh t inner rootDefs).agrees hagrees) hscoped.2
    rw [copyNodeList, expandedList, expandedList,
      expanded_copyNode hxml t inner rootDefs hagrees hscoped.1, hrest]

end

/-! ## The scopes -/

mutual

/-- Below the root, a copied node has the declarations of its original. -/
theorem scopeAt_copyNode : ∀ (t : DomNode) (scope' inner rootDefs outer : List NsDecl)
    (path : List Nat),
      (copyNode fresh scope' inner rootDefs t).1.scopeAt outer path = t.scopeAt outer path
  | element _ _ _ _ _, _, _, _, _, [] => rfl
  | element _ _ nsDef _ children, _, _, _, outer, i :: path =>
    scopeAt_copyNodeList children _ _ _ (nsDef ++ outer) i path
  | leaf _, _, _, _, _, _ => rfl

theorem scopeAt_copyNodeList : ∀ (ts : List DomNode) (scope' inner rootDefs outer : List NsDecl)
    (i : Nat) (path : List Nat),
      ((copyNodeList fresh scope' inner rootDefs ts).1[i]?).bind (scopeAt outer · path) =
        (ts[i]?).bind (scopeAt outer · path)
  | [], _, _, _, _, _, _ => rfl
  | t :: _, _, _, _, outer, 0, path => scopeAt_copyNode t _ _ _ outer path
  | _ :: ts, _, _, _, outer, i + 1, path => scopeAt_copyNodeList ts _ _ _ outer i path

end

/-- Scopes in which every prefix means the same keep that further down. -/
theorem scopeAt_congr {outer outer' : List NsDecl} (h : resolves outer' = resolves outer)
    (path : List Nat) (t : DomNode) :
    (t.scopeAt outer' path).map resolves = (t.scopeAt outer path).map resolves := by
  have hdown (nsDef : List NsDecl) {outer outer' : List NsDecl}
      (h : resolves outer' = resolves outer) :
      resolves (nsDef ++ outer') = resolves (nsDef ++ outer) := by
    funext pre
    rw [resolves_append, resolves_append, h]
  induction path generalizing t outer outer' with
  | nil =>
    cases t with
    | element name ns nsDef properties children => exact congrArg some (hdown nsDef h)
    | leaf node => rfl
  | cons i path ih =>
    cases t with
    | element name ns nsDef properties children =>
      rw [scopeAt, scopeAt]
      cases children[i]? with
      | none => rfl
      | some t => exact ih (hdown nsDef h) t
    | leaf node => rfl

/-! ## Elements of a document -/

variable {document t : DomNode} {ancestors : List (List NsDecl)}

theorem wellScoped_of_mem {ts : List DomNode} (h : WellScopedList scope ts) (ht : t ∈ ts) :
    t.WellScoped scope := by
  induction ts with
  | nil => cases ht
  | cons t' ts ih =>
    rcases List.mem_cons.mp ht with rfl | ht
    · exact h.1
    · exact ih h.2 ht

/-- An element of a document in scope is in scope itself, and no ancestor declares `xml`. -/
theorem Below.wellScoped (h : Below document ancestors t)
    (hdocument : document.WellScoped [xmlDecl]) :
    t.WellScoped (ancestors.flatten ++ [xmlDecl]) ∧
      ∀ d ∈ ancestors.flatten, d.pre ≠ some "xml" := by
  induction h with
  | root => exact ⟨hdocument, nofun⟩
  | child _ ht ih =>
    obtain ⟨⟨helement, hchildren⟩, hxml⟩ := ih
    rw [List.flatten_cons, List.append_assoc]
    refine ⟨wellScoped_of_mem hchildren ht, fun d hd => ?_⟩
    rcases List.mem_append.mp hd with hd | hd
    · exact helement.noXml d hd
    · exact hxml d hd

theorem resolves_eq_none (h : ∀ d ∈ scope, d.pre ≠ pre) : resolves scope pre = none := by
  have hnone : xmlSearchNs scope pre = none := by simpa [xmlSearchNs] using h
  rw [resolves_eq, hnone]
  rfl

/-- With the declarations of its ancestors, the root of the copy has the scope of its original. -/
theorem resolves_inherit_copy (fresh : Nat) {nsDef : List NsDecl}
    (h : Declares (nsDef ++ (ancestors.flatten ++ [xmlDecl])) nsDef rootDefs)
    (hagrees : ∀ pre href, resolves nsDef pre = some href →
      resolves (nsDef ++ (ancestors.flatten ++ [xmlDecl])) pre = some href) :
    resolves (ancestors.foldl (inheritNsDef fresh) rootDefs ++ [xmlDecl]) =
      resolves (nsDef ++ (ancestors.flatten ++ [xmlDecl])) := by
  funext pre
  obtain ⟨added, rfl⟩ := h.grows
  have hadded := h.agrees hagrees pre
  simp only [resolves_append, resolves_inherit] at hadded ⊢
  cases hown : resolves nsDef pre with
  | some href => rfl
  | none =>
    rw [hown, Option.none_or, Option.none_or] at hadded
    cases hfound : resolves added pre with
    | some href => simpa using (hadded href hfound).symm
    | none => simp

/-- For every element of a document, the copy has the same names, and at each of its elements every
prefix, and the default namespace, is resolved as at the original in its document. -/
theorem resolvesAs_setOriginalXmlnode (fresh : Nat) (h : Below document ancestors t)
    (hdocument : document.WellScoped [xmlDecl]) :
    ResolvesAs (ancestors.flatten ++ [xmlDecl]) t [xmlDecl]
      (setOriginalXmlnode fresh ancestors t) := by
  obtain ⟨hscoped, hxml⟩ := h.wellScoped hdocument
  cases t with
  | leaf node => exact ⟨rfl, fun path => by cases path <;> rfl⟩
  | element name ns nsDef properties children =>
    obtain ⟨helement, hchildren⟩ := hscoped
    have hxmlDecl : resolves (nsDef ++ (ancestors.flatten ++ [xmlDecl])) (some "xml") =
        some xmlDecl.href := by
      rw [resolves_append, resolves_append, resolves_eq_none helement.noXml,
        resolves_eq_none hxml]
      rfl
    have hagrees : ∀ pre href, resolves nsDef pre = some href →
        resolves (nsDef ++ (ancestors.flatten ++ [xmlDecl])) pre = some href := by
      intro pre href hfound
      rw [resolves_append, hfound, Option.some_or]
    have hns := href_copyNs fresh hxmlDecl hagrees fun p hp =>
      show p.InScope ([] ++ _) from (helement.elementNs p hp).1
    have hdeclaresNs : Declares (nsDef ++ (ancestors.flatten ++ [xmlDecl])) nsDef _ :=
      declares_copyNs fresh [] ns
    have hprops := expanded_copyProps fresh hxmlDecl (hdeclaresNs.agrees hagrees)
      fun attr hattr p hp => show p.InScope ([] ++ _) from (helement.attributeNs attr hattr p hp).1
    have hdeclaresProps := hdeclaresNs.trans (declares_copyProps fresh [] properties)
    have hrest := expanded_copyNodeList fresh hxmlDecl children [] _
      (hdeclaresProps.agrees hagrees) hchildren
    have hdeclares := hdeclaresProps.trans (declares_copyNodeList fresh children [] _)
    refine ⟨XmlNode.element.injEq .. ▸ ⟨hns, rfl, hprops, hrest⟩, fun path => ?_⟩
    have hroot := resolves_inherit_copy fresh hdeclares hagrees
    cases path with
    | nil => exact congrArg some hroot
    | cons i path =>
      refine (congrArg (Option.map resolves)
        (scopeAt_copyNodeList fresh children _ _ _ _ i path)).trans ?_
      rw [scopeAt]
      cases children[i]? with
      | none => rfl
      | some t => exact scopeAt_congr hroot path t

end

/-- `<r xmlns:q="h1" xmlns:p="h3"><q:a xmlns:q="h2"><q:b p:n="1"/></q:a></r>` -/
def shadowingTree : DomNode :=
  element "r" none [qDecl 1 "h1", ⟨3, some "p", "h3"⟩] []
    [element "a" (some (qDecl 2 "h2")) [qDecl 2 "h2"] []
      [element "b" (some (qDecl 2 "h2")) [] [⟨"n", some ⟨3, some "p", "h3"⟩, "1"⟩] []]]

theorem shadowingTree_wellScoped : shadowingTree.WellScoped [xmlDecl] := by
  refine ⟨⟨by decide, by decide, nofun, fun _ => by decide, nofun⟩,
    ⟨⟨?_, ⟨⟨?_, trivial⟩, trivial⟩⟩, trivial⟩⟩
  · exact ⟨by decide, by decide, by rintro p ⟨⟩; decide, nofun, nofun⟩
  · exact ⟨by decide, by decide, by rintro p ⟨⟩; decide, nofun, by
      intro attr hattr p hp
      obtain rfl := List.mem_singleton.mp hattr
      cases hp
      decide⟩

/-- The inner element is cut out with the nearer one of two declarations. -/
theorem resolvesAs_shadowed :
    ResolvesAs [qDecl 2 "h2", qDecl 1 "h1", ⟨3, some "p", "h3"⟩, xmlDecl]
      (element "b" (some (qDecl 2 "h2")) [] [⟨"n", some ⟨3, some "p", "h3"⟩, "1"⟩] [])
      [xmlDecl]
      (setOriginalXmlnode 4 [[qDecl 2 "h2"], [qDecl 1 "h1", ⟨3, some "p", "h3"⟩]]
        (element "b" (some (qDecl 2 "h2")) [] [⟨"n", some ⟨3, some "p", "h3"⟩, "1"⟩] [])) :=
  resolvesAs_setOriginalXmlnode 4
    (.child (.child .root List.mem_cons_self) List.mem_cons_self) shadowingTree_wellScoped

end DomNode

end Lasso
