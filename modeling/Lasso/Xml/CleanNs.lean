import Lasso.Library.Scopes
import Lasso.Xml.Node

/-!
# Cleaning namespace declarations

`xmlCleanNs` moves the declarations of a tree to its root. The first declaration of each prefix is
copied there, then the declarations below that say the same as one of the root are removed, and the
names that used them are made to use the one of the root.

Here a node holds its `xmlNs *` pointers, as the declarations that they lead to, each with its
address. What is written has prefixes only, and the reader resolves them again.

## Main definitions

* `DomNode` — a tree with declarations and pointers to them.
* `DomNode.xmlCleanNs` — the function.
* `DomNode.serialize`, `PrefixedNode.parse` — writing a tree and reading it again.
* `DomNode.WellScoped` — every pointer leads to the declaration in scope for its prefix.
* `DomNode.NothingCaptured` — no name loses its declaration to another one of its prefix.

## Main results

* `DomNode.parse_xmlCleanNs_iff` — cleaning keeps all names exactly if nothing is captured.
-/

namespace Lasso

/-- `xmlNs` -/
structure NsDecl where
  address : Nat
  pre : Option String
  href : String
deriving DecidableEq

/-- `xmlAttr` -/
structure DomAttr where
  name : String
  ns : Option NsDecl
  value : String

/-- `xmlNode`; a leaf is anything but an element. -/
inductive DomNode where
  | element (name : String) (ns : Option NsDecl) (nsDef : List NsDecl) (properties : List DomAttr)
    (children : List DomNode)
  | leaf (node : XmlNode)

/-- `sameNs` -/
def sameNs : Option NsDecl → Option NsDecl → Bool
  | none, none => true
  | some ns1, some ns2 =>
    ns1.pre.isSome && ns2.pre.isSome && ns1.pre == ns2.pre && ns1.href == ns2.href
  | _, _ => false

/-- `xmlNewNs`, with an address from the ones that are free from `fresh` on: a prefix that is
declared already is refused. -/
def xmlNewNs (fresh : Nat) (nsDef : List NsDecl) (href : String) (pre : Option String) :
    List NsDecl :=
  if nsDef.any (·.pre == pre) then nsDef else nsDef ++ [⟨fresh + nsDef.length, pre, href⟩]

/-- `xmlPropUseNsDef` -/
def xmlPropUseNsDef (ns : NsDecl) (properties : List DomAttr) : List DomAttr :=
  properties.map fun attr =>
    if sameNs (some ns) attr.ns then { attr with ns := some ns } else attr

/-- The loop of `xmlUseNsDef` behind the first declaration. The one after a removed declaration is
not looked at. -/
def removeNext (ns : NsDecl) : List NsDecl → List NsDecl
  | [] => []
  | ns2 :: nsDef =>
    if sameNs (some ns2) (some ns) then
      match nsDef with
      | [] => []
      | ns3 :: nsDef => ns3 :: removeNext ns nsDef
    else ns2 :: removeNext ns nsDef

/-- The declarations that `xmlUseNsDef` leaves on an element. -/
def removeNsDef (ns : NsDecl) : List NsDecl → List NsDecl
  | [] => []
  | ns2 :: nsDef => if sameNs (some ns2) (some ns) then nsDef else ns2 :: removeNext ns nsDef

namespace DomNode

mutual

/-- `xmlDeclareNs`, on the declarations of the root -/
def xmlDeclareNs (fresh : Nat) (rootDefs : List NsDecl) : DomNode → List NsDecl
  | element name _ nsDef _ children =>
    if name = "Signature" then rootDefs
    else
      let rootDefs := nsDef.foldl (fun rootDefs ns =>
        if ns.pre.isSome && ns.pre != some "xsi" then xmlNewNs fresh rootDefs ns.href ns.pre
        else rootDefs) rootDefs
      xmlDeclareNsList fresh rootDefs children
  | leaf _ => rootDefs

def xmlDeclareNsList (fresh : Nat) (rootDefs : List NsDecl) : List DomNode → List NsDecl
  | [] => rootDefs
  | t :: ts => xmlDeclareNsList fresh (xmlDeclareNs fresh rootDefs t) ts

end

mutual

/-- `xmlUseNsDef` -/
def xmlUseNsDef (ns : NsDecl) : DomNode → DomNode
  | element name ns' nsDef properties children =>
    element name (if sameNs (some ns) ns' then some ns else ns') (removeNsDef ns nsDef)
      (xmlPropUseNsDef ns properties) (xmlUseNsDefList ns children)
  | leaf node => leaf node

def xmlUseNsDefList (ns : NsDecl) : List DomNode → List DomNode
  | [] => []
  | t :: ts => xmlUseNsDef ns t :: xmlUseNsDefList ns ts

end

/-- `xmlCleanNs` -/
def xmlCleanNs (fresh : Nat) : DomNode → DomNode
  | element name ns nsDef properties children =>
    let nsDef := xmlDeclareNsList fresh nsDef children
    element name ns nsDef properties
      (nsDef.foldl (fun children ns => xmlUseNsDefList ns children) children)
  | leaf node => leaf node

/-! ## The names -/

mutual

/-- The tree with the names that its pointers give. -/
def expanded : DomNode → XmlNode
  | element name ns _ properties children =>
    .element (ns.map (·.href)) name
      (properties.map fun attr => ⟨attr.name, attr.ns.map (·.href), attr.value⟩)
      (expandedList children)
  | leaf node => node

def expandedList : List DomNode → List XmlNode
  | [] => []
  | t :: ts => expanded t :: expandedList ts

end

end DomNode

/-- An attribute as it is written. -/
structure PrefixedAttr where
  pre : Option String
  name : String
  value : String

/-- A tree as it is written. -/
inductive PrefixedNode where
  | element (pre : Option String) (name : String) (nsDef : List (Option String × String))
    (attrs : List PrefixedAttr) (children : List PrefixedNode)
  | leaf (node : XmlNode)

/-- What a declaration says. -/
def NsDecl.binding (ns : NsDecl) : Option String × String := (ns.pre, ns.href)

namespace DomNode

mutual

/-- `xmlNodeDump` -/
def serialize : DomNode → PrefixedNode
  | element name ns nsDef properties children =>
    .element (ns.bind (·.pre)) name (nsDef.map (·.binding))
      (properties.map fun attr => ⟨attr.ns.bind (·.pre), attr.name, attr.value⟩)
      (serializeList children)
  | leaf node => .leaf node

def serializeList : List DomNode → List PrefixedNode
  | [] => []
  | t :: ts => serialize t :: serializeList ts

end

end DomNode

namespace PrefixedNode

/-- The namespace and the local name of a written name. With an empty URI there is no namespace, and
a prefix that is not declared is part of the name. -/
def resolve (scope : List (Option String × String)) (pre : Option String) (name : String) :
    Option String × String :=
  match pre, scope.lookup pre with
  | some pre, none => (none, pre ++ ":" ++ name)
  | _, href => (href.filter (· ≠ ""), name)

/-- An attribute without a prefix has no namespace. -/
def resolveAttr (scope : List (Option String × String)) (attr : PrefixedAttr) : XmlAttr :=
  match attr.pre with
  | none => { name := attr.name, value := attr.value }
  | some pre =>
    let (ns, name) := resolve scope (some pre) attr.name
    { name, ns, value := attr.value }

mutual

/-- The tree that is read, with the bindings in scope. -/
def parse (scope : List (Option String × String)) : PrefixedNode → XmlNode
  | element pre name nsDef attrs children =>
    let scope := nsDef ++ scope
    let (ns, name) := resolve scope pre name
    .element ns name (attrs.map (resolveAttr scope)) (parseList scope children)
  | leaf node => node

def parseList (scope : List (Option String × String)) : List PrefixedNode → List XmlNode
  | [] => []
  | t :: ts => parse scope t :: parseList scope ts

end

end PrefixedNode

/-! ## Trees in scope -/

/-- The prefix `xml` is bound without a declaration. -/
def xmlDecl : NsDecl := ⟨0, some "xml", "http://www.w3.org/XML/1998/namespace"⟩

/-- The pointer leads to the declaration that its prefix has in the scope. -/
def NsDecl.InScope (scope : List NsDecl) (ns : NsDecl) : Prop :=
  scope.find? (·.pre == ns.pre) = some ns

instance (scope : List NsDecl) (ns : NsDecl) : Decidable (ns.InScope scope) :=
  inferInstanceAs (Decidable (_ = _))

/-- The declarations and the pointers of one element, with the scope that it has then. -/
structure ElementWellScoped (scope : List NsDecl) (ns : Option NsDecl) (nsDef : List NsDecl)
    (properties : List DomAttr) : Prop where
  distinct : (nsDef.map (·.pre)).Nodup
  noXml : ∀ d ∈ nsDef, d.pre ≠ some "xml"
  elementNs : ∀ p ∈ ns, p.InScope scope ∧ p.href ≠ ""
  noElementNs : ns = none → ∀ d, scope.find? (·.pre == none) = some d → d.href = ""
  attributeNs : ∀ attr ∈ properties, ∀ p ∈ attr.ns,
    p.InScope scope ∧ p.href ≠ "" ∧ p.pre.isSome

namespace DomNode

mutual

/-- Every pointer of the tree leads to the declaration in scope for its prefix. -/
def WellScoped (scope : List NsDecl) : DomNode → Prop
  | element _ ns nsDef properties children =>
    ElementWellScoped (nsDef ++ scope) ns nsDef properties ∧
      WellScopedList (nsDef ++ scope) children
  | leaf _ => True

def WellScopedList (scope : List NsDecl) : List DomNode → Prop
  | [] => True
  | t :: ts => WellScoped scope t ∧ WellScopedList scope ts

end

mutual

/-- The declarations that go to the root, in document order. -/
def moved : DomNode → List (Option String × String)
  | element name _ nsDef _ children =>
    if name = "Signature" then []
    else
      (nsDef.filter fun ns => ns.pre.isSome && ns.pre != some "xsi").map (·.binding) ++
        movedList children
  | leaf _ => []

def movedList : List DomNode → List (Option String × String)
  | [] => []
  | t :: ts => moved t ++ movedList ts

end

/-- Where the root binds the prefix of the name as the name does, there is no other binding of the
prefix below the root. -/
def NameUncaptured (bound below : List (Option String × String)) (ns : NsDecl) : Prop :=
  ns.pre.isSome → bound.lookup ns.pre = some ns.href →
    ∀ href, (ns.pre, href) ∈ below → href = ns.href

mutual

/-- No name of the tree is captured, with the bindings `bound` of the root, and the bindings `below`
it that come before the tree. -/
def Uncaptured (bound below : List (Option String × String)) : DomNode → Prop
  | element _ ns nsDef properties children =>
    let below := nsDef.map (·.binding) ++ below
    (∀ p ∈ ns, NameUncaptured bound below p) ∧
      (∀ attr ∈ properties, ∀ p ∈ attr.ns, NameUncaptured bound below p) ∧
      UncapturedList bound below children
  | leaf _ => True

def UncapturedList (bound below : List (Option String × String)) : List DomNode → Prop
  | [] => True
  | t :: ts => Uncaptured bound below t ∧ UncapturedList bound below ts

end

/-- Below the root, every name whose prefix means the same at the root, by a declaration there or
else by the first one that goes there, has no declaration of the prefix in between that means
something else. -/
def NothingCaptured : DomNode → Prop
  | element _ _ nsDef _ children =>
    UncapturedList (nsDef.map (·.binding) ++ movedList children) [] children
  | leaf _ => True

end DomNode

/-! ## What the functions do -/

open Scopes

variable {ns : NsDecl} {nsDef : List NsDecl}

theorem sameNs_iff {ns1 ns2 : NsDecl} :
    sameNs (some ns1) (some ns2) = true ↔ ns1.pre.isSome = true ∧ ns1.binding = ns2.binding := by
  simp only [sameNs, NsDecl.binding, Bool.and_eq_true, beq_iff_eq, Prod.mk.injEq]
  constructor
  · rintro ⟨⟨⟨h1, -⟩, hpre⟩, hhref⟩
    exact ⟨h1, hpre, hhref⟩
  · rintro ⟨h1, hpre, hhref⟩
    exact ⟨⟨⟨h1, hpre ▸ h1⟩, hpre⟩, hhref⟩

theorem bindings_xmlNewNs (fresh : Nat) (nsDef : List NsDecl) (href : String)
    (pre : Option String) : (xmlNewNs fresh nsDef href pre).map (·.binding) =
      declare (nsDef.map (·.binding)) (pre, href) := by
  unfold xmlNewNs declare
  by_cases hbound : ∃ d ∈ nsDef, d.pre = pre
  · rw [if_pos (by simpa using hbound), if_pos (by simpa [NsDecl.binding] using hbound)]
  · rw [if_neg (by simpa using hbound), if_neg (by simpa [NsDecl.binding] using hbound)]
    simp [NsDecl.binding]

namespace DomNode

mutual

theorem bindings_xmlDeclareNs (fresh : Nat) (rootDefs : List NsDecl) : ∀ t : DomNode,
    (xmlDeclareNs fresh rootDefs t).map (·.binding) =
      t.moved.foldl declare (rootDefs.map (·.binding))
  | element name _ nsDef _ children => by
    rw [xmlDeclareNs, moved]
    split_ifs
    · rfl
    · rw [bindings_xmlDeclareNsList fresh _ children, List.foldl_append]
      congr 1
      induction nsDef generalizing rootDefs with
      | nil => rfl
      | cons d nsDef ih =>
        rw [List.foldl_cons, ih, List.filter_cons]
        split_ifs
        · rw [List.map_cons, List.foldl_cons, bindings_xmlNewNs]
          rfl
        · rfl
  | leaf _ => rfl

theorem bindings_xmlDeclareNsList (fresh : Nat) (rootDefs : List NsDecl) : ∀ ts : List DomNode,
    (xmlDeclareNsList fresh rootDefs ts).map (·.binding) =
      (movedList ts).foldl declare (rootDefs.map (·.binding))
  | [] => rfl
  | t :: ts => by
    rw [xmlDeclareNsList, bindings_xmlDeclareNsList fresh _ ts, bindings_xmlDeclareNs fresh _ t,
      movedList, List.foldl_append]

end

end DomNode

/-! ### Removing declarations -/

theorem filter_of_forall_ne (h : ∀ d ∈ nsDef, d.pre ≠ ns.pre) :
    nsDef.filter (fun d => !sameNs (some d) (some ns)) = nsDef := by
  refine List.filter_eq_self.mpr fun d hd => ?_
  rw [Bool.not_eq_true', ← Bool.not_eq_true, sameNs_iff]
  rintro ⟨-, hsame⟩
  exact h d hd (congrArg Prod.fst hsame)

theorem forall_ne_of_nodup_cons {d : NsDecl} (h : ((d :: nsDef).map (·.pre)).Nodup)
    (hsame : sameNs (some d) (some ns) = true) : ∀ d' ∈ nsDef, d'.pre ≠ ns.pre := by
  intro d' hd' hpre
  have hfirst : d.pre = ns.pre := congrArg Prod.fst (sameNs_iff.mp hsame).2
  exact (List.nodup_cons.mp h).1 (List.mem_map.mpr ⟨d', hd', hpre.trans hfirst.symm⟩)

theorem removeNext_eq_filter (h : (nsDef.map (·.pre)).Nodup) :
    removeNext ns nsDef = nsDef.filter fun d => !sameNs (some d) (some ns) := by
  fun_induction removeNext ns nsDef with
  | case1 => rfl
  | case2 d hsame => simp [hsame]
  | case3 d hsame d' nsDef ih =>
    have hne := forall_ne_of_nodup_cons h hsame
    have hrest := ih (List.nodup_cons.mp (List.nodup_cons.mp h).2).2
    rw [List.filter_cons, if_neg (by simp [hsame]), filter_of_forall_ne hne, hrest,
      filter_of_forall_ne fun d hd => hne d (List.mem_cons_of_mem _ hd)]
  | case4 d nsDef hsame ih =>
    rw [List.filter_cons, if_pos (by simpa using hsame), ih (List.nodup_cons.mp h).2]

theorem removeNsDef_eq_filter (h : (nsDef.map (·.pre)).Nodup) :
    removeNsDef ns nsDef = nsDef.filter fun d => !sameNs (some d) (some ns) := by
  cases nsDef with
  | nil => rfl
  | cons d nsDef =>
    rw [removeNsDef, List.filter_cons]
    by_cases hsame : sameNs (some d) (some ns) = true
    · rw [if_pos hsame, if_neg (by simp [hsame]),
        filter_of_forall_ne (forall_ne_of_nodup_cons h hsame)]
    · rw [if_neg hsame, if_pos (by simpa using hsame),
        removeNext_eq_filter (List.nodup_cons.mp h).2]

/-- What stays of the bindings below a root with the bindings `bound`. -/
def stays (bound : List (Option String × String)) (binding : Option String × String) : Bool :=
  !(binding.1.isSome && bound.contains binding)

/-- The declarations that are left when those like one of `defs` are removed. -/
theorem bindings_foldl_removeNsDef (defs : List NsDecl) (h : (nsDef.map (·.pre)).Nodup) :
    (defs.foldl (fun nsDef ns => removeNsDef ns nsDef) nsDef).map (·.binding) =
      (nsDef.map (·.binding)).filter (stays (defs.map (·.binding))) := by
  induction defs generalizing nsDef with
  | nil =>
    refine (List.filter_eq_self.mpr fun binding _ => ?_).symm
    simp [stays]
  | cons d defs ih =>
    have hnodup : ((removeNsDef d nsDef).map (·.pre)).Nodup := by
      rw [removeNsDef_eq_filter h]
      exact h.sublist (List.filter_sublist.map _)
    rw [List.foldl_cons, ih hnodup, removeNsDef_eq_filter h, List.filter_map, List.filter_map,
      List.filter_filter]
    congr 1
    refine List.filter_congr fun d' _ => ?_
    rw [Bool.eq_iff_iff]
    simp only [stays, Function.comp_apply, Bool.and_eq_true, Bool.not_eq_true', ← Bool.not_eq_true,
      sameNs_iff, List.contains_iff_mem, List.map_cons, List.mem_cons]
    show (¬(d'.pre.isSome = true ∧ _) ∧ ¬(d'.pre.isSome = true ∧ _)) ↔
      ¬(d'.pre.isSome = true ∧ _)
    tauto

/-! ### Using the declarations of the root -/

namespace DomNode

theorem bind_pre_of_sameNs {ns : NsDecl} {p : Option NsDecl} :
    (if sameNs (some ns) p then some ns else p).bind (·.pre) = p.bind (·.pre) := by
  split_ifs with hsame
  · cases p with
    | none => cases hsame
    | some p => exact congrArg Prod.fst (sameNs_iff.mp hsame).2
  · rfl

/-- The tree after `xmlUseNsDef` for each of the declarations. -/
def useNsDefs (defs : List NsDecl) (t : DomNode) : DomNode :=
  defs.foldl (fun t ns => xmlUseNsDef ns t) t

def useNsDefsList (defs : List NsDecl) (ts : List DomNode) : List DomNode :=
  defs.foldl (fun ts ns => xmlUseNsDefList ns ts) ts

theorem useNsDefsList_nil (defs : List NsDecl) : useNsDefsList defs [] = [] := by
  unfold useNsDefsList
  induction defs with
  | nil => rfl
  | cons d defs ih => exact ih

theorem useNsDefsList_cons (defs : List NsDecl) (t : DomNode) (ts : List DomNode) :
    useNsDefsList defs (t :: ts) = useNsDefs defs t :: useNsDefsList defs ts := by
  unfold useNsDefsList useNsDefs
  induction defs generalizing t ts with
  | nil => rfl
  | cons d defs ih =>
    rw [List.foldl_cons, xmlUseNsDefList, ih]
    rfl

theorem useNsDefs_leaf (defs : List NsDecl) (node : XmlNode) :
    useNsDefs defs (leaf node) = leaf node := by
  unfold useNsDefs
  induction defs with
  | nil => rfl
  | cons d defs ih => exact ih

/-- The names are written as before, with the declarations that are left. -/
theorem serialize_useNsDefs (defs : List NsDecl) (name : String) (ns : Option NsDecl)
    (nsDef : List NsDecl) (properties : List DomAttr) (children : List DomNode) :
    (useNsDefs defs (element name ns nsDef properties children)).serialize =
      .element (ns.bind (·.pre)) name
        ((defs.foldl (fun nsDef ns => removeNsDef ns nsDef) nsDef).map (·.binding))
        (properties.map fun attr => ⟨attr.ns.bind (·.pre), attr.name, attr.value⟩)
        (serializeList (useNsDefsList defs children)) := by
  unfold useNsDefs useNsDefsList
  induction defs generalizing ns nsDef properties children with
  | nil => rfl
  | cons d defs ih =>
    simp only [List.foldl_cons, xmlUseNsDef]
    rw [ih, bind_pre_of_sameNs, xmlPropUseNsDef, List.map_map]
    congr 1
    refine List.map_congr_left fun attr _ => ?_
    have hpre : (if sameNs (some d) attr.ns then some d else attr.ns).bind (·.pre) =
      attr.ns.bind (·.pre) := bind_pre_of_sameNs
    by_cases hsame : sameNs (some d) attr.ns = true
    · rw [if_pos hsame] at hpre
      simp [hsame, hpre]
    · simp [hsame]

end DomNode

/-! ## Reading the names again -/

/-- The binding of `xml`. -/
def xmlBinding : Option String × String := xmlDecl.binding

/-- The declarations of the root after the ones below went there: each prefix has the first of its
bindings in `bound`, which begins with the ones of `nsDef`. -/
structure Merged (nsDef : List NsDecl) (bound : List (Option String × String))
    (defs : List NsDecl) : Prop where
  distinct : ((defs.map (·.binding)).map Prod.fst).Nodup
  noXml : ∀ href, (some "xml", href) ∉ defs.map (·.binding)
  lookup : ∀ pre, (defs.map (·.binding)).lookup pre = bound.lookup pre
  declared : ∀ pre href, (nsDef.map (·.binding)).lookup pre = some href →
    bound.lookup pre = some href
  default : bound.lookup none = (nsDef.map (·.binding)).lookup none

theorem lookup_bindings (scope : List NsDecl) (pre : Option String) :
    (scope.map (·.binding)).lookup pre = (scope.find? (·.pre == pre)).map (·.href) := by
  induction scope with
  | nil => rfl
  | cons d scope ih =>
    rw [List.map_cons, List.find?_cons]
    by_cases hpre : d.pre = pre
    · subst hpre
      simp [NsDecl.binding]
    · rw [NsDecl.binding, lookup_cons_of_ne (Ne.symm hpre), ih, beq_eq_false_iff_ne.mpr hpre]

namespace PrefixedNode

theorem resolve_eq_iff {scope : List (Option String × String)} {pre : Option String}
    {name href : String} (h : href ≠ "") :
    resolve scope pre name = (some href, name) ↔ scope.lookup pre = some href := by
  unfold resolve
  cases pre <;> cases hlookup : scope.lookup _ <;> simp [Option.filter_eq_some_iff, h]

end PrefixedNode

section

variable {rootDefs defs below : List NsDecl} {bound : List (Option String × String)}

/-- The scope of a name below the root, after the cleaning. -/
def cleanedScope (defs below : List NsDecl) : List (Option String × String) :=
  (below.map (·.binding)).filter (stays (defs.map (·.binding))) ++
    (defs.map (·.binding) ++ [xmlBinding])

/-- The default namespaces stay where they are. -/
theorem lookup_none_cleanedScope (h : Merged rootDefs bound defs) :
    (cleanedScope defs below).lookup none =
      ((below ++ rootDefs ++ [xmlDecl]).map (·.binding)).lookup none := by
  have hbelow : ((below.map (·.binding)).filter (stays (defs.map (·.binding)))).lookup none =
      (below.map (·.binding)).lookup none := lookup_filter_of_forall fun _ _ => by simp [stays]
  simp only [cleanedScope, List.map_append, List.lookup_append, hbelow, h.lookup, h.default,
    Option.or_assoc]
  rfl

theorem lookup_append_xmlBinding (h : Merged rootDefs bound defs) {pre : Option String}
    (hpre : pre ≠ some "xml") :
    (defs.map (·.binding) ++ [xmlBinding]).lookup pre = bound.lookup pre := by
  have hnone : [xmlBinding].lookup pre = none := lookup_cons_of_ne hpre
  rw [List.lookup_append, h.lookup, hnone, Option.or_none]

theorem notMem_of_xml (hxml : ∀ d ∈ below, d.pre ≠ some "xml") (href : String) :
    (some "xml", href) ∉ below.map (·.binding) := by
  intro hmem
  obtain ⟨d, hd, hbinding⟩ := List.mem_map.mp hmem
  exact hxml d hd (congrArg Prod.fst hbinding)

/-- A name that was in scope means the same after the cleaning, unless it is captured. -/
theorem lookup_cleanedScope_iff (h : Merged rootDefs bound defs)
    (hxml : ∀ d ∈ below, d.pre ≠ some "xml") {p : NsDecl}
    (hp : p.InScope (below ++ rootDefs ++ [xmlDecl])) :
    (cleanedScope defs below).lookup p.pre = some p.href ↔
      DomNode.NameUncaptured bound (below.map (·.binding)) p := by
  have hlookup : (below.map (·.binding) ++ (rootDefs.map (·.binding) ++ [xmlBinding])).lookup
      p.pre = some p.href := by
    have hall := lookup_bindings (below ++ rootDefs ++ [xmlDecl]) p.pre
    rw [hp] at hall
    simpa [xmlBinding] using hall
  cases hpre : p.pre with
  | none =>
    refine iff_of_true ?_ fun hsome => by simp [hpre] at hsome
    rw [lookup_none_cleanedScope h, ← hlookup, hpre]
    simp [xmlBinding]
  | some q =>
    rw [hpre] at hlookup
    have houter : ∀ href, (rootDefs.map (·.binding) ++ [xmlBinding]).lookup (some q) = some href →
        (defs.map (·.binding) ++ [xmlBinding]).lookup (some q) = some href := by
      intro href hfound
      rw [List.lookup_append] at hfound ⊢
      rw [h.lookup]
      cases hroot' : (rootDefs.map (·.binding)).lookup (some q) with
      | some href' =>
        rw [hroot'] at hfound
        rw [h.declared _ _ hroot']
        exact hfound
      | none =>
        rw [hroot', Option.none_or] at hfound
        by_cases hq : some q = some "xml"
        · rw [← h.lookup, hq, lookup_eq_none_iff_notMem.mpr h.noXml, ← hq]
          exact hfound
        · cases hfound.symm.trans (lookup_cons_of_ne hq)
    have hne : ∀ href, (some q, href) ∈ below.map (·.binding) → some q ≠ some "xml" :=
      fun href hmem hq => notMem_of_xml hxml href (hq ▸ hmem)
    have hkeep : ∀ href, (some q, href) ∈ below.map (·.binding) →
        (stays (defs.map (·.binding)) (some q, href) = false ↔
          (defs.map (·.binding) ++ [xmlBinding]).lookup (some q) = some href) := by
      intro href hmem
      rw [lookup_append_xmlBinding h (hne href hmem), ← h.lookup,
        lookup_eq_some_iff_mem h.distinct]
      simp [stays]
    refine (lookup_filter_append_iff hlookup houter hkeep).trans ?_
    rw [DomNode.NameUncaptured, hpre]
    constructor
    · intro hall _ hbound href hmem
      refine hall ?_ href hmem
      rw [lookup_append_xmlBinding h (hne href hmem)]
      exact hbound
    · intro hall hfound href hmem
      refine hall rfl ?_ href hmem
      rwa [lookup_append_xmlBinding h (hne href hmem)] at hfound

namespace DomNode

open PrefixedNode

variable {ns : Option NsDecl} {properties : List DomAttr}

/-- The name of an element is read as it was, unless it is captured. -/
theorem resolve_elementNs_iff (h : Merged rootDefs bound defs)
    (hxml : ∀ d ∈ below, d.pre ≠ some "xml")
    (hscoped : ElementWellScoped (below ++ rootDefs ++ [xmlDecl]) ns nsDef properties)
    (name : String) :
    resolve (cleanedScope defs below) (ns.bind (·.pre)) name = (ns.map (·.href), name) ↔
      ∀ p ∈ ns, NameUncaptured bound (below.map (·.binding)) p := by
  cases ns with
  | none =>
    refine iff_of_true ?_ fun p hp => by cases hp
    have hdefault := hscoped.noElementNs rfl
    rw [Option.bind_none, resolve, lookup_none_cleanedScope h, lookup_bindings]
    · cases hfind : (below ++ rootDefs ++ [xmlDecl]).find? (·.pre == none) with
      | none => rfl
      | some d => simp [hdefault d hfind]
    · simp
  | some p =>
    obtain ⟨hp, hhref⟩ := hscoped.elementNs p rfl
    rw [Option.bind_some, Option.map_some, resolve_eq_iff hhref,
      lookup_cleanedScope_iff h hxml hp]
    simp

/-- The same for an attribute. -/
theorem resolveAttr_iff (h : Merged rootDefs bound defs) (hxml : ∀ d ∈ below, d.pre ≠ some "xml")
    (hscoped : ElementWellScoped (below ++ rootDefs ++ [xmlDecl]) ns nsDef properties)
    {attr : DomAttr} (hattr : attr ∈ properties) :
    resolveAttr (cleanedScope defs below) ⟨attr.ns.bind (·.pre), attr.name, attr.value⟩ =
        ⟨attr.name, attr.ns.map (·.href), attr.value⟩ ↔
      ∀ p ∈ attr.ns, NameUncaptured bound (below.map (·.binding)) p := by
  cases hns : attr.ns with
  | none => exact iff_of_true rfl fun p hp => by cases hp
  | some p =>
    obtain ⟨hp, hhref, hpre⟩ := hscoped.attributeNs attr hattr p hns
    obtain ⟨q, hq⟩ := Option.isSome_iff_exists.mp hpre
    have hread : resolve (cleanedScope defs below) p.pre attr.name = (some p.href, attr.name) ↔
        NameUncaptured bound (below.map (·.binding)) p :=
      (resolve_eq_iff hhref).trans (lookup_cleanedScope_iff h hxml hp)
    rw [hq, Prod.ext_iff] at hread
    simp [resolveAttr, hq, and_comm, ← hread]

mutual

/-- A tree below the root is read as it was exactly if nothing of it is captured. -/
theorem parse_useNsDefs_iff (h : Merged rootDefs bound defs) :
    ∀ (t : DomNode) (below : List NsDecl), (∀ d ∈ below, d.pre ≠ some "xml") →
      t.WellScoped (below ++ rootDefs ++ [xmlDecl]) →
      ((useNsDefs defs t).serialize.parse (cleanedScope defs below) = t.expanded ↔
        t.Uncaptured bound (below.map (·.binding)))
  | element name ns nsDef properties children, below, hxml, hscoped => by
    obtain ⟨helement, hchildren⟩ := hscoped
    rw [← List.append_assoc, ← List.append_assoc] at helement hchildren
    have hxml' : ∀ d ∈ nsDef ++ below, d.pre ≠ some "xml" := by
      intro d hd
      rcases List.mem_append.mp hd with hd | hd
      · exact helement.noXml d hd
      · exact hxml d hd
    have hscope : (defs.foldl (fun nsDef ns => removeNsDef ns nsDef) nsDef).map (·.binding) ++
        cleanedScope defs below = cleanedScope defs (nsDef ++ below) := by
      rw [bindings_foldl_removeNsDef defs helement.distinct, cleanedScope, cleanedScope,
        List.map_append, List.filter_append, List.append_assoc]
    have hname := resolve_elementNs_iff h hxml' helement name
    have hattrs : (properties.map fun attr => resolveAttr (cleanedScope defs (nsDef ++ below))
          ⟨attr.ns.bind (·.pre), attr.name, attr.value⟩) =
        (properties.map fun attr => ⟨attr.name, attr.ns.map (·.href), attr.value⟩) ↔
        ∀ attr ∈ properties, ∀ p ∈ attr.ns,
          NameUncaptured bound ((nsDef ++ below).map (·.binding)) p := by
      rw [List.map_inj_left]
      exact forall₂_congr fun attr hattr => resolveAttr_iff h hxml' helement hattr
    have hrest := parseList_useNsDefs_iff h children (nsDef ++ below) hxml' hchildren
    rw [Prod.ext_iff] at hname
    rw [serialize_useNsDefs, parse, hscope, expanded, Uncaptured, ← List.map_append, ← hname,
      ← hattrs, ← hrest]
    simp [and_assoc]
  | leaf node, below, _, _ => by
    rw [useNsDefs_leaf]
    exact iff_of_true rfl trivial

theorem parseList_useNsDefs_iff (h : Merged rootDefs bound defs) :
    ∀ (ts : List DomNode) (below : List NsDecl), (∀ d ∈ below, d.pre ≠ some "xml") →
      WellScopedList (below ++ rootDefs ++ [xmlDecl]) ts →
      (parseList (cleanedScope defs below) (serializeList (useNsDefsList defs ts)) =
          expandedList ts ↔
        UncapturedList bound (below.map (·.binding)) ts)
  | [], _, _, _ => by
    rw [useNsDefsList_nil]
    exact iff_of_true rfl trivial
  | t :: ts, below, hxml, hscoped => by
    rw [useNsDefsList_cons, serializeList, parseList, expandedList, List.cons.injEq,
      parse_useNsDefs_iff h t below hxml hscoped.1,
      parseList_useNsDefs_iff h ts below hxml hscoped.2, UncapturedList]

end

/-! ## The root -/

mutual

theorem moved_of_wellScoped : ∀ (t : DomNode) {scope : List NsDecl}, t.WellScoped scope →
    ∀ b ∈ t.moved, b.1.isSome = true ∧ b.1 ≠ some "xml"
  | element name _ nsDef _ children, scope, hscoped, b, hb => by
    rw [moved] at hb
    split_ifs at hb
    · cases hb
    · rcases List.mem_append.mp hb with hb | hb
      · obtain ⟨d, hd, rfl⟩ := List.mem_map.mp hb
        obtain ⟨hd, hmoved⟩ := List.mem_filter.mp hd
        exact ⟨((Bool.and_eq_true _ _).mp hmoved).1, hscoped.1.noXml d hd⟩
      · exact movedList_of_wellScoped children hscoped.2 b hb
  | leaf _, _, _, _, hb => by cases hb

theorem movedList_of_wellScoped : ∀ (ts : List DomNode) {scope : List NsDecl},
    WellScopedList scope ts → ∀ b ∈ movedList ts, b.1.isSome = true ∧ b.1 ≠ some "xml"
  | [], _, _, _, hb => by cases hb
  | t :: ts, _, hscoped, b, hb => by
    rcases List.mem_append.mp hb with hb | hb
    · exact moved_of_wellScoped t hscoped.1 b hb
    · exact movedList_of_wellScoped ts hscoped.2 b hb

end

theorem nodup_foldl_declare {bindings added : List (Option String × String)}
    (h : (bindings.map Prod.fst).Nodup) : ((added.foldl declare bindings).map Prod.fst).Nodup := by
  induction added generalizing bindings with
  | nil => exact h
  | cons b added ih => exact ih (nodup_declare h)

theorem merged_xmlDeclareNsList (fresh : Nat) {children : List DomNode} {scope : List NsDecl}
    (hdistinct : (nsDef.map (·.pre)).Nodup) (hxml : ∀ d ∈ nsDef, d.pre ≠ some "xml")
    (hchildren : WellScopedList scope children) :
    Merged nsDef (nsDef.map (·.binding) ++ movedList children)
      (xmlDeclareNsList fresh nsDef children) := by
  have hmoved := movedList_of_wellScoped children hchildren
  have hnodup : (((xmlDeclareNsList fresh nsDef children).map (·.binding)).map Prod.fst).Nodup := by
    rw [bindings_xmlDeclareNsList]
    refine nodup_foldl_declare ?_
    simpa [NsDecl.binding, Function.comp_def] using hdistinct
  have hlookup : ∀ pre, ((xmlDeclareNsList fresh nsDef children).map (·.binding)).lookup pre =
      (nsDef.map (·.binding) ++ movedList children).lookup pre := by
    intro pre
    rw [bindings_xmlDeclareNsList, lookup_foldl_declare]
  refine ⟨hnodup, ?_, hlookup, ?_, ?_⟩
  · intro href hmem
    rw [← lookup_eq_some_iff_mem hnodup, hlookup] at hmem
    rcases List.mem_append.mp (mem_of_lookup_eq_some hmem) with hmem | hmem
    · exact notMem_of_xml hxml href hmem
    · exact (hmoved _ hmem).2 rfl
  · intro pre href hfound
    rw [List.lookup_append, hfound, Option.some_or]
  · have hnone : (movedList children).lookup none = none :=
      lookup_eq_none_iff_notMem.mpr fun href hmem => by simpa using (hmoved _ hmem).1
    rw [List.lookup_append, hnone, Option.or_none]

/-- For every tree whose names are in scope: written after the cleaning and read again, it has the
names that it had, exactly if no name is captured. -/
theorem parse_xmlCleanNs_iff (fresh : Nat) (root : DomNode) (h : root.WellScoped [xmlDecl]) :
    (xmlCleanNs fresh root).serialize.parse [xmlBinding] = root.expanded ↔
      root.NothingCaptured := by
  cases root with
  | leaf node => exact iff_of_true rfl trivial
  | element name ns nsDef properties children =>
    obtain ⟨helement, hchildren⟩ := h
    have hmerged := merged_xmlDeclareNsList fresh helement.distinct helement.noXml hchildren
    set defs := xmlDeclareNsList fresh nsDef children with hdefs
    have hbelow : ∀ d ∈ ([] : List NsDecl), d.pre ≠ some "xml" := by simp
    have hscope : defs.map (·.binding) ++ [xmlBinding] = cleanedScope defs [] := rfl
    have hname := (resolve_elementNs_iff hmerged hbelow helement name).mpr
      fun p _ _ _ href hmem => by cases hmem
    have hattrs : (properties.map fun attr => resolveAttr (cleanedScope defs [])
          ⟨attr.ns.bind (·.pre), attr.name, attr.value⟩) =
        properties.map fun attr => ⟨attr.name, attr.ns.map (·.href), attr.value⟩ := by
      refine List.map_congr_left fun attr hattr => ?_
      exact (resolveAttr_iff hmerged hbelow helement hattr).mpr
        fun p _ _ _ href hmem => by cases hmem
    have hrest := parseList_useNsDefs_iff hmerged children [] hbelow hchildren
    have hclean : xmlCleanNs fresh (element name ns nsDef properties children) =
        element name ns defs properties (useNsDefsList defs children) := rfl
    rw [hclean, serialize, parse, hscope, expanded, NothingCaptured, hname, List.map_map]
    refine Iff.trans ?_ hrest
    rw [XmlNode.element.injEq]
    constructor
    · rintro ⟨-, -, -, hsame⟩
      exact hsame
    · exact fun hsame => ⟨rfl, rfl, hattrs, hsame⟩

/-! ### A prefix that is bound again and back -/

/-- `xmlns:q` with one of two URIs. -/
def qDecl (address : Nat) (href : String) : NsDecl := ⟨address, some "q", href⟩

/-- `<r xmlns:q="h1"><q:a xmlns:q="h2"><q:b xmlns:q="h1"/></q:a></r>` -/
def reboundTree : DomNode :=
  element "r" none [qDecl 1 "h1"] []
    [element "a" (some (qDecl 2 "h2")) [qDecl 2 "h2"] []
      [element "b" (some (qDecl 3 "h1")) [qDecl 3 "h1"] [] []]]

/-- `<r><q:a xmlns:q="h2" q:n="1"><q:b xmlns:q="h1"/></q:a></r>` -/
def nestedTree : DomNode :=
  element "r" none [] []
    [element "a" (some (qDecl 2 "h2")) [qDecl 2 "h2"] [⟨"n", some (qDecl 2 "h2"), "1"⟩]
      [element "b" (some (qDecl 3 "h1")) [qDecl 3 "h1"] [] []]]

theorem reboundTree_wellScoped : reboundTree.WellScoped [xmlDecl] := by
  refine ⟨⟨by decide, by decide, nofun, fun _ => by decide, nofun⟩, ⟨⟨?_, ⟨⟨?_, trivial⟩, trivial⟩⟩,
    trivial⟩⟩
  · exact ⟨by decide, by decide, by rintro p ⟨⟩; decide, nofun, nofun⟩
  · exact ⟨by decide, by decide, by rintro p ⟨⟩; decide, nofun, nofun⟩

/-- The first of the two declarations goes to the root. -/
theorem parse_xmlCleanNs_nestedTree :
    (xmlCleanNs 4 nestedTree).serialize.parse [xmlBinding] = nestedTree.expanded := by
  refine (parse_xmlCleanNs_iff 4 nestedTree ?_).mpr ?_
  · refine ⟨⟨by decide, by decide, nofun, fun _ => by decide, nofun⟩,
      ⟨⟨?_, ⟨⟨?_, trivial⟩, trivial⟩⟩, trivial⟩⟩
    · exact ⟨by decide, by decide, by rintro p ⟨⟩; decide, nofun, by
        intro attr hattr p hp
        obtain rfl := List.mem_singleton.mp hattr
        cases hp
        decide⟩
    · exact ⟨by decide, by decide, by rintro p ⟨⟩; decide, nofun, nofun⟩
  · refine ⟨⟨?_, ?_, ⟨?_, nofun, trivial⟩, trivial⟩, trivial⟩
    · rintro p ⟨⟩ - - href hmem
      cases List.mem_singleton.mp hmem
      rfl
    · intro attr hattr p hp _ _ href hmem
      obtain rfl := List.mem_singleton.mp hattr
      cases hp
      cases List.mem_singleton.mp hmem
      rfl
    · rintro p ⟨⟩ - hbound
      exact absurd hbound (by decide)

/-- The element that has the namespace of the root again gets the one in between. -/
theorem parse_xmlCleanNs_reboundTree :
    ¬ ∀ (fresh : Nat) (root : DomNode), root.WellScoped [xmlDecl] →
      (xmlCleanNs fresh root).serialize.parse [xmlBinding] = root.expanded := by
  intro h
  have hsame := congrArg (fun t => (t.at? [0, 0]).bind XmlNode.ns)
    (h 4 reboundTree reboundTree_wellScoped)
  exact absurd hsame (by decide)

end DomNode

end

end Lasso
