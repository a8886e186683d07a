import Lasso.Xml.NodeCodec

/-!
# The element that is written

The element of an object, taken apart: which snippets of a plain class are written, what its
attributes are, and how the element looks once it stands in the element of another object
(`NodeObject.shown`).

## Main results

* `WritableClass.Plain.written_eq` — the written snippets of a plain class.
* `buildXmlNode_eq_element` — the shape of an element whose attributes are in no namespace.
* `NodeObject.getXmlNode_eq`, `NodeObject.shown_rewriteLiberty`, `Snippet.applyNs_shown` — the
  element by itself and as the child of another one.
-/

namespace Lasso

variable {ν μ : Type} {lassoDump rewritten : Bool}

/-! ## Rewriting the namespace of ID-FF -/

theorem libertyHref_libertyHref (rewritten rewritten' : Bool) (href : String) :
    libertyHref rewritten (libertyHref rewritten' href) =
      libertyHref (rewritten || rewritten') href := by
  have h11 : (liberty11Href == libHref) = false := by decide
  by_cases h : href = libHref
  · subst h
    cases rewritten <;> cases rewritten' <;> simp [libertyHref, h11]
  · simp [libertyHref, h]

theorem libertyHref_eq_self {href : String} (h : href ≠ libHref) :
    libertyHref rewritten href = href := by
  simp [libertyHref, h]

theorem XmlAttr.rewriteLiberty_rewriteLiberty (rewritten rewritten' : Bool) (attr : XmlAttr) :
    (attr.rewriteLiberty rewritten').rewriteLiberty rewritten =
      attr.rewriteLiberty (rewritten || rewritten') := by
  cases attr with
  | mk name ns value => cases ns <;> simp [rewriteLiberty, libertyHref_libertyHref]

namespace XmlNode

theorem rewriteLibertyList_eq_map (nodes : List XmlNode) :
    rewriteLibertyList rewritten nodes = nodes.map (·.rewriteLiberty rewritten) := by
  induction nodes with
  | nil => rfl
  | cons node nodes ih => rw [rewriteLibertyList, ih, List.map_cons]

@[simp] theorem rewriteLiberty_element (ns : Option String) (name : String) (attrs : List XmlAttr)
    (children : List XmlNode) :
    (element ns name attrs children).rewriteLiberty rewritten =
      element (ns.map (libertyHref rewritten)) name (attrs.map (·.rewriteLiberty rewritten))
        (children.map (·.rewriteLiberty rewritten)) := by
  rw [rewriteLiberty, rewriteLibertyList_eq_map]

@[simp] theorem rewriteLiberty_text (content : String) :
    (text content).rewriteLiberty rewritten = text content := by
  rw [rewriteLiberty]

@[simp] theorem ns_rewriteLiberty (node : XmlNode) :
    (node.rewriteLiberty rewritten).ns = node.ns.map (libertyHref rewritten) := by
  cases node <;> simp only [rewriteLiberty] <;> rfl

mutual

theorem rewriteLiberty_rewriteLiberty (rewritten rewritten' : Bool) : ∀ node : XmlNode,
    (node.rewriteLiberty rewritten').rewriteLiberty rewritten =
      node.rewriteLiberty (rewritten || rewritten')
  | element ns name attrs children => by
    rw [rewriteLiberty, rewriteLiberty, rewriteLiberty,
      rewriteLibertyList_rewriteLibertyList rewritten rewritten' children]
    cases ns <;> simp [libertyHref_libertyHref, XmlAttr.rewriteLiberty_rewriteLiberty]
  | text _ | cdata _ | comment _ | pi .. => by simp only [rewriteLiberty]

theorem rewriteLibertyList_rewriteLibertyList (rewritten rewritten' : Bool) :
    ∀ nodes : List XmlNode,
    rewriteLibertyList rewritten (rewriteLibertyList rewritten' nodes) =
      rewriteLibertyList (rewritten || rewritten') nodes
  | [] => rfl
  | node :: nodes => by
    rw [rewriteLibertyList, rewriteLibertyList, rewriteLibertyList,
      rewriteLiberty_rewriteLiberty rewritten rewritten' node,
      rewriteLibertyList_rewriteLibertyList rewritten rewritten' nodes]

end

mutual

/-- An element that is not rewritten is the same. -/
theorem rewriteLiberty_false : ∀ node : XmlNode, node.rewriteLiberty false = node
  | element ns name attrs children => by
    have hhref : libertyHref false = id := funext fun href => by simp [libertyHref]
    have hattr : XmlAttr.rewriteLiberty false = id :=
      funext fun attr => by simp [XmlAttr.rewriteLiberty, hhref]
    rw [rewriteLiberty, rewriteLibertyList_false children, hhref, hattr, Option.map_id, id,
      List.map_id]
  | text _ | cdata _ | comment _ | pi .. => by simp only [rewriteLiberty]

theorem rewriteLibertyList_false : ∀ nodes : List XmlNode, rewriteLibertyList false nodes = nodes
  | [] => rfl
  | node :: nodes => by
    rw [rewriteLibertyList, rewriteLiberty_false node, rewriteLibertyList_false nodes]

end

end XmlNode

/-! ## Values in which the objects are replaced -/

theorem lookup_map_snd {α β : Type} (f : α → β) (members : List (String × α)) (field : String) :
    (members.map fun member => (member.1, f member.2)).lookup field =
      (members.lookup field).map f := by
  induction members with
  | nil => rfl
  | cons member members ih =>
    rw [List.map_cons, List.lookup_cons, List.lookup_cons, ih]
    cases field == member.1 <;> rfl

namespace MemberValue

@[simp] theorem isSet_map (f : ν → μ) (value : MemberValue ν) : (value.map f).isSet = value.isSet := by
  cases value <;> simp [map, isSet]

@[simp] theorem asInt_map (f : ν → μ) (value : MemberValue ν) : (value.map f).asInt = value.asInt := by
  cases value with
  | node value => cases value <;> rfl
  | nodes values => cases values <;> rfl
  | _ => rfl

end MemberValue

@[simp] theorem Snippet.text_map (snippet : Snippet) (f : ν → μ) (value : MemberValue ν) :
    snippet.text (value.map f) = snippet.text value := by
  cases value <;> rfl

variable {member : String → Option (MemberValue ν)}

theorem writtenSnippets_map (f : ν → μ) (jumped : Nat) (snippets : List Snippet) :
    writtenSnippets lassoDump (fun field => (member field).map (·.map f)) jumped snippets =
      (writtenSnippets lassoDump member jumped snippets).map fun part => (part.1, part.2.map f) := by
  induction snippets generalizing jumped with
  | nil => cases jumped <;> rfl
  | cons snippet snippets ih =>
    cases jumped with
    | succ jumped => exact ih jumped
    | zero =>
      rw [writtenSnippets, writtenSnippets]
      rcases snippet.field with _ | field
      · exact ih 0
      · dsimp only [Option.bind_some]
        rcases member field with _ | value
        · exact ih 0
        · dsimp only [Option.map_some]
          split
          · exact ih 0
          · rw [List.map_cons, ih, Snippet.jumped, Snippet.jumped, MemberValue.isSet_map]

theorem snippetAttributes_map (f : ν → μ) (nsDef : List XmlNs)
    (written : List (Snippet × MemberValue ν)) :
    snippetAttributes nsDef (written.map fun part => (part.1, part.2.map f)) =
      snippetAttributes nsDef written := by
  induction written generalizing nsDef with
  | nil => rfl
  | cons part written ih => simp only [List.map_cons, snippetAttributes, Snippet.text_map, ih]

namespace WritableClass

variable {cls : WritableClass}

theorem written_map (f : ν → μ) :
    cls.written lassoDump (fun field => (member field).map (·.map f)) =
      (cls.written lassoDump member).map fun part => (part.1, part.2.map f) := by
  simp only [written, List.map_flatMap, writtenSnippets_map]

theorem isLiberty11_map (f : ν → μ) :
    cls.isLiberty11 (fun field => (member field).map (·.map f)) = cls.isLiberty11 member := by
  have hpart : ∀ name, cls.versionPart (fun field => (member field).map (·.map f)) name =
      cls.versionPart member name := by
    intro name
    unfold versionPart
    congr 1
    funext snippet
    rcases snippet.field with _ | field
    · rfl
    · dsimp only [Option.bind_some]
      cases member field <;> simp
  simp only [isLiberty11, hpart]

end WritableClass

/-! ## The element of an object -/

namespace NodeObject

variable {cls : WritableClass} {members : List (String × MemberValue NodeObject)}

/-- The children of the element of an object, each with its snippet. -/
def children (lassoDump : Bool) (cls : WritableClass)
    (members : List (String × MemberValue NodeObject)) : List (Snippet × XmlNode) :=
  (cls.written lassoDump (List.lookup · members)).flatMap fun part =>
    (snippetChildren cls.nameData.ns part.1 (part.2.map (getXmlNode lassoDump))).map (part.1, ·)

/-- The element of an object once it stands under `name` in the namespace `ns`, in a document that
may have been rewritten. -/
def shown (lassoDump rewritten : Bool) (ns : Option String) (name : String) : NodeObject → XmlNode
  | mk cls members =>
    .element ns name
      (((snippetAttributes cls.nsDef (cls.written lassoDump (List.lookup · members))).foldl
        setNsProp cls.xsiType).map (·.rewriteLiberty (cls.rewrites rewritten members)))
      ((children lassoDump cls members).map
        (·.2.rewriteLiberty (cls.rewrites rewritten members)))

theorem getXmlNode_eq (object : NodeObject) :
    object.getXmlNode lassoDump =
      object.shown lassoDump false object.ns object.cls.nameData.nodeName := by
  obtain ⟨cls, members⟩ := object
  have hlookup : (List.lookup · (members.map fun member =>
      (member.1, member.2.map (getXmlNode lassoDump)))) =
      fun field => (List.lookup field members).map (·.map (getXmlNode lassoDump)) :=
    funext fun field => lookup_map_snd _ members field
  rw [getXmlNode, fold_mk, ← getXmlNode, buildXmlNode, hlookup, WritableClass.written_map,
    snippetAttributes_map, WritableClass.isLiberty11_map]
  simp [shown, children, ns, NodeObject.cls, NodeObject.members, WritableClass.rewrites,
    List.flatMap_map, List.map_flatMap, Function.comp_def]

/-- Writing to the namespace of the element around it. -/
theorem shown_rewriteLiberty (rewritten rewritten' : Bool) (ns : Option String) (name : String)
    (object : NodeObject) :
    (object.shown lassoDump rewritten' ns name).rewriteLiberty rewritten =
      object.shown lassoDump (rewritten || rewritten') (ns.map (libertyHref rewritten)) name := by
  obtain ⟨cls, members⟩ := object
  simp [shown, WritableClass.rewrites, XmlAttr.rewriteLiberty_rewriteLiberty,
    XmlNode.rewriteLiberty_rewriteLiberty, Function.comp_def, Bool.or_assoc]

end NodeObject

theorem Snippet.applyNs_shown {snippet : Snippet} (hany : snippet.any = false)
    (hname : snippet.name ≠ "") (ns : Option String) (name : String) (object : NodeObject) :
    snippet.applyNs (object.shown lassoDump rewritten ns name) =
      object.shown lassoDump rewritten (snippet.nsUri.or ns) snippet.name := by
  obtain ⟨cls, members⟩ := object
  simp [NodeObject.shown, applyNs, hany, hname]

/-! ## Plain classes -/

theorem map_fst_filterMap_sublist {α β : Type} (f : α → Option β) (as : List α) :
    ((as.filterMap fun a => (f a).map (a, ·)).map (·.1)).Sublist as := by
  induction as with
  | nil => exact List.nil_sublist _
  | cons a as ih =>
    rw [List.filterMap_cons]
    cases f a with
    | none => exact ih.cons a
    | some b => exact ih.cons_cons a

/-- A table without jumps is gone through from end to end. -/
theorem writtenSnippets_eq {snippets : List Snippet}
    (hjump : ∀ snippet ∈ snippets, snippet.jumpOnMatch = false) :
    writtenSnippets lassoDump member 0 snippets = snippets.filterMap fun snippet =>
      ((snippet.field.bind member).filter fun _ => !snippet.passedOver lassoDump).map
        (snippet, ·) := by
  induction snippets with
  | nil => rfl
  | cons snippet snippets ih =>
    obtain ⟨hsnippet, hsnippets⟩ := List.forall_mem_cons.mp hjump
    rw [writtenSnippets, List.filterMap_cons, ih hsnippets]
    cases snippet.field.bind member with
    | none => rfl
    | some value =>
      have hjumped : snippet.jumped value = 0 := by simp [Snippet.jumped, hsnippet]
      cases snippet.passedOver lassoDump <;> simp [Option.filter, hjumped, ih hsnippets]

/-- The attributes come from written snippets, in their order. -/
theorem snippetAttributes_sublist (nsDef : List XmlNs) (written : List (Snippet × MemberValue ν)) :
    ((snippetAttributes nsDef written).map (·.name)).Sublist (written.map (·.1.name)) := by
  induction written generalizing nsDef with
  | nil => exact List.nil_sublist _
  | cons part written ih =>
    rw [snippetAttributes, List.map_cons]
    split
    · exact (ih nsDef).cons _
    · exact (ih nsDef).cons_cons _
    · split
      · exact (ih nsDef).cons_cons _
      · cases part.1.nsUri with
        | none => exact (ih _).cons _
        | some uri => exact (ih _).cons_cons _

/-- What an attribute comes from. -/
theorem mem_snippetAttributes {nsDef : List XmlNs} {written : List (Snippet × MemberValue ν)}
    {attr : XmlAttr} (h : attr ∈ snippetAttributes nsDef written) :
    ∃ part ∈ written, part.1.kind = .attribute ∧ attr.name = part.1.name ∧
      part.1.text part.2 = some attr.value ∧ (attr.ns = none ∨ attr.ns = part.1.nsUri) := by
  induction written generalizing nsDef with
  | nil => cases h
  | cons part written ih =>
    have hrest : ∀ {nsDef}, attr ∈ snippetAttributes nsDef written →
        ∃ part' ∈ part :: written, part'.1.kind = .attribute ∧ attr.name = part'.1.name ∧
          part'.1.text part'.2 = some attr.value ∧
            (attr.ns = none ∨ attr.ns = part'.1.nsUri) := by
      intro nsDef hmem
      obtain ⟨part', hpart', hrest⟩ := ih hmem
      exact ⟨part', List.mem_cons_of_mem _ hpart', hrest⟩
    have htext : ∀ {text}, (if part.1.kind = .attribute then part.1.text part.2 else none) =
        some text → part.1.kind = .attribute ∧ part.1.text part.2 = some text := by
      intro text htext
      split at htext
      · exact ⟨‹_›, htext⟩
      · cases htext
    rw [snippetAttributes] at h
    split at h
    · exact hrest h
    · rename_i text hsome hname
      obtain ⟨hkind, htext⟩ := htext hsome
      rcases List.mem_cons.mp h with rfl | h
      · exact ⟨part, List.mem_cons_self, hkind, rfl, htext, .inl rfl⟩
      · exact hrest h
    · rename_i text pre hsome hname
      obtain ⟨hkind, htext⟩ := htext hsome
      split at h
      · rcases List.mem_cons.mp h with rfl | h
        · exact ⟨part, List.mem_cons_self, hkind, rfl, htext, .inl rfl⟩
        · exact hrest h
      · rcases List.mem_append.mp h with h | h
        · obtain ⟨uri, huri, rfl⟩ : ∃ uri, part.1.nsUri = some uri ∧
              (⟨part.1.name, some uri, text⟩ : XmlAttr) = attr := by
            simpa using h
          exact ⟨part, List.mem_cons_self, hkind, rfl, htext, .inr huri.symm⟩
        · exact hrest h

/-- Attributes whose snippets have no prefix are in no namespace. -/
theorem snippetAttributes_eq_filterMap (nsDef : List XmlNs)
    {written : List (Snippet × MemberValue ν)}
    (h : ∀ part ∈ written, part.1.kind = .attribute → part.1.nsName = none) :
    snippetAttributes nsDef written = written.filterMap fun part =>
      if part.1.kind = .attribute then
        (part.1.text part.2).map fun value => { name := part.1.name, value }
      else none := by
  induction written with
  | nil => rfl
  | cons part written ih =>
    obtain ⟨hpart, hwritten⟩ := List.forall_mem_cons.mp h
    rw [snippetAttributes, ih hwritten, List.filterMap_cons]
    by_cases hkind : part.1.kind = .attribute
    · rw [if_pos hkind, if_pos hkind, hpart hkind]
      cases part.1.text part.2 <;> rfl
    · rw [if_neg hkind, if_neg hkind]

/-- Attributes with distinct names are added one after the other. -/
theorem foldl_setNsProp {attrs news : List XmlAttr}
    (hdistinct : (attrs ++ news).Pairwise fun attr attr' =>
      attr.name = attr'.name → attr.ns ≠ attr'.ns) :
    news.foldl setNsProp attrs = attrs ++ news := by
  induction news generalizing attrs with
  | nil => simp
  | cons attr news ih =>
    have hnew : setNsProp attrs attr = attrs ++ [attr] := by
      rw [setNsProp, if_neg]
      rw [List.pairwise_append] at hdistinct
      simp only [List.any_eq_true, Bool.and_eq_true, beq_iff_eq, not_exists, not_and]
      intro other hother hname
      exact hdistinct.2.2 other hother attr List.mem_cons_self hname
    rw [List.foldl_cons, hnew, ih (by simpa using hdistinct), List.append_assoc, List.singleton_append]

namespace WritableClass.Plain

variable {cls : WritableClass}

theorem written_eq (hplain : cls.Plain) :
    cls.written lassoDump member = cls.snippets.filterMap fun snippet =>
      ((snippet.field.bind member).filter fun _ => !snippet.passedOver lassoDump).map
        (snippet, ·) := by
  rw [written, LassoNodeClass.snippets, List.filterMap_flatMap]
  refine List.flatMap_congr fun table htable => writtenSnippets_eq fun snippet hsnippet => ?_
  exact hplain.snippets.jumpOnMatch snippet (List.mem_flatMap.mpr ⟨table, htable, hsnippet⟩)

theorem mem_written (hplain : cls.Plain) {snippet : Snippet} {value : MemberValue ν} :
    (snippet, value) ∈ cls.written lassoDump member ↔ snippet ∈ cls.snippets ∧
      (∃ field, snippet.field = some field ∧ member field = some value) ∧
      snippet.passedOver lassoDump = false := by
  rw [hplain.written_eq, List.mem_filterMap]
  constructor
  · rintro ⟨other, hmem, hother⟩
    obtain ⟨value', hvalue', heq⟩ := Option.map_eq_some_iff.mp hother
    obtain ⟨rfl, rfl⟩ := Prod.mk.inj heq
    obtain ⟨hbind, hpassed⟩ := Option.filter_eq_some_iff.mp hvalue'
    exact ⟨hmem, Option.bind_eq_some_iff.mp hbind, by simpa using hpassed⟩
  · rintro ⟨hmem, ⟨field, hfield, hvalue⟩, hpassed⟩
    exact ⟨snippet, hmem, by simp [hfield, hvalue, hpassed]⟩

theorem written_sublist (hplain : cls.Plain) :
    ((cls.written lassoDump member).map (·.1)).Sublist cls.snippets := by
  rw [hplain.written_eq]
  exact map_fst_filterMap_sublist _ _

end WritableClass.Plain

/-! ## The shape of an element -/

/-- The snippets that are written are some of the table. -/
theorem mem_of_mem_writtenSnippets {snippets : List Snippet} {jumped : Nat}
    {part : Snippet × MemberValue ν}
    (h : part ∈ writtenSnippets lassoDump member jumped snippets) : part.1 ∈ snippets := by
  induction snippets generalizing jumped with
  | nil => cases jumped <;> cases h
  | cons snippet snippets ih =>
    cases jumped with
    | succ jumped => exact List.mem_cons_of_mem _ (ih h)
    | zero =>
      rw [writtenSnippets] at h
      split at h
      · exact List.mem_cons_of_mem _ (ih h)
      · split_ifs at h
        · exact List.mem_cons_of_mem _ (ih h)
        · rcases List.mem_cons.mp h with rfl | h
          · exact List.mem_cons_self
          · exact List.mem_cons_of_mem _ (ih h)

theorem mem_foldl_setNsProp {attrs news : List XmlAttr} {attr : XmlAttr}
    (h : attr ∈ news.foldl setNsProp attrs) : attr ∈ attrs ∨ attr ∈ news := by
  induction news generalizing attrs with
  | nil => exact .inl h
  | cons new news ih =>
    rcases ih h with hmem | hmem
    · unfold setNsProp at hmem
      split_ifs at hmem
      · obtain ⟨other, hother, rfl⟩ := List.mem_map.mp hmem
        split_ifs
        · exact .inr List.mem_cons_self
        · exact .inl hother
      · rcases List.mem_append.mp hmem with hmem | hmem
        · exact .inl hmem
        · rw [List.mem_singleton.mp hmem]
          exact .inr List.mem_cons_self
    · exact .inr (List.mem_cons_of_mem _ hmem)

/-- The element of an object whose attributes are in no namespace. -/
theorem buildXmlNode_eq_element {cls : WritableClass} {members : List (String × MemberValue XmlNode)}
    (hsub : cls.data.xsiSubType = false) (hliberty : cls.nameData.ns ≠ some libHref)
    (hattrs : ∀ snippet ∈ cls.snippets, snippet.kind = .attribute → snippet.nsUri = none) :
    ∃ attrs, buildXmlNode lassoDump cls members =
        .element cls.nameData.ns cls.nameData.nodeName attrs
          ((cls.written lassoDump (List.lookup · members)).flatMap fun part =>
            snippetChildren cls.nameData.ns part.1 part.2) ∧
      ∀ attr ∈ attrs, attr.ns = none ∧
        ∃ snippet ∈ cls.snippets, snippet.kind = .attribute ∧ attr.name = snippet.name := by
  have hversion : cls.isLiberty11 (List.lookup · members) = false := by
    simp [WritableClass.isLiberty11, hliberty]
  refine ⟨(snippetAttributes cls.nsDef
    (cls.written lassoDump (List.lookup · members))).foldl setNsProp cls.xsiType, ?_, ?_⟩
  · unfold buildXmlNode
    dsimp only
    rw [hversion, XmlNode.rewriteLiberty_false]
  · intro attr hattr
    rcases mem_foldl_setNsProp hattr with hattr | hattr
    · simp [WritableClass.xsiType, hsub] at hattr
    · obtain ⟨part, hpart, hkind, hname, -, hns⟩ := mem_snippetAttributes hattr
      have hmem : part.1 ∈ cls.snippets := by
        obtain ⟨table, htable, hpart⟩ := List.mem_flatMap.mp hpart
        exact List.mem_flatMap.mpr ⟨table, htable, mem_of_mem_writtenSnippets hpart⟩
      rw [hattrs _ hmem hkind, or_self] at hns
      exact ⟨hns, part.1, hmem, hkind, hname⟩

end Lasso
