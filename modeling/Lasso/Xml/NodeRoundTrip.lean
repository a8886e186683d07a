import Lasso.Xml.ReadMembers

/-!
# The round trip of an object through its element

An object comes back from its element if and only if it is readable, by induction over the objects
in the members. One step takes the element apart: the class reads it without an error when every
child is taken, and then the members are right when each is.

## Main results

* `NodeObject.roundTrips_iff` — an object comes back if and only if it is readable.
-/

namespace Lasso

open NodeObject

variable {R : Registry} {searchNs : NsScope} {initial : String → String → Int}
  {lassoDump rewritten : Bool} {cls : WritableClass}
  {members : List (String × MemberValue NodeObject)} {snippet : Snippet} {field : String}
  {value : MemberValue NodeObject}

/-! ## One level of an object -/

namespace MemberValue

variable {ν μ : Type}

@[simp] theorem objects_map (f : ν → μ) (value : MemberValue ν) :
    (value.map f).objects = value.objects.map f := by
  cases value with
  | node value => cases value <;> rfl
  | _ => rfl

theorem rel_map_right {κ : Type} (r : ν → κ → Prop) (f : μ → κ) (value : MemberValue ν)
    (value' : MemberValue μ) :
    value.Rel r (value'.map f) ↔ value.Rel (fun node node' => r node (f node')) value' := by
  cases value <;> cases value' <;> try exact Iff.rfl
  case node.node node node' =>
    cases node <;> cases node' <;> simp [map, Rel]
  case nodes.nodes nodes nodes' =>
    exact List.forall₂_map_right_iff

theorem types_map (f : ν → μ) (value : MemberValue ν) :
    snippet.Types (value.map f) ↔ snippet.Types value := by
  cases value <;> exact Iff.rfl

end MemberValue

namespace NodeObject

theorem sameAs_mk {object : ParsedNode} :
    (mk cls members).SameAs initial object ↔ object.className = cls.name ∧
      ∀ snippet field value, Member cls members snippet field value →
        (object.member (initial cls.name field) snippet field).Rel
          (fun node child => child.SameAs initial node) value := by
  rw [SameAs, fold_mk]
  refine and_congr_right fun _ => ⟨fun h snippet field value hmember => ?_, fun h => ?_⟩
  · have hlookup := lookup_map_snd (MemberValue.map (SameAs initial)) members field
    rw [hmember.2.2] at hlookup
    exact (MemberValue.rel_map_right _ _ _ _).mp
      (h snippet hmember.1 field hmember.2.1 _ hlookup)
  · intro snippet hmem field hfield value hvalue
    have hlookup := lookup_map_snd (MemberValue.map (SameAs initial)) members field
    obtain ⟨value', hvalue', rfl⟩ := Option.map_eq_some_iff.mp (hlookup.symm.trans hvalue)
    exact (MemberValue.rel_map_right _ _ _ _).mpr (h snippet field value' ⟨hmem, hfield, hvalue'⟩)

theorem wellFormed_mk :
    (mk cls members).WellFormed R searchNs ↔ cls.Plain ∧
      R.types cls.name = some cls.toLassoNodeClass ∧
      (cls.data.xsiSubType = true → ':' ∉ cls.typeNs.1.toList ∧
        ∀ path, searchNs path cls.typeNs.1 = cls.data.ns) ∧
      (∀ snippet ∈ cls.snippets, ∀ field, snippet.field = some field →
        ∃ value, members.lookup field = some value ∧ snippet.Types value) ∧
      ∀ member ∈ members, ∀ node ∈ member.2.objects, node.WellFormed R searchNs := by
  have htypes : ∀ (snippet : Snippet) (field : String),
      (∃ value, (members.map fun member => (member.1, member.2.map (WellFormed R searchNs))).lookup
        field = some value ∧ snippet.Types value) ↔
      ∃ value, members.lookup field = some value ∧ snippet.Types value := by
    intro snippet field
    rw [lookup_map_snd]
    cases members.lookup field with
    | none => simp
    | some value => simp [MemberValue.types_map]
  rw [WellFormed, fold_mk, ← WellFormed]
  simp only [htypes, List.forall_mem_map, MemberValue.objects_map]

/-- The members of a well-formed object are typed, and the objects in them are well-formed. -/
theorem WellFormed.wellTyped (h : (mk cls members).WellFormed R searchNs) :
    WellTyped cls members := by
  obtain ⟨-, -, -, htypes, -⟩ := wellFormed_mk.mp h
  rintro snippet field value ⟨hmem, hfield, hvalue⟩
  obtain ⟨value', hvalue', hsnippet⟩ := htypes snippet hmem field hfield
  rwa [Option.some.inj (hvalue.symm.trans hvalue')]

theorem mem_of_lookup {α : Type} {field : String} {members : List (String × α)} {value : α}
    (h : members.lookup field = some value) : (field, value) ∈ members := by
  induction members with
  | nil => cases h
  | cons member members ih =>
    rw [List.lookup_cons] at h
    split at h
    · rename_i heq
      obtain rfl := Option.some.inj h
      exact List.mem_cons.mpr (.inl (Prod.ext (beq_iff_eq.mp heq) rfl))
    · exact List.mem_cons_of_mem _ (ih h)

end NodeObject

/-! ## The class of an object -/

/-- The reader finds the type name of an object on its element. -/
theorem autoTypename_shown {object : NodeObject} (hwf : object.WellFormed R searchNs)
    {path : List Nat} (ns : Option String) (name : String) :
    autoTypename R searchNs path (object.shown lassoDump rewritten ns name) =
      object.typename R ns name := by
  obtain ⟨cls, members⟩ := object
  obtain ⟨hplain, -, hscope, -, -⟩ := wellFormed_mk.mp hwf
  have hname : typenameByName R (shown lassoDump rewritten ns name (.mk cls members)) =
      ns.bind fun href => typeNameFromHrefAndNodename R href name := by
    cases ns <;> rfl
  rw [autoTypename, hname, NodeObject.typename]
  congr 1
  have hxsi : libertyHref (cls.rewrites rewritten members) xsiHref = xsiHref :=
    libertyHref_eq_self (by decide)
  have hattrs : (shown lassoDump rewritten ns name (.mk cls members)).attrs =
      (cls.xsiType ++ snippetAttributes cls.nsDef
        (cls.written lassoDump (List.lookup · members))).map
          (·.rewriteLiberty (cls.rewrites rewritten members)) := by
    rw [shown, XmlNode.attrs, hplain.foldl_setNsProp_xsiType]
  cases hsub : cls.data.xsiSubType with
  | true =>
    obtain ⟨hcolon, hns⟩ := hscope hsub
    have hprop : (shown lassoDump rewritten ns name (.mk cls members)).getNsProp "type" xsiHref =
        some (cls.typeNs.1 ++ ":" ++ cls.data.nodeName) := by
      rw [XmlNode.getNsProp, hattrs, WritableClass.xsiType, if_pos hsub]
      simp [XmlAttr.rewriteLiberty, hxsi]
    rw [xsiTypename, hprop]
    simp only [Option.bind_eq_bind, Option.bind_some, splitQName_append hcolon, hns path]
    exact (if_pos hsub).symm
  | false =>
    have hprop : (shown lassoDump rewritten ns name (.mk cls members)).getNsProp "type" xsiHref =
        none := by
      rw [XmlNode.getNsProp, hattrs, WritableClass.xsiType, if_neg (by simp [hsub]),
        List.nil_append, Option.map_eq_none_iff, List.find?_eq_none]
      intro attr' hattr'
      obtain ⟨attr, hattr, rfl⟩ := List.mem_map.mp hattr'
      have hne : ¬(attr.ns.map (libertyHref (cls.rewrites rewritten members)) = some xsiHref ∧
          attr.name = "type") := hplain.ne_xsiType_snippet hattr
      simpa [XmlAttr.rewriteLiberty, and_comm] using hne
    have hne : ¬(mk cls members).cls.data.xsiSubType = true := by simp [NodeObject.cls, hsub]
    rw [xsiTypename, hprop, if_neg hne]
    rfl

namespace NodeObject

/-- The induction hypothesis: the element of the object is read back wherever it stands. -/
def ComesBack (R : Registry) (searchNs : NsScope) (initial : String → String → Int)
    (lassoDump : Bool) (object : NodeObject) : Prop :=
  ∀ rewritten ns name (place : PlacedNode), place.node = object.shown lassoDump rewritten ns name →
    ((∃ stores, (ParseTask.mk object.cls.toLassoNodeClass place).run R searchNs =
          .ok (.ok stores) ∧ object.SameAs initial (.mk object.cls.name stores)) ↔
      Readable R initial lassoDump rewritten ns name object)

/-- An object is made again when its class is found. -/
theorem ComesBack.newWithType_iff {object : NodeObject} {place : PlacedNode} {ns : Option String}
    {name : String} {className : Option String}
    (h : object.ComesBack R searchNs initial lassoDump) (hwf : object.WellFormed R searchNs)
    (hnode : place.node = object.shown lassoDump rewritten ns name) :
    (∃ node, newWithType R searchNs place className = .ok (some node) ∧
        object.SameAs initial node) ↔
      (className.or (object.typename R ns name)).bind R.types =
          some object.cls.toLassoNodeClass ∧
        Readable R initial lassoDump rewritten ns name object := by
  have hclass : classFor R searchNs place className =
      (className.or (object.typename R ns name)).bind R.types := by
    rw [classFor, hnode, autoTypename_shown hwf]
  have hregistered : R.types object.cls.name = some object.cls.toLassoNodeClass := by
    obtain ⟨cls, members⟩ := object
    exact (wellFormed_mk.mp hwf).2.1
  rw [← h rewritten ns name place hnode, ← hclass]
  constructor
  · rintro ⟨node, hnew, hsame⟩
    obtain ⟨cls, stores, hcls, rfl, hrun⟩ := newWithType_eq_some hnew
    have hname : cls.name = object.cls.name := by
      obtain ⟨cls', members⟩ := object
      exact (sameAs_mk.mp hsame).1
    obtain ⟨typename, -, htypes⟩ := Option.bind_eq_some_iff.mp (hclass.symm.trans hcls)
    obtain rfl : cls.name = typename := R.types_name typename cls htypes
    rw [hname] at htypes hsame
    obtain rfl : cls = object.cls.toLassoNodeClass :=
      Option.some.inj (htypes.symm.trans hregistered)
    exact ⟨hcls, stores, hrun, hsame⟩
  · rintro ⟨hcls, stores, hrun, hsame⟩
    refine ⟨.mk object.cls.name stores, ?_, hsame⟩
    rw [newWithType_eq, hcls]
    dsimp only
    rw [hrun]
    rfl

end NodeObject

/-! ## The members of the new object -/

/-- A relation item by item that the second item decides. -/
theorem forall₂_iff_forall {α β : Type} {P Q : α → β → Prop} {S : β → Prop} {as : List α}
    {bs : List β} (h : List.Forall₂ P as bs) (hiff : ∀ a, ∀ b ∈ bs, P a b → (Q a b ↔ S b)) :
    List.Forall₂ Q as bs ↔ ∀ b ∈ bs, S b := by
  induction h with
  | nil => simp
  | cons hab _ ih =>
    rw [List.forall₂_cons, List.forall_mem_cons, hiff _ _ List.mem_cons_self hab,
      ih fun a b hb => hiff a b (List.mem_cons_of_mem _ hb)]

section Members

variable {place : PlacedNode} {ns : Option String} {name : String} {rest : List Store}

/-- What the attributes write to the member of an attribute. -/
theorem contentOf_attributeWrites (hplain : cls.Plain)
    (hmember : Member cls members snippet field value) {text : String} (node : XmlNode) :
    text ∈ (attributeWrites lassoDump rewritten cls members node).filterMap
        (Store.contentOf field) ↔
      ∃ attr ∈ snippetAttributes cls.nsDef (cls.written lassoDump (List.lookup · members)),
        attr.name = snippet.name ∧
          attr.ns.map (libertyHref (cls.rewrites rewritten members)) = attr.ns ∧
          attr.value = text := by
  rw [attributeWrites, filterMap_contentOf_attributes hplain hmember, List.mem_flatMap]
  refine exists_congr fun attr => and_congr_right fun _ => ?_
  split_ifs with h
  · simp [h, eq_comm]
  · simp only [List.not_mem_nil, false_iff]
    rintro ⟨hname, hns, -⟩
    exact h ⟨hname, hns⟩

/-- An attribute named after a snippet was written for it. -/
theorem snippetAttributes_named (hplain : cls.Plain)
    (hmember : Member cls members snippet field value) {nsDef : List XmlNs} {attr : XmlAttr}
    (hattr : attr ∈ snippetAttributes nsDef (cls.written lassoDump (List.lookup · members)))
    (hname : attr.name = snippet.name) :
    snippet.kind = .attribute ∧ snippet.text value = some attr.value := by
  obtain ⟨other, field', value', ⟨hmem, hfield, hvalue⟩, hkind, hname', htext, -⟩ :=
    hplain.exists_of_mem_snippetAttributes hattr
  obtain rfl := hplain.eq_of_name hmem hmember.1 (hname'.symm.trans hname)
  obtain rfl := Option.some.inj (hfield.symm.trans hmember.2.1)
  obtain rfl := Option.some.inj (hvalue.symm.trans hmember.2.2)
  exact ⟨hkind, htext⟩

/-- Attributes write nothing for the other snippets. -/
theorem contents_of_children (hplain : cls.Plain)
    (hmember : Member cls members snippet field value) (hkind : snippet.kind ≠ .attribute) :
    (ParsedNode.mk cls.name (attributeWrites lassoDump rewritten cls members place.node ++
        rest)).contents field = rest.filterMap (Store.contentOf field) := by
  have hattributes : (attributeWrites lassoDump rewritten cls members place.node).filterMap
      (Store.contentOf field) = [] := by
    rw [List.eq_nil_iff_forall_not_mem]
    intro text htext
    obtain ⟨attr, hattr, hname, -⟩ := (contentOf_attributeWrites hplain hmember _).mp htext
    exact hkind (snippetAttributes_named hplain hmember hattr hname).1
  rw [ParsedNode.contents, ParsedNode.stores, List.filterMap_append, hattributes, List.nil_append]

variable (hplain : cls.Plain) (htyped : WellTyped cls members)
  (hmember : Member cls members snippet field value)
  (hnode : place.node = shown lassoDump rewritten ns name (.mk cls members))
  (hrest : Outcome.gather (fun pair => storeMatched pair.1 (pair.2.result R searchNs))
    (childPlaces lassoDump cls members place) = .ok rest)
  {init : Int} {r : ParsedNode → NodeObject → Prop}

include hplain htyped hmember hnode hrest

/-- The member of an attribute holds what it should, unless no attribute is read. -/
theorem member_rel_attribute (hkind : snippet.kind = .attribute) :
    ((ParsedNode.mk cls.name (attributeWrites lassoDump rewritten cls members place.node ++
        rest)).member init snippet field).Rel r value ↔
      (cls.keepsAttribute lassoDump rewritten members snippet value = false →
        value.IsInitial init) := by
  have hchildren : rest.filterMap (Store.contentOf field) = [] :=
    filterMap_rest_attribute hplain hmember hkind
      (fun hne hpart => (storeMatched_other hne hpart).1) hnode hrest
  have hcontents : (ParsedNode.mk cls.name (attributeWrites lassoDump rewritten cls members
        place.node ++ rest)).contents field =
      (attributeWrites lassoDump rewritten cls members place.node).filterMap
        (Store.contentOf field) := by
    rw [ParsedNode.contents, ParsedNode.stores, List.filterMap_append, hchildren, List.append_nil]
  rw [member_rel_text (htyped snippet field value hmember) (.inl hkind), hcontents]
  · refine imp_congr_left ?_
    rw [← Bool.not_eq_true, ← keepsAttribute_iff hplain hmember hkind,
      List.eq_nil_iff_forall_not_mem]
    constructor
    · rintro hnone ⟨attr, hattr, hname, hns⟩
      exact hnone attr.value
        ((contentOf_attributeWrites hplain hmember _).mpr ⟨attr, hattr, hname, hns, rfl⟩)
    · intro hlost text htext
      obtain ⟨attr, hattr, hname, hns, -⟩ :=
        (contentOf_attributeWrites hplain hmember _).mp htext
      exact hlost ⟨attr, hattr, hname, hns⟩
  · intro text htext
    rw [hcontents] at htext
    obtain ⟨attr, hattr, hname, -, rfl⟩ := (contentOf_attributeWrites hplain hmember _).mp htext
    exact (snippetAttributes_named hplain hmember hattr hname).2

/-- The member of a content holds what it should, unless the child is left out. -/
theorem member_rel_content (hkind : snippet.kind = .content) :
    ((ParsedNode.mk cls.name (attributeWrites lassoDump rewritten cls members place.node ++
        rest)).member init snippet field).Rel r value ↔
      (snippet.passedOver lassoDump = true ∨ snippet.text value = none →
        value.IsInitial init) := by
  have hcontents : (ParsedNode.mk cls.name (attributeWrites lassoDump rewritten cls members
        place.node ++ rest)).contents field =
      if snippet.passedOver lassoDump then [] else (snippet.text value).toList := by
    rw [contents_of_children hplain hmember (by simp [hkind]),
      contentOf_rest_content hplain hmember hkind hnode hrest]
  rw [member_rel_text (htyped snippet field value hmember) (.inr hkind), hcontents]
  · refine imp_congr_left ?_
    split_ifs with hpassed <;> simp [hpassed]
  · intro text htext
    rw [hcontents] at htext
    split at htext
    · cases htext
    · exact Option.mem_toList.mp htext

/-- A list of strings holds what it should, unless it is left out. -/
theorem member_rel_listContent (hkind : snippet.kind = .listContent) :
    ((ParsedNode.mk cls.name (attributeWrites lassoDump rewritten cls members place.node ++
        rest)).member init snippet field).Rel r value ↔
      (snippet.passedOver lassoDump = true → value.IsInitial init) := by
  obtain ⟨values, rfl⟩ := (htyped snippet field value hmember).exists_strings hkind
  have hcontents : (ParsedNode.mk cls.name (attributeWrites lassoDump rewritten cls members
        place.node ++ rest)).contents field =
      if snippet.passedOver lassoDump then [] else values := by
    rw [contents_of_children hplain hmember (by simp [hkind]),
      contentOf_rest_listContent hplain hmember hkind hnode hrest]
  rw [ParsedNode.member, hkind]
  dsimp only [MemberValue.Rel, MemberValue.IsInitial]
  rw [hcontents]
  split_ifs with hpassed <;> simp [hpassed, eq_comm]

/-- A member with objects holds what it should when every object is made again, or none is
there. -/
theorem member_rel_made (hkind : snippet.TakesObjects)
    (hwf : ∀ child ∈ value.objects, child.WellFormed R searchNs)
    (hback : ∀ child ∈ value.objects, child.ComesBack R searchNs initial lassoDump) :
    ((ParsedNode.mk cls.name (attributeWrites lassoDump rewritten cls members place.node ++
        rest)).member init snippet field).Rel (fun node child => child.SameAs initial node) value ↔
      (snippet.passedOver lassoDump = true → value.IsInitial init) ∧
      ∀ child ∈ value.objects,
        (snippet.className.or (child.typename R
            ((snippet.objectNs child).map (libertyHref (cls.rewrites rewritten members)))
            (snippet.objectName child))).bind R.types = some child.cls.toLassoNodeClass ∧
          Readable R initial lassoDump (cls.rewrites rewritten members)
            ((snippet.objectNs child).map (libertyHref (cls.rewrites rewritten members)))
            (snippet.objectName child) child := by
  have htypes := htyped snippet field value hmember
  have hattributes : (attributeWrites lassoDump rewritten cls members place.node).filterMap
      (Store.nodeOf field) = [] := filterMap_nodeOf_attributes hplain field
  rw [member_rel_objects hplain hmember hkind hattributes hnode hrest htypes]
  cases hpassed : snippet.passedOver lassoDump with
  | true =>
    have hlength := length_ownPlaces hplain hmember hkind htypes hnode
    rw [hpassed, if_pos rfl, List.length_eq_zero_iff] at hlength
    have hinitial : value.IsInitial init ↔ value.objects = [] := by
      rcases hkind with hkind | hkind | hkind
      · obtain ⟨node, rfl⟩ := htypes.exists_node (.inl hkind)
        cases node <;> simp [MemberValue.IsInitial, MemberValue.objects]
      · obtain ⟨nodes, rfl⟩ := htypes.exists_nodes hkind
        simp [MemberValue.IsInitial, MemberValue.objects]
      · obtain ⟨node, rfl⟩ := htypes.exists_node (.inr hkind)
        cases node <;> simp [MemberValue.IsInitial, MemberValue.objects]
    rw [hlength, hinitial]
    cases value.objects <;> simp
  | false =>
    have hplaces : List.Forall₂
        (HoldsObject R searchNs lassoDump (cls.rewrites rewritten members) snippet)
        (ownPlaces lassoDump cls members place snippet) value.objects :=
      holdsObject_ownPlaces hplain hmember hkind htypes hpassed hnode
    simp only [Bool.false_eq_true, false_implies, true_and]
    refine forall₂_iff_forall hplaces ?_
    rintro own child hchild ⟨inner, hmake, hinner⟩
    rw [hmake]
    exact (hback child hchild).newWithType_iff (hwf child hchild) hinner

/-- What it takes for a member to hold what it should, for every kind of snippet. -/
theorem member_rel_iff
    (hwf : ∀ child ∈ value.objects, child.WellFormed R searchNs)
    (hback : ∀ child ∈ value.objects, child.ComesBack R searchNs initial lassoDump) :
    ((ParsedNode.mk cls.name (attributeWrites lassoDump rewritten cls members place.node ++
        rest)).member init snippet field).Rel (fun node child => child.SameAs initial node) value ↔
      (snippet.kind = .attribute →
        cls.keepsAttribute lassoDump rewritten members snippet value = false →
        value.IsInitial init) ∧
      (snippet.kind ≠ .attribute →
        snippet.passedOver lassoDump = true ∨
          snippet.kind = .content ∧ snippet.text value = none →
        value.IsInitial init) ∧
      ∀ child ∈ value.objects,
        (snippet.className.or (child.typename R
            ((snippet.objectNs child).map (libertyHref (cls.rewrites rewritten members)))
            (snippet.objectName child))).bind R.types = some child.cls.toLassoNodeClass ∧
          Readable R initial lassoDump (cls.rewrites rewritten members)
            ((snippet.objectNs child).map (libertyHref (cls.rewrites rewritten members)))
            (snippet.objectName child) child := by
  have htypes := htyped snippet field value hmember
  have hobjects : ¬snippet.TakesObjects → value.objects = [] := by
    intro hkind
    cases value with
    | node _ => exact absurd (htypes.imp_right .inr) hkind
    | nodes _ => exact absurd (.inr (.inl htypes)) hkind
    | _ => rfl
  have hkinds := hplain.kinds snippet hmember.1
  simp only [List.mem_cons, List.not_mem_nil, or_false] at hkinds
  rcases hkinds with hkind | hkind | hkind | hkind | hkind | hkind
  · rw [member_rel_attribute hplain htyped hmember hnode hrest hkind,
      hobjects (by simp [Snippet.TakesObjects, hkind])]
    simp [hkind]
  · rw [member_rel_content hplain htyped hmember hnode hrest hkind,
      hobjects (by simp [Snippet.TakesObjects, hkind])]
    simp [hkind]
  · rw [member_rel_listContent hplain htyped hmember hnode hrest hkind,
      hobjects (by simp [Snippet.TakesObjects, hkind])]
    simp [hkind]
  · rw [member_rel_made hplain htyped hmember hnode hrest (.inl hkind) hwf hback]
    simp [hkind]
  · rw [member_rel_made hplain htyped hmember hnode hrest (.inr (.inl hkind)) hwf hback]
    simp [hkind]
  · rw [member_rel_made hplain htyped hmember hnode hrest (.inr (.inr hkind)) hwf hback]
    simp [hkind]

end Members

/-! ## The object -/

/-- Every child of the element is taken when the namespaces of the snippets are. -/
theorem takes_children_iff (hplain : cls.Plain) (htyped : WellTyped cls members)
    {ns : Option String} :
    (∀ child ∈ children lassoDump cls members,
        child.1.takes ns (child.2.ns.map (libertyHref (cls.rewrites rewritten members))) = true) ↔
      ∀ snippet field value, Member cls members snippet field value →
        snippet.passedOver lassoDump = false →
        ∀ elementNs ∈ snippet.elementNs cls.nameData.ns value,
          snippet.takes ns (elementNs.map (libertyHref (cls.rewrites rewritten members))) =
            true := by
  constructor
  · intro h snippet field value hmember hpassed elementNs helement
    have hmem : (some snippet.name, elementNs) ∈ (snippetChildren cls.nameData.ns snippet
        (value.map (getXmlNode lassoDump))).map fun node => (node.elementName, node.ns) := by
      rw [map_ns_snippetChildren hplain hmember.1 (htyped snippet field value hmember)]
      exact List.mem_map_of_mem helement
    obtain ⟨node, hnode, heq⟩ := List.mem_map.mp hmem
    obtain ⟨-, rfl⟩ := Prod.mk.inj heq
    exact h (snippet, node) ((mem_children hplain).mpr ⟨field, value, hmember, hpassed, hnode⟩)
  · rintro h ⟨snippet, node⟩ hchild
    obtain ⟨field, value, hmember, hpassed, hnode⟩ := (mem_children hplain).mp hchild
    have hmem := List.mem_map_of_mem (f := fun node => (node.elementName, node.ns)) hnode
    rw [map_ns_snippetChildren hplain hmember.1 (htyped snippet field value hmember)] at hmem
    obtain ⟨elementNs, helement, heq⟩ := List.mem_map.mp hmem
    obtain ⟨-, rfl⟩ := Prod.mk.inj heq
    exact h snippet field value hmember hpassed _ helement

namespace NodeObject

/-- The children of the element are read when the objects in them are made again. -/
theorem returns_childPlaces (hplain : cls.Plain) (htyped : WellTyped cls members)
    {place : PlacedNode} {ns : Option String} {name : String}
    (hnode : place.node = shown lassoDump rewritten ns name (.mk cls members))
    (hmade : ∀ snippet field value, Member cls members snippet field value →
      ∀ child ∈ value.objects, ∀ own,
        HoldsObject R searchNs lassoDump (cls.rewrites rewritten members) snippet own child →
        ∃ made, snippet.make (own.result R searchNs) = .ok made) :
    ∃ rest, Outcome.gather (fun pair => storeMatched pair.1 (pair.2.result R searchNs))
      (childPlaces lassoDump cls members place) = .ok rest := by
  refine Outcome.returns_gather.mpr ?_
  rintro ⟨snippet, own⟩ hpair
  obtain ⟨node, hchild, -⟩ := mem_childPlaces hnode hpair
  obtain ⟨field, value, hmember, hpassed, -⟩ := (mem_children hplain).mp hchild
  obtain ⟨-, hattribute, -⟩ := child_named hplain htyped hchild
  have hkinds := hplain.kinds snippet hmember.1
  simp only [List.mem_cons, List.not_mem_nil, or_false] at hkinds
  refine returns_storeMatched_of_make ?_ fun hkind => ?_
  · unfold Snippet.TakesObjects
    grind
  · have hown : own ∈ ownPlaces lassoDump cls members place snippet :=
      List.mem_map.mpr ⟨(snippet, own), List.mem_filter.mpr ⟨hpair, by simp⟩, rfl⟩
    have hplaces : List.Forall₂
        (HoldsObject R searchNs lassoDump (cls.rewrites rewritten members) snippet)
        (ownPlaces lassoDump cls members place snippet) value.objects :=
      holdsObject_ownPlaces hplain hmember hkind (htyped snippet field value hmember) hpassed hnode
    obtain ⟨i, hi, rfl⟩ := List.mem_iff_getElem.mp hown
    have hi' : i < value.objects.length := hplaces.length_eq ▸ hi
    exact hmade snippet field value hmember _ (List.getElem_mem hi') _
      (hplaces.get hi hi')

/-- An object comes back if it is readable, when the objects in its members do. -/
theorem comesBack_mk (hwf : (mk cls members).WellFormed R searchNs)
    (hback : ∀ member ∈ members, ∀ child ∈ member.2.objects,
      child.ComesBack R searchNs initial lassoDump) :
    (mk cls members).ComesBack R searchNs initial lassoDump := by
  intro rewritten ns name place hnode
  have htyped := hwf.wellTyped
  obtain ⟨hplain, -, hscope, -, hobjects⟩ := wellFormed_mk.mp hwf
  have hscope' : cls.data.xsiSubType = true → ':' ∉ cls.typeNs.1.toList ∧
      searchNs place.path cls.typeNs.1 = cls.data.ns := fun hsub =>
    (hscope hsub).imp_right fun h => h place.path
  have hwf' : ∀ {snippet field value}, Member cls members snippet field value →
      ∀ child ∈ value.objects, child.WellFormed R searchNs := fun hmember child hchild =>
    hobjects _ (mem_of_lookup hmember.2.2) child hchild
  have hback' : ∀ {snippet field value}, Member cls members snippet field value →
      ∀ child ∈ value.objects, child.ComesBack R searchNs initial lassoDump :=
    fun hmember child hchild => hback _ (mem_of_lookup hmember.2.2) child hchild
  constructor
  · rintro ⟨stores, hrun, hsame⟩
    obtain ⟨hnamed, htables, htakes, rest, hrest, rfl⟩ :=
      (run_shown hplain htyped hscope' hnode).mp hrun
    have hmembers := fun snippet field value hmember =>
      (member_rel_iff hplain htyped hmember hnode hrest (hwf' hmember) (hback' hmember)).mp
        ((sameAs_mk.mp hsame).2 snippet field value hmember)
    exact .mk hnamed htables
      (fun snippet field value hmember => (hmembers snippet field value hmember).1)
      (fun snippet field value hmember => (hmembers snippet field value hmember).2.1)
      ((takes_children_iff hplain htyped).mp htakes)
      (fun snippet field value hmember child hchild =>
        ((hmembers snippet field value hmember).2.2 child hchild).1)
      (fun snippet field value hmember child hchild =>
        ((hmembers snippet field value hmember).2.2 child hchild).2)
  · rintro ⟨hnamed, htables, hattributes, hleftOut, htaken, hclass, hnested⟩
    obtain ⟨rest, hrest⟩ : ∃ rest, Outcome.gather
        (fun pair => storeMatched pair.1 (pair.2.result R searchNs))
        (childPlaces lassoDump cls members place) = .ok rest := by
      refine returns_childPlaces hplain htyped hnode ?_
      rintro snippet field value hmember child hchild own ⟨inner, hmake, hinner⟩
      obtain ⟨made, hnew, -⟩ := ((hback' hmember child hchild).newWithType_iff
        (hwf' hmember child hchild) hinner).mpr ⟨hclass snippet field value hmember child hchild,
          hnested snippet field value hmember child hchild⟩
      exact ⟨_, hmake.trans hnew⟩
    refine ⟨attributeWrites lassoDump rewritten cls members place.node ++ rest, ?_, ?_⟩
    · exact (run_shown hplain htyped hscope' hnode).mpr
        ⟨hnamed, htables, (takes_children_iff hplain htyped).mpr htaken, rest, hrest, rfl⟩
    · refine sameAs_mk.mpr ⟨rfl, fun snippet field value hmember => ?_⟩
      refine (member_rel_iff hplain htyped hmember hnode hrest (hwf' hmember)
        (hback' hmember)).mpr ⟨hattributes snippet field value hmember,
          hleftOut snippet field value hmember, fun child hchild => ?_⟩
      exact ⟨hclass snippet field value hmember child hchild,
        hnested snippet field value hmember child hchild⟩

/-- Every object comes back wherever its element stands if and only if it is readable there. -/
theorem comesBack (object : NodeObject) (hwf : object.WellFormed R searchNs) :
    object.ComesBack R searchNs initial lassoDump := by
  induction object using induct with
  | h cls members ih =>
    refine comesBack_mk hwf fun member hmember child hchild => ?_
    obtain ⟨-, -, -, -, hobjects⟩ := wellFormed_mk.mp hwf
    exact ih member hmember child hchild (hobjects member hmember child hchild)

/-- The snippet of `LassoSamlp2AssertionIDRequest`. -/
def assertionIDRef : Snippet where
  name := "AssertionIDRef"
  kind := .content
  field := some "AssertionIDRef"
  nsName := some "saml"
  nsUri := some saml2AssertionHref

def assertionIDRequestData : NodeClassData where
  nodeName := "AssertionIDRequest"
  ns := some saml2ProtocolHref
  nsPrefix := some "samlp"
  snippets := some {
    snippets := [assertionIDRef]
    jump_inside := by simp [assertionIDRef]
    miss_ahead := by simp [assertionIDRef] }

/-- `LassoSamlp2AssertionIDRequest`, without what it inherits. -/
def assertionIDRequest : WritableClass where
  name := "LassoSamlp2AssertionIDRequest"
  data := assertionIDRequestData
  chain := [assertionIDRequestData]
  chain_base := by simp [assertionIDRequestData]
  data_head := rfl
  subtype_ns := by simp [assertionIDRequestData]
  version_ns := by
    simp [LassoNodeClass.findXmlSnippetByName, assertionIDRequestData, assertionIDRef]

/-- The registry with this class. -/
def assertionIDRegistry : Registry where
  types typename := if typename = assertionIDRequest.name then
    some assertionIDRequest.toLassoNodeClass else none
  mapping _ _ := none
  wsfPrefix _ _ := none
  types_name typename cls h := by
    split at h
    · rename_i htypename
      rw [htypename, ← Option.some.inj h]
    · cases h

theorem assertionIDRequest_plain : assertionIDRequest.Plain := by
  have hsnippets : assertionIDRequest.snippets = [assertionIDRef] := rfl
  constructor
  · rfl
  · rw [hsnippets]
    constructor <;> simp [assertionIDRef]
  all_goals
    rw [hsnippets]
    simp [assertionIDRef]

theorem assertionIDRequest_wellFormed (value : Option String) :
    (mk assertionIDRequest [("AssertionIDRef", .string value)]).WellFormed assertionIDRegistry
      fun _ _ => none := by
  refine wellFormed_mk.mpr ⟨assertionIDRequest_plain, by simp [assertionIDRegistry], ?_, ?_, ?_⟩
  · simp [assertionIDRequest, assertionIDRequestData]
  · have hsnippets : assertionIDRequest.snippets = [assertionIDRef] := rfl
    rw [hsnippets]
    rintro snippet hsnippet field hfield
    obtain rfl := List.mem_singleton.mp hsnippet
    obtain rfl : "AssertionIDRef" = field := Option.some.inj hfield
    exact ⟨.string value, rfl, by simp [Snippet.Types, assertionIDRef]⟩
  · simp [MemberValue.objects]

end NodeObject

end Lasso
