import Lasso.Xml.Rows

/-!
# Elements for members with texts

The element of an object whose members are all strings: each is an attribute, or the text of a child.
There may be other attributes and children, which the class writes and reads by itself.

## Main definitions

* `Rows.TextClass` — the classes of such objects.
* `Rows.textMembers`, `Rows.textAttribute`, `Rows.textValue` — the members, and where they go.

## Main results

* `TextClass.buildXmlNode` — the element.
* `TextClass.content` — the members that are read.
-/

namespace Lasso

namespace Rows

/-- There are no objects. -/
def noObjects : NodeCodec Empty where
  encode := nofun
  image := nofun
  decode _ := none

section Texts

variable {texts : List (String × Option String)} {cls : WritableClass} {R : Registry}
  {searchNs : NsScope} {snippet : Snippet} {field className : String}

/-- The text of the member of a snippet. -/
def textOf (texts : List (String × Option String)) (snippet : Snippet) : Option String :=
  (snippet.field.bind (List.lookup · texts)).join

/-- The attribute of a snippet. -/
def textAttribute (texts : List (String × Option String)) (snippet : Snippet) : Option XmlAttr :=
  if snippet.kind = .attribute then
    (textOf texts snippet).map fun value => { name := snippet.name, value }
  else none

/-- The child of a snippet. -/
def textValue (texts : List (String × Option String)) (snippet : Snippet) :
    Option (RowValue Empty) :=
  if snippet.kind = .content then (textOf texts snippet).map .text else none

/-- The members that hold texts. -/
def textMembers (texts : List (String × Option String)) : List (String × MemberValue XmlNode) :=
  texts.map fun member => (member.1, .string member.2)

/-- The snippets are for attributes and children in the namespace of the class. -/
structure TextClass (cls : WritableClass) : Prop where
  plain : PlainSnippets cls.snippets
  kinds : ∀ snippet ∈ cls.snippets, snippet.field.isSome →
    snippet.kind = .attribute ∨ snippet.kind = .content
  passedOver : ∀ snippet ∈ cls.snippets, snippet.passedOver true = false
  ns : ∀ snippet ∈ cls.snippets, snippet.nsName = none ∧ snippet.nsUri = none
  names : ∀ snippet ∈ cls.snippets, snippet.name ≠ "" ∧ snippet.kind ≠ .textChild
  fields : (cls.snippets.filterMap (·.field)).Nodup
  subType : cls.data.xsiSubType = false
  liberty : cls.nameData.ns ≠ some libHref

theorem TextClass.written (h : TextClass cls) :
    cls.written true (List.lookup · (textMembers texts)) =
      cls.snippets.filterMap fun snippet =>
        (snippet.field.bind (List.lookup · texts)).map fun text => (snippet, .string text) := by
  rw [WritableClass.written, LassoNodeClass.snippets, List.filterMap_flatMap]
  refine List.flatMap_congr fun table htable => ?_
  have hmem : ∀ {snippet}, snippet ∈ table.snippets → snippet ∈ cls.snippets := fun hsnippet =>
    List.mem_flatMap.mpr ⟨table, htable, hsnippet⟩
  rw [writtenSnippets_eq fun snippet hsnippet =>
    h.plain.jumpOnMatch snippet (hmem hsnippet)]
  refine List.filterMap_congr fun snippet hsnippet => ?_
  cases snippet.field with
  | none => rfl
  | some field =>
    rw [Option.bind_some, Option.bind_some, textMembers, lookup_map_snd]
    cases List.lookup field texts <;>
      simp [Option.filter, h.passedOver snippet (hmem hsnippet)]

theorem name_of_textAttribute {attr : XmlAttr} (h : textAttribute texts snippet = some attr) :
    attr.name = snippet.name := by
  unfold textAttribute at h
  split_ifs at h
  obtain ⟨value, -, rfl⟩ := Option.map_eq_some_iff.mp h
  rfl

/-- The element of an object whose members hold texts. -/
theorem TextClass.buildXmlNode (h : TextClass cls) :
    Lasso.buildXmlNode true cls (textMembers texts) =
      .element cls.nameData.ns cls.nameData.nodeName
        (cls.snippets.filterMap (textAttribute texts))
        ((rows (textValue texts) cls.snippets).map (rowElement noObjects cls.nameData.ns)) := by
  have hliberty : cls.isLiberty11 (List.lookup · (textMembers texts)) = false := by
    simp [WritableClass.isLiberty11, h.liberty]
  have hns : ∀ part ∈ cls.written true (List.lookup · (textMembers texts)),
      part.1.nsName = none := by
    rw [h.written]
    intro part hpart
    obtain ⟨snippet, hmem, hpart⟩ := List.mem_filterMap.mp hpart
    obtain ⟨text, -, rfl⟩ := Option.map_eq_some_iff.mp hpart
    exact (h.ns snippet hmem).1
  have hxsi : cls.xsiType = [] := by simp [WritableClass.xsiType, h.subType]
  have hattributes : (snippetAttributes cls.nsDef
      (cls.written true (List.lookup · (textMembers texts)))).foldl setNsProp cls.xsiType =
        cls.snippets.filterMap (textAttribute texts) := by
    have heq : snippetAttributes cls.nsDef
        (cls.written true (List.lookup · (textMembers texts))) =
          cls.snippets.filterMap (textAttribute texts) := by
      rw [snippetAttributes_eq_filterMap _ fun part hpart _ => hns part hpart, h.written,
        List.filterMap_filterMap]
      refine List.filterMap_congr fun snippet _ => ?_
      unfold textAttribute textOf
      cases snippet.field.bind (List.lookup · texts) with
      | none => simp
      | some text => rfl
    have hnames : (cls.snippets.filterMap (textAttribute texts)).Pairwise fun attr attr' =>
        attr.name = attr'.name → attr.ns ≠ attr'.ns := by
      refine (List.pairwise_map.mp h.plain.names).filterMap _ ?_
      intro snippet snippet' hne attr hattr attr' hattr' hname
      exact absurd ((name_of_textAttribute hattr).symm.trans
        (hname.trans (name_of_textAttribute hattr'))) hne
    rw [heq, hxsi, foldl_setNsProp hnames, List.nil_append]
  have hchildren : (cls.written true (List.lookup · (textMembers texts))).flatMap
      (fun part => snippetChildren cls.nameData.ns part.1 part.2) =
        (rows (textValue texts) cls.snippets).map (rowElement noObjects cls.nameData.ns) := by
    rw [h.written, rows, List.filterMap_eq_flatMap_toList, List.filterMap_eq_flatMap_toList,
      List.flatMap_assoc, List.map_flatMap]
    refine List.flatMap_congr fun snippet hmem => ?_
    unfold textValue textOf
    cases hfield : snippet.field with
    | none => simp
    | some field =>
      rw [Option.bind_some]
      cases List.lookup field texts with
      | none => simp
      | some text =>
        rcases h.kinds snippet hmem (by simp [hfield]) with hkind | hkind
        · simp [snippetChildren, hkind]
        · cases text <;> simp [snippetChildren, hkind, Snippet.text, rowElement]
  unfold Lasso.buildXmlNode
  dsimp only
  rw [hliberty, hattributes, hchildren, XmlNode.rewriteLiberty_false]

theorem TextClass.fits (h : TextClass cls) :
    Fits noObjects R searchNs cls.snippets (textValue texts) where
  plain := h.plain
  names := h.names
  fields := h.fields
  text snippet hmem text hvalue := by
    unfold textValue at hvalue
    split_ifs at hvalue with hkind
    exact ⟨hkind, (h.ns snippet hmem).2⟩
  node _ _ node _ := node.elim

/-- The text of a member: what its child has written, or else what was written before. -/
theorem TextClass.content (h : TextClass cls) (hmem : snippet ∈ cls.snippets)
    (hfield : snippet.field = some field) (before : List Store) :
    (ParsedNode.mk className (before ++
        (rows (textValue texts) cls.snippets).flatMap (rowStores noObjects))).content field =
      (if snippet.kind = .content then textOf texts snippet else none).or
        ((ParsedNode.mk className before).content field) := by
  have hrows : ((rows (textValue texts) cls.snippets).flatMap (rowStores noObjects)).filterMap
      (Store.contentOf field) =
        (if snippet.kind = .content then textOf texts snippet else none).toList := by
    have hfits : Fits noObjects ⟨fun _ => none, fun _ _ => none, fun _ _ => none, nofun⟩
      (fun _ _ => none) cls.snippets (textValue texts) := h.fits
    rw [hfits.filterMap_rowStores hmem hfield]
    · unfold textValue
      split_ifs
      · cases textOf texts snippet <;> simp [rowStores, hfield, Store.contentOf]
      · rfl
    · intro store text hstore
      cases store with
      | content field' value =>
        by_cases hname : field' = field
        · exact .inl ⟨value, by rw [hname]⟩
        · simp [Store.contentOf, hname] at hstore
      | _ => simp [Store.contentOf] at hstore
  rw [ParsedNode.content_eq_getLast?, ParsedNode.content_eq_getLast?, ParsedNode.contents,
    ParsedNode.contents, ParsedNode.stores, ParsedNode.stores, List.filterMap_append, hrows,
    List.getLast?_append]
  cases (if snippet.kind = .content then textOf texts snippet else none) <;> rfl

end Texts

end Rows

end Lasso
