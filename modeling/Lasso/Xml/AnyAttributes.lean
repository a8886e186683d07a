import Mathlib.Data.List.Perm.Basic
import Lasso.Library.Tables
import Lasso.Xml.AttributeTable
import Lasso.Xml.Parse

/-!
# Attributes of any name

What `lasso_node_impl_init_from_xml` puts into the table of extra attributes, and what survives of
it when it is written, or is read from what was written.

## Main definitions

* `AnyClass` — a class with a snippet for any attribute.
* `IsExtra`, `anyTable` — the attributes that go to the table, and the table.
* `TableKept`, `AttributesKept` — the two round trips.

## Main results

* `anyAttributes_iff` — which tables and which elements survive.
-/

namespace Lasso

/-! ## Reading a table -/

/-- A class with a snippet for any attribute. -/
structure AnyClass where
  cls : LassoNodeClass
  data : NodeClassData
  any : Snippet
  data_eq : cls.chain.head? = some data
  any_eq : cls.snippetAnyAttribute = some any

/-- What the stores put into the table. -/
def anyEntries (stores : List Store) : List (String × String) :=
  stores.filterMap fun
    | .attribute _ key value => some (key, value)
    | _ => none

/-- The table that the stores make, with its entries in some order. -/
def anyTable (stores : List Store) : AList fun _ : String => String :=
  Tables.insertEntries ∅ (anyEntries stores)

def tableEntries (t : AList fun _ : String => String) : List (String × String) :=
  t.entries.map fun entry => (entry.1, entry.2)

/-- The attributes that the entries of a table stand for on an element in a namespace. -/
def expandedEntries (ns : Option String) (t : AList fun _ : String => String) :
    List (Option (Option String × String) × String) :=
  (tableEntries t).map fun entry => (expandKey ns entry.1, entry.2)

/-- The key of an attribute with a namespace, on an element in a namespace. -/
def ExtraKey.relative (ns : Option String) (uri name : String) : ExtraKey :=
  if ns = some uri then own name else qualified uri name

section

variable (c : AnyClass) (searchNs : NsScope) (path : List Nat)

/-- The attribute goes to the table. -/
structure IsExtra (node : XmlNode) (attr : XmlAttr) : Prop where
  read : isOwnXsiType searchNs c.data path attr = .ok false
  untaken : c.cls.classList.filterMap (attributeSnippet node attr) = []
  ns : attr.ns.isSome

variable {c searchNs path} {node : XmlNode} {attr : XmlAttr} {stores : List Store}

/-- Of the element, only the namespace counts. -/
theorem IsExtra.congr {node' : XmlNode} (hns : node'.ns = node.ns)
    (h : IsExtra c searchNs path node attr) : IsExtra c searchNs path node' attr := by
  refine ⟨h.read, ?_, h.ns⟩
  have huntaken := h.untaken
  unfold attributeSnippet at huntaken ⊢
  rw [hns]
  exact huntaken

theorem anyAttributeKey_eq {uri : String} (h : attr.ns = some uri) :
    anyAttributeKey node attr uri = (ExtraKey.relative node.ns uri attr.name).text := by
  unfold anyAttributeKey equalNamespace ExtraKey.relative
  rw [h]
  by_cases hns : node.ns = some uri
  · simp [hns, ExtraKey.text]
  · simp [hns, Ne.symm hns, ExtraKey.text]

theorem anyEntries_attributeStores : anyEntries (attributeStores c.cls node attr) =
    if c.cls.classList.filterMap (attributeSnippet node attr) = [] then
      (attr.ns.map fun uri => ((ExtraKey.relative node.ns uri attr.name).text, attr.value)).toList
    else [] := by
  have hcontent : ∀ snippets : List Snippet, anyEntries (snippets.filterMap fun snippet =>
      snippet.field.map (.content · attr.value)) = [] := by
    intro snippets
    refine List.filterMap_eq_nil_iff.mpr fun store hstore => ?_
    obtain ⟨snippet, -, hfield⟩ := List.mem_filterMap.mp hstore
    obtain ⟨field, -, rfl⟩ := Option.map_eq_some_iff.mp hfield
    rfl
  unfold attributeStores
  rw [c.any_eq]
  split
  · rename_i uri _ huntaken hns hany
    rw [if_pos huntaken, hns, Option.map_some, ← anyAttributeKey_eq hns]
    rfl
  · rename_i huncovered
    rw [hcontent]
    split_ifs with huntaken
    · cases hns : attr.ns with
      | none => rfl
      | some uri => exact (huncovered uri c.any huntaken hns rfl).elim
    · rfl

/-- The table has the attributes that no snippet takes. -/
theorem mem_anyEntries (h : collectAttributes searchNs c.cls c.data path node = .ok stores)
    {key value : String} : (key, value) ∈ anyEntries stores ↔
      ∃ attr ∈ node.attrs, IsExtra c searchNs path node attr ∧ ∃ uri, attr.ns = some uri ∧
        key = (ExtraKey.relative node.ns uri attr.name).text ∧ value = attr.value := by
  have hpart : ∀ attr part, (do
      let own ← isOwnXsiType searchNs c.data path attr
      return if own then [] else attributeStores c.cls node attr) = .ok part →
      ((key, value) ∈ anyEntries part ↔ IsExtra c searchNs path node attr ∧
        ∃ uri, attr.ns = some uri ∧
          key = (ExtraKey.relative node.ns uri attr.name).text ∧ value = attr.value) := by
    intro attr part hpart
    obtain ⟨own, hown, hpart⟩ := Outcome.bind_eq_ok.mp hpart
    obtain rfl := Except.ok.inj hpart
    cases own with
    | true =>
      refine iff_of_false (by simp [anyEntries]) fun h => ?_
      cases hown.symm.trans h.1.read
    | false =>
      rw [if_neg (by simp), anyEntries_attributeStores]
      constructor
      · intro hmem
        split_ifs at hmem with huntaken
        · cases hns : attr.ns with
          | none => simp [hns] at hmem
          | some uri =>
            rw [hns, Option.map_some, Option.toList_some, List.mem_singleton] at hmem
            cases hmem
            exact ⟨⟨hown, huntaken, by rw [hns]; rfl⟩, uri, rfl, rfl, rfl⟩
        · cases hmem
      · rintro ⟨hextra, uri, hns, rfl, rfl⟩
        rw [if_pos hextra.untaken, hns]
        exact List.mem_cons_self
  constructor
  · intro hmem
    obtain ⟨store, hstore, hentry⟩ := List.mem_filterMap.mp hmem
    obtain ⟨attr, hattr, part, hok, hin⟩ := (Outcome.mem_gather h).mp hstore
    exact ⟨attr, hattr, (hpart attr part hok).mp (List.mem_filterMap.mpr ⟨store, hin, hentry⟩)⟩
  · rintro ⟨attr, hattr, hextra⟩
    have hreturns : Outcome.Returns (do
        let own ← isOwnXsiType searchNs c.data path attr
        return if own then [] else attributeStores c.cls node attr) := by
      rw [hextra.1.read]
      exact ⟨_, rfl⟩
    obtain ⟨part, hok⟩ := hreturns
    obtain ⟨store, hin, hentry⟩ := List.mem_filterMap.mp ((hpart attr part hok).mpr hextra)
    exact List.mem_filterMap.mpr
      ⟨store, (Outcome.mem_gather h).mpr ⟨attr, hattr, part, hok, hin⟩, hentry⟩

/-! ### Entries -/

/-- Extra attributes of an element have names, and differ in them. -/
structure ExtrasDistinct (c : AnyClass) (searchNs : NsScope) (path : List Nat) (node : XmlNode) :
    Prop where
  valid : ∀ attr ∈ node.attrs, IsExtra c searchNs path node attr → ∀ uri, attr.ns = some uri →
    (ExtraKey.relative node.ns uri attr.name).Valid
  distinct : ∀ attr ∈ node.attrs, ∀ attr' ∈ node.attrs, IsExtra c searchNs path node attr →
    IsExtra c searchNs path node attr' → attr.ns = attr'.ns → attr.name = attr'.name → attr = attr'

theorem ExtraKey.expand_relative (ns : Option String) (uri name : String) :
    (relative ns uri name).expand ns = (some uri, name) := by
  unfold relative
  split_ifs with hns
  · rw [expand, hns]
  · rfl

theorem ExtraKey.relative_inj {ns : Option String} {uri uri' name name' : String}
    (h : relative ns uri name = relative ns uri' name') : uri = uri' ∧ name = name' := by
  have hexpand := congrArg (ExtraKey.expand ns) h
  rw [expand_relative, expand_relative] at hexpand
  cases hexpand
  exact ⟨rfl, rfl⟩

theorem mem_tableEntries {t : AList fun _ : String => String} {key value : String} :
    (key, value) ∈ tableEntries t ↔ t.lookup key = some value := by
  rw [← Option.mem_def, AList.mem_lookup_iff, tableEntries, List.mem_map]
  constructor
  · rintro ⟨⟨key', value'⟩, hentry, heq⟩
    cases heq
    exact hentry
  · intro hentry
    exact ⟨_, hentry, rfl⟩

theorem nodup_tableEntries (t : AList fun _ : String => String) :
    ((tableEntries t).map Prod.fst).Nodup := by
  rw [tableEntries, List.map_map]
  exact t.nodupKeys

/-- The table has one entry for every extra attribute. -/
theorem mem_tableEntries_anyTable (hdistinct : ExtrasDistinct c searchNs path node)
    (h : collectAttributes searchNs c.cls c.data path node = .ok stores) {key value : String} :
    (key, value) ∈ tableEntries (anyTable stores) ↔
      ∃ attr ∈ node.attrs, IsExtra c searchNs path node attr ∧ ∃ uri, attr.ns = some uri ∧
        key = (ExtraKey.relative node.ns uri attr.name).text ∧ value = attr.value := by
  rw [mem_tableEntries, anyTable, Tables.lookup_insertEntries_empty, mem_anyEntries h]
  intro key value value' hvalue hvalue'
  obtain ⟨attr, hattr, hextra, uri, hns, rfl, rfl⟩ := (mem_anyEntries h).mp hvalue
  obtain ⟨attr', hattr', hextra', uri', hns', hkey, rfl⟩ := (mem_anyEntries h).mp hvalue'
  obtain ⟨rfl, hname⟩ := ExtraKey.relative_inj (ExtraKey.text_injective
    (hdistinct.valid attr hattr hextra uri hns) (hdistinct.valid attr' hattr' hextra' uri' hns')
    hkey)
  rw [hdistinct.distinct attr hattr attr' hattr' hextra hextra' (hns.trans hns'.symm) hname]

theorem expandKey_relative {ns : Option String} {uri name : String}
    (h : (ExtraKey.relative ns uri name).Valid) :
    expandKey ns (ExtraKey.relative ns uri name).text = some (some uri, name) := by
  rw [expandKey, splitKey_text h, Option.map_some, ExtraKey.expand_relative]

/-- The entries stand for the extra attributes. -/
theorem mem_expandedEntries (hdistinct : ExtrasDistinct c searchNs path node)
    (h : collectAttributes searchNs c.cls c.data path node = .ok stores)
    {x : Option (Option String × String)} {value : String} :
    (x, value) ∈ expandedEntries node.ns (anyTable stores) ↔
      ∃ attr ∈ node.attrs, IsExtra c searchNs path node attr ∧
        x = some (attr.ns, attr.name) ∧ value = attr.value := by
  constructor
  · intro hmem
    obtain ⟨⟨key, value'⟩, hentry, heq⟩ := List.mem_map.mp hmem
    obtain ⟨attr, hattr, hextra, uri, huri, rfl, rfl⟩ :=
      (mem_tableEntries_anyTable hdistinct h).mp hentry
    rw [expandKey_relative (hdistinct.valid attr hattr hextra uri huri)] at heq
    cases heq
    exact ⟨attr, hattr, hextra, by rw [huri], rfl⟩
  · rintro ⟨attr, hattr, hextra, rfl, rfl⟩
    obtain ⟨uri, huri⟩ := Option.isSome_iff_exists.mp hextra.ns
    refine List.mem_map.mpr ⟨((ExtraKey.relative node.ns uri attr.name).text, attr.value),
      (mem_tableEntries_anyTable hdistinct h).mpr ⟨attr, hattr, hextra, uri, huri, rfl, rfl⟩, ?_⟩
    rw [expandKey_relative (hdistinct.valid attr hattr hextra uri huri), huri]

theorem nodup_expandedEntries (hdistinct : ExtrasDistinct c searchNs path node)
    (h : collectAttributes searchNs c.cls c.data path node = .ok stores) :
    (expandedEntries node.ns (anyTable stores)).Nodup := by
  refine List.Nodup.map_on ?_ (List.Nodup.of_map _ (nodup_tableEntries (anyTable stores)))
  rintro ⟨key, value⟩ hentry ⟨key', value'⟩ hentry' heq
  obtain ⟨attr, hattr, hextra, uri, huri, rfl, rfl⟩ :=
    (mem_tableEntries_anyTable hdistinct h).mp hentry
  obtain ⟨attr', hattr', hextra', uri', huri', rfl, rfl⟩ :=
    (mem_tableEntries_anyTable hdistinct h).mp hentry'
  rw [expandKey_relative (hdistinct.valid attr hattr hextra uri huri),
    expandKey_relative (hdistinct.valid attr' hattr' hextra' uri' huri')] at heq
  simp only [Prod.mk.injEq, Option.some.injEq] at heq
  rw [heq.1.1, heq.1.2, heq.2]

/-! ## The round trips -/

variable (c searchNs path) in
/-- An element with the attributes of the fields of an object. They are read as fields, for an
element like `node`. -/
structure HasFields (node : XmlNode) (e : OpenElement) : Prop where
  chain : ChainScoped e.chain
  attributes : e.AttributesScoped
  read : ∀ attr ∈ e.written, Outcome.Returns (isOwnXsiType searchNs c.data path attr)
  fields : ∀ attr ∈ e.written, ¬ IsExtra c searchNs path node attr

variable (c searchNs path) in
/-- A table is written, and its entries are read again. -/
def TableKept (fresh : Nat) (name : String) (children : List XmlNode) (e : OpenElement)
    (extra : List (ExtraKey × String)) : Prop :=
  ∃ e' stores, e.dumpAny fresh (extra.map fun entry => (entry.1.text, entry.2)) = some e' ∧
    collectAttributes searchNs c.cls c.data path (e'.xmlNode name children) = .ok stores ∧
    (expandedEntries (e.ns.map (·.href)) (anyTable stores)).Perm
      (extra.map fun entry => (some (entry.1.expand (e.ns.map (·.href))), entry.2))

variable (c searchNs path) in
/-- The extra attributes of an element are written as they were read. -/
def AttributesKept (fresh : Nat) (node : XmlNode) (e : OpenElement)
    (extra : List (String × String)) : Prop :=
  ∃ e', e.dumpAny fresh extra = some e' ∧
    ∀ attr ∈ node.attrs, IsExtra c searchNs path node attr → attr ∈ e'.written

/-- What XML asks of the attributes of an element. -/
structure AttributesWellFormed (node : XmlNode) : Prop where
  names : ∀ attr ∈ node.attrs, isNcName attr.name = true
  uris : ∀ attr ∈ node.attrs, ∀ uri, attr.ns = some uri → uri ≠ "" ∧ '}' ∉ uri.toList
  distinct : (node.attrs.map fun attr => (attr.ns, attr.name)).Nodup

theorem ExtraKey.valid_relative {ns : Option String} {uri name : String}
    (hname : isNcName name = true) (huri : uri ≠ "" ∧ '}' ∉ uri.toList) :
    (relative ns uri name).Valid := by
  unfold relative
  split_ifs
  · exact hname
  · exact ⟨hname, huri.1, huri.2⟩

theorem AttributesWellFormed.extrasDistinct (h : AttributesWellFormed node) :
    ExtrasDistinct c searchNs path node where
  valid attr hattr _ uri hns :=
    ExtraKey.valid_relative (h.names attr hattr) (h.uris attr hattr uri hns)
  distinct _ hattr _ hattr' _ _ hns hname :=
    List.inj_on_of_nodup_map h.distinct hattr hattr' (Prod.ext hns hname)

section

variable {e e' : OpenElement} {extra : List (ExtraKey × String)}

/-- The entry of an extra attribute. -/
theorem isExtra_dumped {entry : ExtraKey × String} :
    IsExtra c searchNs path node (e.dumped entry.1 entry.2) ↔ ∃ uri name,
      entry.1 = .qualified uri name ∧ e.FoundPrefixed uri ∧
        IsExtra c searchNs path node ⟨name, some uri, entry.2⟩ := by
  obtain ⟨key, value⟩ := entry
  constructor
  · intro h
    cases key with
    | own name => cases h.ns
    | qualified uri name =>
      by_cases hfound : e.FoundPrefixed uri
      · rw [OpenElement.dumped_qualified hfound] at h
        exact ⟨uri, name, rfl, hfound, h⟩
      · rw [OpenElement.dumped_of_not_foundPrefixed hfound] at h
        cases h.ns
  · rintro ⟨uri, name, rfl, hfound, h⟩
    rw [OpenElement.dumped_qualified hfound]
    exact h

/-- The extra attributes of an element that was written are those of the table that are extra. -/
theorem mem_written_extra (hfields : HasFields c searchNs path node e)
    (htable : e.DumpsTable extra e') :
    attr ∈ e'.written ∧ IsExtra c searchNs path node attr ↔
      ∃ entry ∈ extra, attr = e.dumped entry.1 entry.2 ∧ IsExtra c searchNs path node attr := by
  constructor
  · rintro ⟨hattr, hextra⟩
    rcases htable.origin attr hattr with hfield | ⟨entry, hentry, heq⟩
    · exact absurd hextra (hfields.fields attr hfield)
    · exact ⟨entry, hentry, heq, hextra⟩
  · rintro ⟨entry, hentry, rfl, hextra⟩
    exact ⟨htable.present entry hentry, hextra⟩

/-- An element that was written from a table, and what is expected to be read of it. -/
structure WrittenFrom (c : AnyClass) (searchNs : NsScope) (path : List Nat) (node node' : XmlNode)
    (e e' : OpenElement) (extra : List (ExtraKey × String)) : Prop where
  fields : HasFields c searchNs path node e
  table : e.DumpsTable extra e'
  attrs : node'.attrs = e'.written
  ns : node'.ns = node.ns
  valid : ∀ entry ∈ extra, entry.1.Valid
  distinct : (extra.map Prod.fst).Nodup

/-- An extra attribute that is found there has an entry with its name. -/
theorem WrittenFrom.origin {node' : XmlNode} (h : WrittenFrom c searchNs path node node' e e' extra)
    (hattr : attr ∈ node'.attrs) (hextra : IsExtra c searchNs path node' attr) :
    ∃ entry ∈ extra, IsExtra c searchNs path node (e.dumped entry.1 entry.2) ∧
      ∃ uri, entry.1 = .qualified uri attr.name ∧ attr = ⟨attr.name, some uri, entry.2⟩ := by
  rw [h.attrs] at hattr
  obtain ⟨entry, hentry, rfl, hextra⟩ :=
    (mem_written_extra h.fields h.table).mp ⟨hattr, hextra.congr h.ns.symm⟩
  obtain ⟨uri, name, hkey, hfound, -⟩ := isExtra_dumped.mp hextra
  refine ⟨entry, hentry, hextra, uri, ?_, ?_⟩
  · rw [OpenElement.dumped, hkey]
    rfl
  · rw [hkey, OpenElement.dumped_qualified hfound]

theorem WrittenFrom.extrasDistinct {node' : XmlNode}
    (h : WrittenFrom c searchNs path node node' e e' extra) :
    ExtrasDistinct c searchNs path node' := by
  constructor
  · intro attr hattr hextra uri huri
    obtain ⟨entry, hentry, -, uri', hkey, heq⟩ := h.origin hattr hextra
    obtain rfl : uri' = uri := by
      rw [heq] at huri
      exact Option.some.inj huri
    have hvalid := h.valid entry hentry
    rw [hkey] at hvalid
    exact ExtraKey.valid_relative hvalid.1 hvalid.2
  · intro attr hattr attr' hattr' hextra hextra' hns hname
    obtain ⟨entry, hentry, -, uri, hkey, heq⟩ := h.origin hattr hextra
    obtain ⟨entry', hentry', -, uri', hkey', heq'⟩ := h.origin hattr' hextra'
    obtain rfl : uri = uri' := by
      rw [heq, heq'] at hns
      exact Option.some.inj hns
    have hentries : entry = entry' := List.inj_on_of_nodup_map h.distinct hentry hentry'
      (by rw [hkey, hkey', hname])
    rw [heq, heq', hname, hentries]

open Classical in
/-- The entries that are read are those of the table that are extra. -/
theorem WrittenFrom.perm {node' : XmlNode} (h : WrittenFrom c searchNs path node node' e e' extra)
    (hcollect : collectAttributes searchNs c.cls c.data path node' = .ok stores) :
    (expandedEntries node.ns (anyTable stores)).Perm
      ((extra.filter fun entry =>
        decide (IsExtra c searchNs path node (e.dumped entry.1 entry.2))).map fun entry =>
          (some (entry.1.expand node.ns), entry.2)) := by
  have hdistinct := h.extrasDistinct
  have hkept : ∀ entry ∈ extra.filter fun entry =>
      decide (IsExtra c searchNs path node (e.dumped entry.1 entry.2)),
      entry ∈ extra ∧ IsExtra c searchNs path node (e.dumped entry.1 entry.2) ∧
        ∃ uri name, entry.1 = .qualified uri name ∧
          e.dumped entry.1 entry.2 = ⟨name, some uri, entry.2⟩ := by
    intro entry hentry
    obtain ⟨hentry, hextra⟩ := List.mem_filter.mp hentry
    have hextra := of_decide_eq_true hextra
    obtain ⟨uri, name, hkey, hfound, -⟩ := isExtra_dumped.mp hextra
    exact ⟨hentry, hextra, uri, name, hkey, by rw [hkey, OpenElement.dumped_qualified hfound]⟩
  rw [← h.ns]
  refine (List.perm_ext_iff_of_nodup (nodup_expandedEntries hdistinct hcollect) ?_).mpr ?_
  · refine List.Nodup.map_on ?_ ((List.Nodup.of_map _ h.distinct).filter _)
    intro entry hentry entry' hentry' heq
    obtain ⟨hentry, -, uri, name, hkey, -⟩ := hkept entry hentry
    obtain ⟨hentry', -, uri', name', hkey', -⟩ := hkept entry' hentry'
    refine List.inj_on_of_nodup_map h.distinct hentry hentry' ?_
    rw [hkey, hkey'] at heq ⊢
    simp only [ExtraKey.expand, Prod.mk.injEq, Option.some.injEq] at heq
    rw [heq.1.1, heq.1.2]
  · rintro ⟨x, value⟩
    rw [mem_expandedEntries hdistinct hcollect, List.mem_map]
    constructor
    · rintro ⟨attr, hattr, hextra, rfl, rfl⟩
      obtain ⟨entry, hentry, hextra, uri, hkey, heq⟩ := h.origin hattr hextra
      refine ⟨entry, List.mem_filter.mpr ⟨hentry, decide_eq_true hextra⟩, ?_⟩
      rw [hkey, heq]
      rfl
    · rintro ⟨entry, hentry, heq⟩
      obtain ⟨hentry, hextra, uri, name, hkey, hdumped⟩ := hkept entry hentry
      refine ⟨e.dumped entry.1 entry.2, ?_, hextra.congr h.ns, ?_⟩
      · rw [h.attrs]
        exact h.table.present entry hentry
      · rw [hdumped, ← Prod.mk.injEq, ← heq, hkey]
        rfl

theorem tableKept_iff (fresh : Nat) {name : String} {children : List XmlNode}
    (hfields : HasFields c searchNs path (e.xmlNode name children) e)
    (hvalid : ∀ entry ∈ extra, entry.1.Valid) (hdistinct : (extra.map Prod.fst).Nodup) :
    TableKept c searchNs path fresh name children e extra ↔ ∀ entry ∈ extra,
      IsExtra c searchNs path (e.xmlNode name children) (e.dumped entry.1 entry.2) := by
  classical
  obtain ⟨e', hdump, htable⟩ := OpenElement.dumpsTable_dumpAny fresh hfields.chain
    hfields.attributes hvalid hdistinct
  have hwritten : WrittenFrom c searchNs path (e.xmlNode name children) (e'.xmlNode name children)
      e e' extra := by
    refine ⟨hfields, htable, rfl, ?_, hvalid, hdistinct⟩
    show e'.ns.map (·.href) = e.ns.map (·.href)
    rw [htable.ns]
  constructor
  · rintro ⟨e'', stores, hdump', hcollect, hperm⟩
    cases hdump.symm.trans hdump'
    have hlength := (hperm.symm.trans (hwritten.perm hcollect)).length_eq
    rw [List.length_map, List.length_map] at hlength
    intro entry hentry
    exact of_decide_eq_true (List.length_filter_eq_length_iff.mp hlength.symm entry hentry)
  · intro hextra
    have hreturns : Outcome.Returns (collectAttributes searchNs c.cls c.data path
        (e'.xmlNode name children)) := by
      refine Outcome.returns_gather.mpr fun attr hattr => Outcome.returns_bind.mpr ?_
      rcases htable.origin attr hattr with hfield | ⟨entry, hentry, rfl⟩
      · obtain ⟨own, hown⟩ := hfields.read attr hfield
        exact ⟨own, hown, Outcome.returns_pure _⟩
      · exact ⟨false, (hextra entry hentry).read, Outcome.returns_pure _⟩
    obtain ⟨stores, hcollect⟩ := hreturns
    refine ⟨e', stores, hdump, hcollect, ?_⟩
    have hperm := hwritten.perm hcollect
    rw [List.filter_eq_self.mpr fun entry hentry => decide_eq_true (hextra entry hentry)] at hperm
    exact hperm

/-- The entries of a table that was read have keys. -/
theorem exists_keys (hdistinct : ExtrasDistinct c searchNs path node)
    (h : collectAttributes searchNs c.cls c.data path node = .ok stores)
    {entries : List (String × String)} (hperm : entries.Perm (tableEntries (anyTable stores))) :
    ∃ extra : List (ExtraKey × String),
      extra.map (fun entry => (entry.1.text, entry.2)) = entries ∧
        (∀ entry ∈ extra, entry.1.Valid) ∧ (extra.map Prod.fst).Nodup := by
  have hkeys : ∀ entry ∈ entries, ∃ key : ExtraKey, key.Valid ∧ key.text = entry.1 := by
    intro entry hentry
    obtain ⟨attr, hattr, hextra, uri, huri, hkey, -⟩ :=
      (mem_tableEntries_anyTable hdistinct h).mp (hperm.mem_iff.mp hentry)
    exact ⟨_, hdistinct.valid attr hattr hextra uri huri, hkey.symm⟩
  have hexists : ∃ extra : List (ExtraKey × String),
      extra.map (fun entry => (entry.1.text, entry.2)) = entries ∧
        ∀ entry ∈ extra, entry.1.Valid := by
    clear hperm
    induction entries with
    | nil => exact ⟨[], rfl, nofun⟩
    | cons entry entries ih =>
      obtain ⟨⟨key, hvalid, hkey⟩, hrest⟩ := List.forall_mem_cons.mp hkeys
      obtain ⟨extra, rfl, hvalids⟩ := ih hrest
      refine ⟨(key, entry.2) :: extra, ?_, List.forall_mem_cons.mpr ⟨hvalid, hvalids⟩⟩
      rw [List.map_cons, hkey]
  obtain ⟨extra, rfl, hvalid⟩ := hexists
  have hnodup := (hperm.map Prod.fst).nodup_iff.mpr (nodup_tableEntries _)
  refine ⟨extra, rfl, hvalid, List.Nodup.of_map ExtraKey.text ?_⟩
  rw [List.map_map] at hnodup ⊢
  exact hnodup

theorem attributesKept_iff (fresh : Nat) {entries : List (String × String)}
    (hfields : HasFields c searchNs path node e) (hnode : AttributesWellFormed node)
    (h : collectAttributes searchNs c.cls c.data path node = .ok stores)
    (hperm : entries.Perm (tableEntries (anyTable stores))) :
    AttributesKept c searchNs path fresh node e entries ↔
      ∀ attr ∈ node.attrs, IsExtra c searchNs path node attr →
        attr.ns ≠ node.ns ∧ ∀ uri, attr.ns = some uri → e.FoundPrefixed uri := by
  have hextras : ExtrasDistinct c searchNs path node := hnode.extrasDistinct
  obtain ⟨extra, rfl, hvalid, hdistinct⟩ := exists_keys hextras h hperm
  obtain ⟨e', hdump, htable⟩ := OpenElement.dumpsTable_dumpAny fresh hfields.chain
    hfields.attributes hvalid hdistinct
  have hmem : ∀ key value, (ExtraKey.text key, value) ∈
      extra.map (fun entry => (entry.1.text, entry.2)) ↔
        ∃ attr ∈ node.attrs, IsExtra c searchNs path node attr ∧ ∃ uri, attr.ns = some uri ∧
          key.text = (ExtraKey.relative node.ns uri attr.name).text ∧ value = attr.value :=
    fun key value => by rw [hperm.mem_iff, mem_tableEntries_anyTable hextras h]
  constructor
  · rintro ⟨e'', hdump', hkept⟩ attr hattr hextra
    cases hdump.symm.trans hdump'
    obtain ⟨⟨key, value⟩, hentry, heq, hextra⟩ :=
      (mem_written_extra hfields htable).mp ⟨hkept attr hattr hextra, hextra⟩
    rw [heq] at hextra
    obtain ⟨uri, name, rfl, hfound, -⟩ := isExtra_dumped.mp hextra
    have hns : attr.ns = some uri := by
      rw [heq, OpenElement.dumped_qualified hfound]
    refine ⟨?_, fun uri' huri' => ?_⟩
    · -- the key with the URI was made for an attribute in another namespace than the element
      obtain ⟨attr', hattr', hextra', uri', huri', hkey, -⟩ :=
        (hmem _ value).mp (List.mem_map.mpr ⟨_, hentry, rfl⟩)
      have hrelative := ExtraKey.text_injective (hvalid _ hentry)
        (hextras.valid attr' hattr' hextra' uri' huri') hkey
      unfold ExtraKey.relative at hrelative
      split_ifs at hrelative with hnode
      cases hrelative
      rw [hns]
      exact Ne.symm hnode
    · obtain rfl := Option.some.inj (hns.symm.trans huri')
      exact hfound
  · intro hcond
    refine ⟨e', hdump, fun attr hattr hextra => ?_⟩
    obtain ⟨uri, huri⟩ := Option.isSome_iff_exists.mp hextra.ns
    obtain ⟨hns, hfound⟩ := hcond attr hattr hextra
    have hrelative : ExtraKey.relative node.ns uri attr.name = .qualified uri attr.name := by
      rw [ExtraKey.relative, if_neg fun heq => hns (huri.trans heq.symm)]
    obtain ⟨⟨key, value⟩, hentry, heq⟩ := List.mem_map.mp ((hmem (.qualified uri attr.name)
      attr.value).mpr ⟨attr, hattr, hextra, uri, huri, by rw [hrelative], rfl⟩)
    obtain ⟨hkey, rfl⟩ := Prod.mk.inj heq
    have hvalidKey := hextras.valid attr hattr hextra uri huri
    rw [hrelative] at hvalidKey
    obtain rfl := ExtraKey.text_injective (hvalid _ hentry) hvalidKey hkey
    have hpresent := htable.present _ hentry
    rw [OpenElement.dumped_qualified (hfound uri huri), ← huri] at hpresent
    exact hpresent

end

end

/-! ## Subject confirmation data -/

def subjectConfirmationDataSnippets : SnippetTable where
  snippets := [
    { name := "NotBefore", kind := .attribute, field := some "NotBefore" },
    { name := "NotOnOrAfter", kind := .attribute, field := some "NotOnOrAfter" },
    { name := "Recipient", kind := .attribute, field := some "Recipient" },
    { name := "InResponseTo", kind := .attribute, field := some "InResponseTo" },
    { name := "Address", kind := .attribute, field := some "Address" },
    { name := "", kind := .listNodes, field := some "any", any := true },
    { name := "", kind := .attribute, field := some "attributes", any := true }]
  jump_inside := by decide
  miss_ahead := by decide

def subjectConfirmationDataClass : AnyClass where
  cls := {
    name := "LassoSaml2SubjectConfirmationData"
    chain := [{ nodeName := "SubjectConfirmationData", ns := some saml2AssertionHref,
                snippets := some subjectConfirmationDataSnippets }]
    chain_base := by decide }
  data := { nodeName := "SubjectConfirmationData", ns := some saml2AssertionHref,
            snippets := some subjectConfirmationDataSnippets }
  any := { name := "", kind := .attribute, field := some "attributes", any := true }
  data_eq := rfl
  any_eq := rfl

/-- `<saml:SubjectConfirmationData/>` -/
def confirmationElement : OpenElement where
  ns := some ⟨1, some "saml", saml2AssertionHref⟩
  nsDef := [⟨1, some "saml", saml2AssertionHref⟩]

/-- The same with an attribute `a`. -/
def confirmationNode (ns : String) : XmlNode :=
  .element (some saml2AssertionHref) "SubjectConfirmationData" [⟨"a", some ns, "1"⟩] []

theorem confirmationElement_hasFields (node : XmlNode) :
    HasFields subjectConfirmationDataClass (fun _ _ => none) [] node confirmationElement := by
  refine ⟨⟨⟨by simp [confirmationElement], fun d hd pre hpre => ?_, nofun⟩, trivial⟩, nofun, nofun,
    nofun⟩
  obtain rfl := List.mem_singleton.mp hd
  cases hpre
  decide

theorem isExtra_confirmation (node : XmlNode) (ns : String) :
    IsExtra subjectConfirmationDataClass (fun _ _ => none) [] node ⟨"a", some ns, "1"⟩ where
  read := by
    have hname : ¬ ((some ns == some xsiHref && "a" == "type") = true) := by simp
    exact if_neg hname
  untaken := rfl
  ns := rfl

theorem confirmationNode_wellFormed {ns : String} (h : ns ≠ "" ∧ '}' ∉ ns.toList) :
    AttributesWellFormed (confirmationNode ns) := by
  refine ⟨fun attr hattr => ?_, fun attr hattr uri huri => ?_, List.nodup_singleton _⟩
  · obtain rfl := List.mem_singleton.mp hattr
    show isNcName "a" = true
    decide
  · obtain rfl := List.mem_singleton.mp hattr
    cases huri
    exact h

theorem collectAttributes_confirmationNode (ns : String) : ∃ stores,
    collectAttributes (fun _ _ => none) subjectConfirmationDataClass.cls
      subjectConfirmationDataClass.data [] (confirmationNode ns) = .ok stores := by
  refine Outcome.returns_gather.mpr fun attr hattr => ?_
  obtain rfl := List.mem_singleton.mp hattr
  rw [(isExtra_confirmation (confirmationNode ns) ns).read]
  exact Outcome.returns_pure _

end Lasso
