import Lasso.Xml.WrittenNode
import Mathlib.Data.List.Pairwise

/-!
# The attributes of the element of an object

The attributes that are written for an object of a plain class, as the class reads them.

## Main results

* `collectAttributes_shown` — the attributes are read by the attribute snippets alone.
* `filterMap_contentOf_attributes` — what they write to the member of a snippet.
-/

namespace Lasso

/-- A part of a list that comes from a single item. -/
theorem flatMap_eq_of_only {α β : Type} {as : List α} {a : α} {f : α → List β} (ha : a ∈ as)
    (hnodup : as.Nodup) (h : ∀ b ∈ as, b ≠ a → f b = []) : as.flatMap f = f a := by
  induction as with
  | nil => cases ha
  | cons b as ih =>
    obtain ⟨hb, hnodup⟩ := List.nodup_cons.mp hnodup
    obtain ⟨hhead, htail⟩ := List.forall_mem_cons.mp h
    rw [List.flatMap_cons]
    rcases List.mem_cons.mp ha with rfl | ha
    · have hnil : as.flatMap f = [] := by
        rw [List.flatMap_eq_nil_iff]
        intro c hc
        exact htail c hc fun heq => hb (heq ▸ hc)
      rw [hnil, List.append_nil]
    · rw [hhead fun heq => hb (heq ▸ ha), List.nil_append, ih ha hnodup htail]

namespace ParsedNode

variable {object : ParsedNode} {field : String}

theorem content_eq_getLast? : object.content field = (object.contents field).getLast? :=
  Search.lastSome_eq_getLast? _ _

theorem subnode_eq_getLast? :
    object.subnode field = ((object.stores.filterMap (Store.nodeOf field)).getLast?).join :=
  congrArg Option.join (Search.lastSome_eq_getLast? (Store.nodeOf field) _)

theorem subnodes_eq_filterMap : object.subnodes field =
    object.stores.filterMap fun store => (store.nodeOf field).join := by
  refine List.filterMap_congr fun store _ => ?_
  cases store with
  | node field' node => by_cases h : field' = field <;> simp [Store.nodeOf, h]
  | _ => rfl

end ParsedNode

/-- The texts that a member gets from stores of one member. -/
theorem filterMap_contentOf (field other : String) (values : List String) :
    (values.map (Store.content field)).filterMap (Store.contentOf other) =
      if field = other then values else [] := by
  induction values with
  | nil => simp
  | cons value values ih =>
    rw [List.map_cons, List.filterMap_cons, ih]
    by_cases h : field = other <;> simp [Store.contentOf, h]

/-! ## Attributes -/

section Attributes

variable {searchNs : NsScope} {cls : WritableClass}
  {members : List (String × MemberValue NodeObject)} {lassoDump rewritten : Bool}
  {snippet : Snippet} {node : XmlNode} {attr : XmlAttr}

theorem splitQName_append {pre localPart : String} (h : ':' ∉ pre.toList) :
    splitQName (pre ++ ":" ++ localPart) = some (pre, localPart) := by
  have hspan : (pre.toList ++ ':' :: localPart.toList).span (· != ':') =
      (pre.toList, ':' :: localPart.toList) := by
    rw [List.span_eq_takeWhile_dropWhile, List.takeWhile_append_of_pos, List.dropWhile_append_of_pos]
    · simp
    · intro c hc
      simpa using fun heq : c = ':' => h (heq ▸ hc)
    · intro c hc
      simpa using fun heq : c = ':' => h (heq ▸ hc)
  unfold splitQName
  rw [String.toList_append, String.toList_append, show ":".toList = [':'] from rfl,
    List.append_assoc, List.singleton_append, hspan]
  simp

/-- The tables hold a snippet once, so looking for it in each finds it once. -/
theorem filterMap_find?_eq {tables : List SnippetTable} {p q : Snippet → Bool}
    (hmem : snippet ∈ tables.flatMap (·.snippets))
    (hnodup : (tables.flatMap (·.snippets)).Nodup)
    (hp : ∀ other ∈ tables.flatMap (·.snippets), p other = true ↔ other = snippet) :
    tables.filterMap (fun table => (table.snippets.find? p).filter q) =
      if q snippet then [snippet] else [] := by
  induction tables with
  | nil => cases hmem
  | cons table tables ih =>
    rw [List.flatMap_cons] at hmem hnodup hp
    obtain ⟨-, hnodup', hdisjoint⟩ := List.nodup_append.mp hnodup
    by_cases hhere : snippet ∈ table.snippets
    · have hfind : table.snippets.find? p = some snippet := by
        have hsome : (table.snippets.find? p).isSome := List.find?_isSome.mpr
          ⟨snippet, hhere, (hp snippet hmem).mpr rfl⟩
        obtain ⟨other, hother⟩ := Option.isSome_iff_exists.mp hsome
        have hmem' := List.mem_append_left (tables.flatMap (·.snippets))
          (List.mem_of_find?_eq_some hother)
        rw [hother, (hp other hmem').mp (List.find?_some hother)]
      have hrest : tables.filterMap (fun table => (table.snippets.find? p).filter q) = [] := by
        rw [List.filterMap_eq_nil_iff]
        intro other hother
        have hnone : other.snippets.find? p = none := by
          rw [List.find?_eq_none]
          intro snippet' hsnippet' hp'
          have hmem' : snippet' ∈ tables.flatMap (·.snippets) :=
            List.mem_flatMap.mpr ⟨other, hother, hsnippet'⟩
          obtain rfl := (hp snippet' (List.mem_append_right _ hmem')).mp hp'
          exact hdisjoint snippet' hhere snippet' hmem' rfl
        rw [hnone, Option.filter_none]
      rw [List.filterMap_cons, hfind, hrest]
      cases hq : q snippet <;> simp [Option.filter, hq]
    · have hnone : table.snippets.find? p = none := by
        rw [List.find?_eq_none]
        intro other hother hp'
        obtain rfl := (hp other (List.mem_append_left _ hother)).mp hp'
        exact hhere hother
      rw [List.filterMap_cons, hnone, Option.filter_none]
      exact ih ((List.mem_append.mp hmem).resolve_left hhere) hnodup'
        fun other hother => hp other (List.mem_append_right _ hother)

namespace WritableClass.Plain

theorem nodup_snippets (hplain : cls.Plain) : cls.snippets.Nodup :=
  List.Nodup.of_map _ hplain.snippets.names

theorem eq_of_name (hplain : cls.Plain) {other : Snippet} (hsnippet : snippet ∈ cls.snippets)
    (hother : other ∈ cls.snippets) (hname : snippet.name = other.name) : snippet = other :=
  List.inj_on_of_nodup_map hplain.snippets.names hsnippet hother hname

theorem eq_of_field (hplain : cls.Plain) {other : Snippet} {field : String}
    (hsnippet : snippet ∈ cls.snippets) (hother : other ∈ cls.snippets)
    (hfield : snippet.field = some field) (hfield' : other.field = some field) :
    snippet = other := by
  have hdistinct := List.pairwise_filterMap.mp hplain.members
  by_contra hne
  have hsymm : Std.Symm fun snippet other : Snippet =>
      ∀ field, snippet.field = some field → ∀ field', other.field = some field' →
        field ≠ field' :=
    ⟨fun _ _ h field hf field' hf' heq => h field' hf' field hf heq.symm⟩
  exact hdistinct.forall hsnippet hother hne field hfield field hfield' rfl

theorem snippetAnyAttribute_eq_none (hplain : cls.Plain) : cls.snippetAnyAttribute = none := by
  rw [LassoNodeClass.snippetAnyAttribute, List.findRev?_eq_find?_reverse, List.find?_eq_none]
  intro other hother
  have hmem : other ∈ cls.snippets := by
    simpa [LassoNodeClass.snippets, LassoNodeClass.classList] using hother
  simp [hplain.snippets.any other hmem]

/-- The attribute of a snippet is taken by that snippet, where the namespace allows it. -/
theorem attributeStores_eq (hplain : cls.Plain) (hmem : snippet ∈ cls.snippets)
    (hkind : snippet.kind = .attribute) (hname : attr.name = snippet.name) {field : String}
    (hfield : snippet.field = some field) :
    attributeStores cls.toLassoNodeClass node attr =
      if attr.ns.isNone || (equalNamespace attr.ns node.ns && snippet.nsUri.isNone) ||
        (snippet.nsUri.isSome && attr.ns == snippet.nsUri) then [.content field attr.value]
      else [] := by
  have honly : ∀ other ∈ cls.snippets,
      (other.kind == .attribute && attr.name == other.name) = true ↔ other = snippet := by
    intro other hother
    constructor
    · intro hp
      have hname' : attr.name = other.name := by simp_all
      exact hplain.eq_of_name hother hmem (hname'.symm.trans hname)
    · rintro rfl
      simp [hkind, hname]
  have hfind : cls.classList.filterMap (attributeSnippet node attr) = _ :=
    filterMap_find?_eq (q := fun other => attr.ns.isNone ||
      (equalNamespace attr.ns node.ns && other.nsUri.isNone) ||
        (other.nsUri.isSome && attr.ns == other.nsUri)) hmem hplain.nodup_snippets honly
  rw [attributeStores, hfind, hplain.snippetAnyAttribute_eq_none]
  split_ifs
  · simp [hfield]
  · cases attr.ns <;> rfl

/-- Every attribute comes from a snippet with its name and a member. -/
theorem exists_of_mem_snippetAttributes (hplain : cls.Plain) {nsDef : List XmlNs}
    (h : attr ∈ snippetAttributes nsDef (cls.written lassoDump (List.lookup · members))) :
    ∃ snippet field value, NodeObject.Member cls members snippet field value ∧
      snippet.kind = .attribute ∧ attr.name = snippet.name ∧ snippet.text value = some attr.value ∧
      (attr.ns = none ∨ attr.ns = snippet.nsUri) := by
  obtain ⟨⟨snippet, value⟩, hpart, hkind, hname, htext, hns⟩ := mem_snippetAttributes h
  obtain ⟨hmem, ⟨field, hfield, hvalue⟩, -⟩ := hplain.mem_written.mp hpart
  exact ⟨snippet, field, value, ⟨hmem, hfield, hvalue⟩, hkind, hname, htext, hns⟩

theorem nodup_names_snippetAttributes (hplain : cls.Plain) (nsDef : List XmlNs) :
    ((snippetAttributes nsDef (cls.written lassoDump (List.lookup · members))).map
      (·.name)).Nodup := by
  have hsub : ((cls.written lassoDump (List.lookup · members)).map (·.1.name)).Sublist
      (cls.snippets.map (·.name)) := by
    have hwritten : ((cls.written lassoDump (List.lookup · members)).map (·.1)).Sublist
        cls.snippets := hplain.written_sublist
    have hnames := hwritten.map (·.name)
    rwa [List.map_map] at hnames
  exact ((snippetAttributes_sublist nsDef _).trans hsub).nodup hplain.snippets.names

/-- `xsi:type` and the attributes of the snippets do not meet. -/
theorem foldl_setNsProp_xsiType (hplain : cls.Plain) :
    (snippetAttributes cls.nsDef (cls.written lassoDump (List.lookup · members))).foldl
        setNsProp cls.xsiType =
      cls.xsiType ++ snippetAttributes cls.nsDef (cls.written lassoDump (List.lookup · members)) := by
  refine foldl_setNsProp (List.pairwise_append.mpr ⟨?_, ?_, ?_⟩)
  · unfold WritableClass.xsiType
    split <;> simp
  · have hnames : ((snippetAttributes cls.nsDef (cls.written lassoDump
        (List.lookup · members))).map (·.name)).Nodup := hplain.nodup_names_snippetAttributes _
    exact (List.pairwise_map.mp hnames).imp fun hne heq => absurd heq hne
  · intro own hown attr hattr hname
    obtain ⟨snippet, field, value, ⟨hmem, -, -⟩, -, hname', -, hns⟩ :=
      hplain.exists_of_mem_snippetAttributes hattr
    unfold WritableClass.xsiType at hown
    split at hown
    · obtain rfl := List.mem_singleton.mp hown
      have hxsi := hplain.xsiType snippet hmem (hname'.symm.trans hname.symm)
      rcases hns with hns | hns
      · simp [hns]
      · exact fun heq => hxsi (hns.symm.trans heq.symm)
    · cases hown

/-- The attributes of the snippets are no `xsi:type`. -/
theorem ne_xsiType_snippet (hplain : cls.Plain) {nsDef : List XmlNs}
    (h : attr ∈ snippetAttributes nsDef (cls.written lassoDump (List.lookup · members))) :
    ¬(attr.ns.map (libertyHref rewritten) = some xsiHref ∧ attr.name = "type") := by
  obtain ⟨snippet, field, value, ⟨hmem, -, -⟩, -, hname, -, hns⟩ :=
    hplain.exists_of_mem_snippetAttributes h
  rintro ⟨hmap, htype⟩
  obtain ⟨href, hattr, hrewritten⟩ := Option.map_eq_some_iff.mp hmap
  have hhref : href = xsiHref := by
    unfold libertyHref at hrewritten
    split at hrewritten
    · exact absurd hrewritten (by decide)
    · exact hrewritten
  rcases hns with hns | hns
  · simp [hns] at hattr
  · exact hplain.xsiType snippet hmem (hname.symm.trans htype)
      (hns.symm.trans (hattr.trans (congrArg some hhref)))

/-- The attributes of the snippets are not skipped as an `xsi:type`. -/
theorem isOwnXsiType_snippet (hplain : cls.Plain) {nsDef : List XmlNs} (data : NodeClassData)
    (path : List Nat)
    (h : attr ∈ snippetAttributes nsDef (cls.written lassoDump (List.lookup · members))) :
    isOwnXsiType searchNs data path (attr.rewriteLiberty rewritten) = .ok false := by
  have hxsi : ¬(attr.ns.map (libertyHref rewritten) = some xsiHref ∧ attr.name = "type") :=
    hplain.ne_xsiType_snippet h
  unfold isOwnXsiType
  rw [if_neg]
  · rfl
  · simpa [XmlAttr.rewriteLiberty] using hxsi

end WritableClass.Plain

/-- The `xsi:type` of a subtype is skipped by the subtype. -/
theorem isOwnXsiType_xsiType (hname : ':' ∉ cls.typeNs.1.toList) {path : List Nat}
    (hscope : searchNs path cls.typeNs.1 = cls.data.ns) (h : attr ∈ cls.xsiType) :
    isOwnXsiType searchNs cls.data path (attr.rewriteLiberty rewritten) = .ok true := by
  unfold WritableClass.xsiType at h
  split at h
  · rename_i hsub
    obtain rfl := List.mem_singleton.mp h
    obtain ⟨href, hhref⟩ := Option.isSome_iff_exists.mp (cls.subtype_ns hsub)
    have hxsi : libertyHref rewritten xsiHref = xsiHref := libertyHref_eq_self (by decide)
    simp [isOwnXsiType, XmlAttr.rewriteLiberty, hxsi, splitQName_append hname, hscope, hhref, pure,
      Except.pure]
  · cases h

/-- The attributes of the element of an object are read by the attribute snippets. -/
theorem collectAttributes_shown (hplain : cls.Plain) {path : List Nat}
    (hscope : cls.data.xsiSubType = true → ':' ∉ cls.typeNs.1.toList ∧
      searchNs path cls.typeNs.1 = cls.data.ns) (ns : Option String) (name : String) :
    collectAttributes searchNs cls.toLassoNodeClass cls.data path
        (NodeObject.shown lassoDump rewritten ns name (.mk cls members)) =
      .ok ((snippetAttributes cls.nsDef (cls.written lassoDump (List.lookup · members))).flatMap
        fun attr => attributeStores cls.toLassoNodeClass
          (NodeObject.shown lassoDump rewritten ns name (.mk cls members))
          (attr.rewriteLiberty (cls.rewrites rewritten members))) := by
  have hown : ∀ attr ∈ cls.xsiType, isOwnXsiType searchNs cls.data path
      (attr.rewriteLiberty (cls.rewrites rewritten members)) = .ok true := by
    intro attr hattr
    have hsub : cls.data.xsiSubType = true := by
      by_contra hsub
      simp [WritableClass.xsiType, hsub] at hattr
    obtain ⟨hname, hns⟩ := hscope hsub
    exact isOwnXsiType_xsiType hname hns hattr
  unfold collectAttributes
  conv_lhs => rw [NodeObject.shown, XmlNode.attrs, hplain.foldl_setNsProp_xsiType]
  rw [Outcome.gather_eq_flatMap (g := fun attr =>
    (isOwnXsiType searchNs cls.data path attr).toOption.elim [] fun own =>
      if own then [] else attributeStores cls.toLassoNodeClass
        (NodeObject.shown lassoDump rewritten ns name (.mk cls members)) attr)]
  · rw [List.flatMap_map, List.flatMap_append, List.flatMap_eq_nil_iff.mpr, List.nil_append]
    · congr 1
      refine List.flatMap_congr fun attr hattr => ?_
      rw [hplain.isOwnXsiType_snippet _ _ hattr]
      rfl
    · intro attr hattr
      rw [hown attr hattr]
      rfl
  · intro attr' hattr'
    obtain ⟨attr, hattr, rfl⟩ := List.mem_map.mp hattr'
    rcases List.mem_append.mp hattr with hattr | hattr
    · rw [hown attr hattr]
      rfl
    · rw [hplain.isOwnXsiType_snippet _ _ hattr]
      rfl

/-- An attribute is kept by its snippet unless it is in a namespace that was rewritten. -/
theorem attributeStores_rewriteLiberty (hplain : cls.Plain) (hmem : snippet ∈ cls.snippets)
    (hkind : snippet.kind = .attribute) (hname : attr.name = snippet.name)
    (hns : attr.ns = none ∨ attr.ns = snippet.nsUri) {field : String}
    (hfield : snippet.field = some field) :
    attributeStores cls.toLassoNodeClass node (attr.rewriteLiberty rewritten) =
      if attr.ns.map (libertyHref rewritten) = attr.ns then [.content field attr.value] else [] := by
  have hname' : (attr.rewriteLiberty rewritten).name = snippet.name := hname
  rw [hplain.attributeStores_eq hmem hkind hname' hfield]
  rcases hattr : attr.ns with _ | href
  · simp [XmlAttr.rewriteLiberty, hattr]
  · obtain hns : snippet.nsUri = some href := by
      rcases hns with hns | hns
      · simp [hattr] at hns
      · rw [← hns, hattr]
    simp [XmlAttr.rewriteLiberty, hattr, hns]

/-- What the attributes write to the member of a snippet: the attribute of its name, unless it is in
a namespace that was rewritten. -/
theorem filterMap_contentOf_attributes (hplain : cls.Plain) {nsDef : List XmlNs} {field : String}
    {value : MemberValue NodeObject}
    (hmember : NodeObject.Member cls members snippet field value) :
    ((snippetAttributes nsDef (cls.written lassoDump (List.lookup · members))).flatMap fun attr =>
        attributeStores cls.toLassoNodeClass node (attr.rewriteLiberty rewritten)).filterMap
        (Store.contentOf field) =
      (snippetAttributes nsDef (cls.written lassoDump (List.lookup · members))).flatMap fun attr =>
        if attr.name = snippet.name ∧ attr.ns.map (libertyHref rewritten) = attr.ns then
          [attr.value]
        else [] := by
  obtain ⟨hmem, hfield, -⟩ := hmember
  rw [List.filterMap_flatMap]
  refine List.flatMap_congr fun attr hattr => ?_
  obtain ⟨other, field', value', ⟨hother, hfield', -⟩, hkind, hname, -, hns⟩ :=
    hplain.exists_of_mem_snippetAttributes hattr
  rw [attributeStores_rewriteLiberty hplain hother hkind hname hns hfield']
  by_cases heq : other = snippet
  · subst heq
    obtain rfl := Option.some.inj (hfield.symm.trans hfield')
    split_ifs <;> simp_all [Store.contentOf]
  · have hfields : field' ≠ field := by
      rintro rfl
      exact heq (hplain.eq_of_field hother hmem hfield' hfield)
    have hnames : attr.name ≠ snippet.name := fun h =>
      heq (hplain.eq_of_name hother hmem (hname.symm.trans h))
    split_ifs <;> simp_all [Store.contentOf]

/-- Attributes write no objects. -/
theorem filterMap_nodeOf_attributes (hplain : cls.Plain) {nsDef : List XmlNs} (field : String) :
    ((snippetAttributes nsDef (cls.written lassoDump (List.lookup · members))).flatMap fun attr =>
        attributeStores cls.toLassoNodeClass node (attr.rewriteLiberty rewritten)).filterMap
        (Store.nodeOf field) = [] := by
  rw [List.filterMap_flatMap, List.flatMap_eq_nil_iff]
  intro attr hattr
  obtain ⟨other, field', value', ⟨hother, hfield', -⟩, hkind, hname, -, hns⟩ :=
    hplain.exists_of_mem_snippetAttributes hattr
  rw [attributeStores_rewriteLiberty hplain hother hkind hname hns hfield']
  split_ifs <;> simp [Store.nodeOf]

/-! ### Which attribute is kept -/

/-- The declarations that the attributes of some snippets leave. -/
def declaredNs (nsDef : List XmlNs) (written : List (Snippet × MemberValue NodeObject)) :
    List XmlNs :=
  written.foldl (fun nsDef part =>
    match if part.1.kind = .attribute then part.1.text part.2 else none, part.1.nsName with
    | some _, some pre =>
      if declaresPrefix nsDef pre then nsDef else nsDef ++ [⟨pre, part.1.nsUri⟩]
    | _, _ => nsDef) nsDef

theorem snippetAttributes_append (nsDef : List XmlNs)
    (written written' : List (Snippet × MemberValue NodeObject)) :
    snippetAttributes nsDef (written ++ written') =
      snippetAttributes nsDef written ++ snippetAttributes (declaredNs nsDef written) written' := by
  induction written generalizing nsDef with
  | nil => rfl
  | cons part written ih =>
    rw [List.cons_append, snippetAttributes, snippetAttributes, declaredNs, List.foldl_cons,
      ← declaredNs]
    cases (if part.1.kind = .attribute then part.1.text part.2 else none) with
    | none => exact ih nsDef
    | some text =>
      cases part.1.nsName with
      | none => exact congrArg _ (ih nsDef)
      | some pre =>
        dsimp only
        split
        · exact congrArg _ (ih nsDef)
        · rw [ih, List.append_assoc]

theorem declaresPrefix_concat {nsDef : List XmlNs} {ns : XmlNs} {pre : String} :
    declaresPrefix (nsDef ++ [ns]) pre = true ↔
      declaresPrefix nsDef pre = true ∨ ns.pre = pre := by
  simp [declaresPrefix]

theorem declaresPrefix_declaredNs {nsDef : List XmlNs}
    {written : List (Snippet × MemberValue NodeObject)} {pre : String} :
    declaresPrefix (declaredNs nsDef written) pre = true ↔ declaresPrefix nsDef pre = true ∨
      ∃ part ∈ written, part.1.kind = .attribute ∧ (part.1.text part.2).isSome ∧
        part.1.nsName = some pre := by
  induction written generalizing nsDef with
  | nil => simp [declaredNs]
  | cons part written ih =>
    rw [declaredNs, List.foldl_cons, ← declaredNs, ih, List.exists_mem_cons_iff]
    by_cases hkind : part.1.kind = .attribute
    · cases htext : part.1.text part.2 with
      | none => simp [hkind]
      | some text =>
        cases hname : part.1.nsName with
        | none => simp [hkind]
        | some pre' =>
          simp only [hkind, if_true, Option.isSome_some, true_and, Option.some.injEq]
          split
          · rename_i hdeclared
            constructor
            · exact Or.imp_right .inr
            · rintro (h | rfl | h)
              · exact .inl h
              · exact .inl hdeclared
              · exact .inr h
          · rw [declaresPrefix_concat, or_assoc]
    · simp [hkind]

/-- What is written of a snippet. -/
def writtenPart (lassoDump : Bool) (members : List (String × MemberValue NodeObject))
    (snippet : Snippet) : Option (Snippet × MemberValue NodeObject) :=
  ((snippet.field.bind (List.lookup · members)).filter fun _ =>
    !snippet.passedOver lassoDump).map (snippet, ·)

theorem written_split (hplain : cls.Plain) {field : String} {value : MemberValue NodeObject}
    (hmember : NodeObject.Member cls members snippet field value)
    (hpassed : snippet.passedOver lassoDump = false) {before after : List Snippet}
    (hsnippets : cls.snippets = before ++ snippet :: after) :
    cls.written lassoDump (List.lookup · members) =
      before.filterMap (writtenPart lassoDump members) ++
        ([(snippet, value)] ++ after.filterMap (writtenPart lassoDump members)) := by
  have hown : writtenPart lassoDump members snippet = some (snippet, value) := by
    simp [writtenPart, hmember.2.1, hmember.2.2, hpassed]
  rw [hplain.written_eq, hsnippets, List.filterMap_append]
  change before.filterMap (writtenPart lassoDump members) ++
    (snippet :: after).filterMap (writtenPart lassoDump members) = _
  rw [List.filterMap_cons, hown]
  rfl

/-- The prefixes that are declared when a snippet is written, by the snippets before it. -/
theorem declaresPrefix_before {before after : List Snippet}
    (hsnippets : cls.snippets = before ++ snippet :: after) (hnot : snippet ∉ before)
    (pre : String) :
    declaresPrefix (declaredNs cls.nsDef (before.filterMap (writtenPart lassoDump members))) pre =
      cls.declares lassoDump members snippet pre := by
  have htake : cls.snippets.takeWhile (· ≠ snippet) = before := by
    rw [hsnippets, List.takeWhile_append_of_pos]
    · simp
    · intro other hother
      rw [decide_eq_true_eq]
      rintro rfl
      exact hnot hother
  rw [Bool.eq_iff_iff, declaresPrefix_declaredNs, WritableClass.declares, htake, Bool.or_eq_true,
    List.any_eq_true]
  refine or_congr_right ?_
  constructor
  · rintro ⟨found, hfound, hkind, htext, hname⟩
    obtain ⟨other, hmem, hfound⟩ := List.mem_filterMap.mp hfound
    obtain ⟨value', hvalue, rfl⟩ := Option.map_eq_some_iff.mp hfound
    obtain ⟨hvalue, hpassed'⟩ := Option.filter_eq_some_iff.mp hvalue
    exact ⟨other, hmem, by simp_all⟩
  · rintro ⟨other, hmem, h⟩
    simp only [Bool.and_eq_true, beq_iff_eq, Bool.not_eq_true'] at h
    obtain ⟨⟨⟨hkind, hpassed'⟩, hname⟩, htext⟩ := h
    obtain ⟨text, htext⟩ := Option.isSome_iff_exists.mp htext
    obtain ⟨value', hvalue, htext⟩ := Option.bind_eq_some_iff.mp htext
    refine ⟨(other, value'), List.mem_filterMap.mpr ⟨other, hmem, ?_⟩, hkind, ?_, hname⟩
    · simp [writtenPart, hvalue, hpassed']
    · simp [htext]

/-- No other snippet writes an attribute with the name of a snippet. -/
theorem not_mem_snippetAttributes_others (hplain : cls.Plain) (hmem : snippet ∈ cls.snippets)
    {attr : XmlAttr} (hname : attr.name = snippet.name) {nsDef : List XmlNs}
    {others : List Snippet} (hnot : snippet ∉ others)
    (hothers : ∀ other ∈ others, other ∈ cls.snippets) :
    attr ∉ snippetAttributes nsDef (others.filterMap (writtenPart lassoDump members)) := by
  intro hattr
  obtain ⟨found, hfound, -, hname', -⟩ := mem_snippetAttributes hattr
  obtain ⟨other, hother, hfound⟩ := List.mem_filterMap.mp hfound
  obtain ⟨value', -, rfl⟩ := Option.map_eq_some_iff.mp hfound
  have heq : other = snippet :=
    hplain.eq_of_name (hothers other hother) hmem (hname'.symm.trans hname)
  exact hnot (heq ▸ hother)

/-- The attributes of a snippet, behind those of the snippets before it. -/
theorem named_snippetAttributes (hplain : cls.Plain) {field : String}
    {value : MemberValue NodeObject} (hmember : NodeObject.Member cls members snippet field value)
    (hpassed : snippet.passedOver lassoDump = false) :
    ∃ nsDef, (∀ pre, declaresPrefix nsDef pre = cls.declares lassoDump members snippet pre) ∧
      ∀ attr : XmlAttr, attr.name = snippet.name →
        (attr ∈ snippetAttributes cls.nsDef (cls.written lassoDump (List.lookup · members)) ↔
          attr ∈ snippetAttributes nsDef [(snippet, value)]) := by
  obtain ⟨before, after, hsnippets⟩ := List.append_of_mem hmember.1
  have hnodup := hplain.nodup_snippets
  rw [hsnippets, List.nodup_append] at hnodup
  obtain ⟨-, hafter, hdisjoint⟩ := hnodup
  have hbefore : snippet ∉ before := fun h => hdisjoint snippet h snippet List.mem_cons_self rfl
  refine ⟨declaredNs cls.nsDef (before.filterMap (writtenPart lassoDump members)),
    declaresPrefix_before hsnippets hbefore, fun attr hname => ?_⟩
  have hleft : attr ∉ snippetAttributes cls.nsDef
      (before.filterMap (writtenPart lassoDump members)) :=
    not_mem_snippetAttributes_others hplain hmember.1 hname hbefore
      fun other h => hsnippets ▸ List.mem_append_left _ h
  have hright : ∀ nsDef, attr ∉ snippetAttributes nsDef
      (after.filterMap (writtenPart lassoDump members)) := fun nsDef =>
    not_mem_snippetAttributes_others hplain hmember.1 hname (List.nodup_cons.mp hafter).1
      fun other h => hsnippets ▸ List.mem_append_right _ (List.mem_cons_of_mem _ h)
  rw [written_split hplain hmember hpassed hsnippets, snippetAttributes_append,
    snippetAttributes_append, List.mem_append, List.mem_append]
  simp only [hleft, hright, false_or, or_false]

/-- The attribute of a snippet is read where the class keeps it. -/
theorem keepsAttribute_iff (hplain : cls.Plain) {field : String} {value : MemberValue NodeObject}
    (hmember : NodeObject.Member cls members snippet field value)
    (hkind : snippet.kind = .attribute) :
    (∃ attr ∈ snippetAttributes cls.nsDef (cls.written lassoDump (List.lookup · members)),
        attr.name = snippet.name ∧
          attr.ns.map (libertyHref (cls.rewrites rewritten members)) = attr.ns) ↔
      cls.keepsAttribute lassoDump rewritten members snippet value = true := by
  cases hpassed : snippet.passedOver lassoDump with
  | true =>
    have hnone : ∀ attr ∈ snippetAttributes cls.nsDef (cls.written lassoDump
        (List.lookup · members)), attr.name ≠ snippet.name := by
      intro attr hattr hname
      obtain ⟨⟨other, value'⟩, hpart, -, hname', -⟩ := mem_snippetAttributes hattr
      obtain ⟨hmem, -, hpassed'⟩ := hplain.mem_written.mp hpart
      obtain rfl := hplain.eq_of_name hmem hmember.1 (hname'.symm.trans hname)
      exact absurd hpassed' (by simp [hpassed])
    simp only [WritableClass.keepsAttribute, hpassed, Bool.not_true, Bool.false_and,
      Bool.false_eq_true, iff_false]
    rintro ⟨attr, hattr, hname, -⟩
    exact hnone attr hattr hname
  | false =>
    obtain ⟨nsDef, hdeclares, hown⟩ := named_snippetAttributes hplain hmember hpassed
    have hattrs : (∃ attr ∈ snippetAttributes cls.nsDef (cls.written lassoDump
          (List.lookup · members)), attr.name = snippet.name ∧
            attr.ns.map (libertyHref (cls.rewrites rewritten members)) = attr.ns) ↔
        ∃ attr ∈ snippetAttributes nsDef [(snippet, value)], attr.name = snippet.name ∧
          attr.ns.map (libertyHref (cls.rewrites rewritten members)) = attr.ns := by
      refine exists_congr fun attr => ?_
      constructor
      · rintro ⟨hattr, hname, hns⟩
        exact ⟨(hown attr hname).mp hattr, hname, hns⟩
      · rintro ⟨hattr, hname, hns⟩
        exact ⟨(hown attr hname).mpr hattr, hname, hns⟩
    rw [hattrs, WritableClass.keepsAttribute, snippetAttributes, if_pos hkind]
    cases snippet.text value with
    | none => simp [snippetAttributes]
    | some text =>
      cases snippet.nsName with
      | none => simp [snippetAttributes, hpassed]
      | some pre =>
        dsimp only
        rw [← hdeclares]
        cases hpre : declaresPrefix nsDef pre with
        | true => simp [snippetAttributes, hpassed]
        | false =>
          cases snippet.nsUri with
          | none => simp [snippetAttributes]
          | some uri => simp [snippetAttributes, hpassed]

end Attributes

end Lasso
