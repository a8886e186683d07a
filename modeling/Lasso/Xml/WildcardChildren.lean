import Lasso.Xml.ChildRuns

/-!
# Wildcard content

A snippet for any node is none that the cursor comes to rest at. It gets the children that are left
when the cursor has run off the table, which it only does behind the last named snippet.

## Main definitions

* `WildcardClass` — a class with optional named snippets and one for any node.
* `RunsOff` — the children that take the cursor off the table.

## Main results

* `WildcardClass.collected_iff` — when the other children are collected.
-/

namespace Lasso

/-- A class with optional named rows, and a list for any other element. -/
structure WildcardClass where
  cls : LassoNodeClass
  data : NodeClassData
  tail : List NodeClassData
  chain_eq : cls.chain = data :: tail
  ns : data.ns.isSome
  any : Snippet
  any_eq : cls.snippetAny = some any
  any_kind : any.kind = .listNodes ∨ any.kind = .listXmlNodes
  plain : ∀ row ∈ cls.snippets, row.holdsNodes = true → row.any = false ∧ row.mandatory = false ∧
    row.jumpOnMatch = false ∧ row.jumpOnMiss = false
  names : ((cls.snippets.filter (·.holdsNodes)).map (·.name)).Nodup

/-- The rows for nodes from a position on. -/
def rowsFrom (snippets : List Snippet) (cursor : Nat) : List Snippet :=
  (snippets.drop cursor).filter (·.holdsNodes)

/-- The last row has an element, and leads on. -/
def RunsOff (rows matched : List Snippet) : Prop :=
  rows.getLast? = matched.getLast? ∧ ∀ row ∈ rows.getLast?, row.multiple = false

variable {snippets : List Snippet} {cursor i : Nat} {row : Snippet} {rows matched : List Snippet}

/-! ## The rows left -/

theorem rowsFrom_nextNodeSnippet :
    rowsFrom snippets (nextNodeSnippet snippets cursor) = rowsFrom snippets cursor := by
  have hskipped : ((snippets.drop cursor).take
      ((snippets.drop cursor).findIdx (·.holdsNodes))).filter (·.holdsNodes) = [] := by
    rw [List.filter_eq_nil_iff]
    intro row hrow hholds
    obtain ⟨i, hi, rfl⟩ := List.mem_iff_getElem.mp hrow
    have hidx : i < (snippets.drop cursor).findIdx (·.holdsNodes) := by
      rw [List.length_take] at hi
      omega
    rw [List.getElem_take] at hholds
    rw [List.not_of_lt_findIdx hidx] at hholds
    cases hholds
  have hsplit := List.take_append_drop ((snippets.drop cursor).findIdx (·.holdsNodes))
    (snippets.drop cursor)
  rw [rowsFrom, rowsFrom, nextNodeSnippet, ← List.drop_drop]
  conv_rhs => rw [← hsplit, List.filter_append, hskipped, List.nil_append]

theorem rowsFrom_eq_cons (hi : snippets[i]? = some row) (hholds : row.holdsNodes = true) :
    rowsFrom snippets i = row :: rowsFrom snippets (i + 1) := by
  obtain ⟨hlt, rfl⟩ := List.getElem?_eq_some_iff.mp hi
  rw [rowsFrom, rowsFrom, List.drop_eq_getElem_cons hlt, List.filter_cons, if_pos hholds]

/-- A cursor at rest is off the table when no row is left. -/
theorem rowsFrom_eq_nil (hrest : AtRest snippets cursor) :
    rowsFrom snippets cursor = [] ↔ snippets.length ≤ cursor := by
  constructor
  · intro hnil
    by_contra hlt
    have hs : snippets[cursor]? = some snippets[cursor] := List.getElem?_eq_getElem (by omega)
    rw [rowsFrom_eq_cons hs (hrest _ hs)] at hnil
    cases hnil
  · intro hle
    rw [rowsFrom, List.drop_eq_nil_of_le hle, List.filter_nil]

/-- A row that is left stands at a position ahead, with other rows before it and the rest behind. -/
theorem exists_of_rowsFrom {before after : List Snippet}
    (h : rowsFrom snippets cursor = before ++ row :: after) :
    ∃ i, cursor ≤ i ∧ snippets[i]? = some row ∧ rowsFrom snippets (i + 1) = after ∧
      ∀ j other, cursor ≤ j → j < i → snippets[j]? = some other → other.holdsNodes = true →
        other ∈ before := by
  obtain ⟨first, second, hdrop, hbefore, hsecond⟩ := List.filter_eq_append_iff.mp h
  obtain ⟨gap, last, rfl, hgap, -, hafter⟩ := List.filter_eq_cons_iff.mp hsecond
  rw [← List.append_assoc] at hdrop
  have hget : ∀ j, cursor ≤ j → snippets[j]? = (first ++ gap ++ row :: last)[j - cursor]? := by
    intro j hj
    rw [← hdrop, List.getElem?_drop, Nat.add_sub_cancel' hj]
  refine ⟨cursor + (first ++ gap).length, Nat.le_add_right .., ?_, ?_, ?_⟩
  · rw [hget _ (Nat.le_add_right ..), Nat.add_sub_cancel_left, List.getElem?_append_right
      (Nat.le_refl _), Nat.sub_self]
    rfl
  · have hsplit : first ++ gap ++ row :: last = (first ++ gap ++ [row]) ++ last := by simp
    have hlength : (first ++ gap ++ [row]).length = (first ++ gap).length + 1 :=
      List.length_append
    rw [rowsFrom, Nat.add_assoc, ← List.drop_drop, hdrop, hsplit, List.drop_left' hlength, hafter]
  · intro j other hj hlt hother hholds
    rw [hget j hj, List.getElem?_append_left (by omega)] at hother
    rcases List.mem_append.mp (List.mem_of_getElem? hother) with hmem | hmem
    · rw [← hbefore]
      exact List.mem_filter.mpr ⟨hmem, hholds⟩
    · exact absurd hholds (hgap other hmem)

theorem runsOff_nil : RunsOff rows [] ↔ rows = [] := by
  rw [RunsOff, List.getLast?_nil, List.getLast?_eq_none_iff]
  constructor
  · exact And.left
  · rintro rfl
    simp

/-- Behind an element for a row, the children that are left run off as before. -/
theorem runsOff_cons {before after : List Snippet}
    (hnodup : (before ++ row :: after).Nodup) (hmatched : matched.Sublist after) :
    RunsOff (before ++ row :: after) (row :: matched) ↔
      RunsOff (if row.multiple then row :: after else after) matched := by
  cases matched with
  | cons other matched =>
    -- neither the last row nor the last element changes
    have hafter : after ≠ [] := by
      rintro rfl
      cases hmatched
    have hlast : (before ++ row :: after).getLast? = after.getLast? := by
      rw [List.getLast?_append_cons, List.getLast?_cons_of_ne_nil hafter]
    have hlast' : (if row.multiple then row :: after else after).getLast? = after.getLast? := by
      split_ifs
      · exact List.getLast?_cons_of_ne_nil hafter
      · rfl
    rw [RunsOff, RunsOff, hlast, hlast', List.getLast?_cons_cons]
  | nil =>
    cases hmultiple : row.multiple with
    | true =>
      refine iff_of_false ?_ ?_
      · rintro ⟨hlast, hsingle⟩
        have hrow := hsingle row hlast
        rw [hmultiple] at hrow
        cases hrow
      · rintro ⟨hlast, -⟩
        cases after <;> simp at hlast
    | false =>
      cases after with
      | nil => simp [RunsOff, hmultiple]
      | cons other after =>
        refine iff_of_false ?_ ?_
        · rintro ⟨hlast, -⟩
          rw [List.getLast?_append_cons, List.getLast?_cons_cons] at hlast
          have hmem : row ∈ other :: after := List.mem_of_getLast? hlast
          exact (List.nodup_cons.mp hnodup.of_append_right).1 hmem
        · rintro ⟨hlast, -⟩
          simp at hlast

/-! ## Named children -/

namespace WildcardClass

variable (c : WildcardClass) {R : Registry} {searchNs : NsScope} {parent : XmlNode}
  {pairs : List (Snippet × PlacedNode)} {stored : Snippet × PlacedNode → List Store}

/-- The named rows. -/
def named : List Snippet := c.cls.snippets.filter (·.holdsNodes)

variable (R searchNs parent stored) in
/-- The element matches the row, and an object can be made of it where the row needs one. -/
structure Matches (pair : Snippet × PlacedNode) : Prop where
  matched : nodeMatchSnippet parent pair.2.node pair.1 = true
  stored : storeMatched pair.1 (pair.2.result R searchNs) = .ok (stored pair)

variable {c}

theorem nodup_rowsFrom (cursor : Nat) : ((rowsFrom c.cls.snippets cursor).map (·.name)).Nodup :=
  c.names.sublist (((List.drop_sublist cursor c.cls.snippets).filter _).map _)

theorem plain_of_mem {row : Snippet} {cursor : Nat} (h : row ∈ rowsFrom c.cls.snippets cursor) :
    row.holdsNodes = true ∧ row.any = false ∧ row.mandatory = false ∧
      row.jumpOnMatch = false ∧ row.jumpOnMiss = false := by
  obtain ⟨hdrop, hholds⟩ := List.mem_filter.mp h
  exact ⟨hholds, c.plain row (List.mem_of_mem_drop hdrop) hholds⟩

/-- An element for a row that is left takes the cursor to it, or behind it. -/
theorem reads_named {pair : Snippet × PlacedNode} {before after : List Snippet} {cursor : Nat}
    (hrest : AtRest c.cls.snippets cursor) (hmatches : Matches R searchNs parent stored pair)
    (hrows : rowsFrom c.cls.snippets cursor = before ++ pair.1 :: after) :
    ∃ cursor', AtRest c.cls.snippets cursor' ∧
      ReadsResults c.cls.snippets (some c.any) parent cursor [pair.2.result R searchNs]
        (stored pair) cursor' ∧
      rowsFrom c.cls.snippets cursor' =
        if pair.1.multiple then pair.1 :: after else after := by
  obtain ⟨row, child⟩ := pair
  obtain ⟨i, hle, hi, hafter, hpassed⟩ := exists_of_rowsFrom hrows
  have hmem : row ∈ rowsFrom c.cls.snippets cursor := by rw [hrows]; simp
  obtain ⟨hholds, hany, -, hjump, -⟩ := plain_of_mem hmem
  have hname := elementName_of_match hany hmatches.matched
  have hlive : cursor < c.cls.snippets.length := by
    have hlt := (List.getElem?_eq_some_iff.mp hi).1
    omega
  have hcursor : (if !row.multiple || row.jumpOnMatch then
      advance c.cls.snippets i row row.jumpOnMatch else i) =
        if row.multiple then i else nextNodeSnippet c.cls.snippets (i + 1) := by
    rw [hjump]
    cases row.multiple <;> simp [advance]
  have hfound := findSnippet_first hi hle hholds (fun j other hj hlt hother hreached => ?_)
    hmatches.matched (Nat.lt_of_lt_of_le (Nat.lt_succ_self _) (Nat.le_add_right _ cursor))
  · rw [hcursor] at hfound
    refine ⟨if row.multiple then i else nextNodeSnippet c.cls.snippets (i + 1), ?_,
      ReadsResults.element hlive (by simpa using XmlNode.isElement_of_elementName hname)
        (by simpa using hfound) hmatches.stored, ?_⟩
    · split_ifs
      · intro other hother
        obtain rfl := Option.some.inj (hi.symm.trans hother)
        exact hholds
      · exact atRest_nextNodeSnippet
    · split_ifs
      · rw [rowsFrom_eq_cons hi hholds, hafter]
      · rw [rowsFrom_nextNodeSnippet, hafter]
  · have hotherHolds : other.holdsNodes = true := by
      rcases hreached with rfl | hholds
      · exact hrest other hother
      · exact hholds
    have hbefore := hpassed j other hj hlt hother hotherHolds
    have hotherMem : other ∈ rowsFrom c.cls.snippets cursor := by
      rw [hrows]
      exact List.mem_append_left _ hbefore
    obtain ⟨-, hotherAny, hmandatory, -, hmiss⟩ := plain_of_mem hotherMem
    refine ⟨hotherAny, hmandatory, hmiss, fun heq => ?_⟩
    have hnames := nodup_rowsFrom (c := c) cursor
    rw [hrows, List.map_append, List.nodup_append] at hnames
    refine hnames.2.2 other.name (List.mem_map.mpr ⟨other, hbefore, rfl⟩) row.name (by simp) ?_
    exact Option.some.inj (heq.symm.trans hname)

/-- Elements for rows in their order leave the rows behind the last one. -/
theorem reads_pairs {cursor : Nat} (hrest : AtRest c.cls.snippets cursor)
    (hmatches : ∀ pair ∈ pairs, Matches R searchNs parent stored pair)
    (hrows : (pairs.map (·.1)).Sublist (rowsFrom c.cls.snippets cursor)) :
    ∃ cursor', AtRest c.cls.snippets cursor' ∧
      ReadsResults c.cls.snippets (some c.any) parent cursor
        (pairs.map fun pair => pair.2.result R searchNs) (pairs.flatMap stored) cursor' ∧
      (rowsFrom c.cls.snippets cursor').Sublist (rowsFrom c.cls.snippets cursor) ∧
      (rowsFrom c.cls.snippets cursor' = [] ↔
        RunsOff (rowsFrom c.cls.snippets cursor) (pairs.map (·.1))) := by
  induction pairs generalizing cursor with
  | nil =>
    exact ⟨cursor, hrest, ReadsResults.nil, List.Sublist.refl _, runsOff_nil.symm⟩
  | cons pair pairs ih =>
    obtain ⟨hpair, hpairs⟩ := List.forall_mem_cons.mp hmatches
    obtain ⟨before, after, hsplit, hsublist⟩ : ∃ before after,
        rowsFrom c.cls.snippets cursor = before ++ pair.1 :: after ∧
          (pairs.map (·.1)).Sublist after := by
      obtain ⟨first, second, hrows, hmem, hsublist⟩ := List.cons_sublist_iff.mp hrows
      obtain ⟨before, gap, rfl⟩ := List.append_of_mem hmem
      refine ⟨before, gap ++ second, by simp [hrows], ?_⟩
      exact hsublist.trans (List.sublist_append_right gap second)
    obtain ⟨cursor', hrest', hfirst, hleft⟩ := reads_named hrest hpair hsplit
    have hsublist' : (pairs.map (·.1)).Sublist (rowsFrom c.cls.snippets cursor') := by
      rw [hleft]
      split_ifs
      · exact hsublist.cons _
      · exact hsublist
    obtain ⟨last, hlast, hreads, hbehind, hoff⟩ := ih hrest' hpairs hsublist'
    have hnodup : (rowsFrom c.cls.snippets cursor).Nodup :=
      List.Nodup.of_map _ (nodup_rowsFrom cursor)
    rw [hsplit] at hnodup
    refine ⟨last, hlast, hfirst.append hreads, hbehind.trans ?_, ?_⟩
    · rw [hleft, hsplit]
      split_ifs
      · exact List.sublist_append_right before _
      · exact (List.sublist_cons_self _ _).trans (List.sublist_append_right before _)
    · rw [hoff, hleft, List.map_cons, hsplit, runsOff_cons hnodup hsublist]

theorem classList_ne_nil : c.cls.classList ≠ [] := by
  intro hnil
  have hany := c.any_eq
  rw [LassoNodeClass.classList, List.filterMap_reverse, List.reverse_eq_nil_iff] at hnil
  rw [LassoNodeClass.snippetAny, hnil] at hany
  cases hany

/-! ## The other children -/

variable (c) in
/-- What a child that is left adds to the list, given the object that is made of it. -/
def anyStore (object : PlacedNode → Option ParsedNode) (child : PlacedNode) : Store :=
  if c.any.kind = .listXmlNodes then .xmlNode c.any.member child.node
  else .node c.any.member ((object child).getD (miscTextNodeNewWithXmlNode child.node))

variable (c R searchNs parent) in
/-- The element is for no row, and making an object of it comes back. -/
structure Unnamed (object : PlacedNode → Option ParsedNode) (child : PlacedNode) : Prop where
  element : child.node.isElement = true
  unmatched : ∀ row ∈ c.named, nodeMatchSnippet parent child.node row = false
  object : newWithType R searchNs child c.any.className = .ok (object child)

variable {object : PlacedNode → Option ParsedNode} {others : List PlacedNode}

theorem initLeftover_unnamed
    (hothers : ∀ child ∈ others, c.Unnamed R searchNs parent object child) :
    initLeftover (some c.any) (others.map (·.result R searchNs)) =
      .ok (.ok (others.map (c.anyStore object))) := by
  rcases c.any_kind with hkind | hkind
  · have hstore : ∀ child ∈ others, storeLeftover c.any (child.result R searchNs) =
        .ok [c.anyStore object child] := by
      intro child hchild
      obtain ⟨helement, -, hobject⟩ := hothers child hchild
      have hobject' : (child.result R searchNs).withType c.any.className = .ok (object child) :=
        hobject
      have hkind' : c.any.kind ≠ .listXmlNodes := by
        rw [hkind]
        decide
      rw [anyStore, if_neg hkind']
      unfold storeLeftover
      rw [PlacedNode.result_node, hobject']
      cases hnode : child.node with
      | element ns name attrs nodes => rfl
      | _ => simp [hnode, XmlNode.isElement] at helement
    have hgather : Outcome.gather (storeLeftover c.any) (others.map (·.result R searchNs)) =
        .ok (others.map (c.anyStore object)) := by
      rw [Outcome.gather_map, Outcome.gather_eq_flatMap hstore, List.map_eq_flatMap]
    rw [initLeftover]
    simp only [hkind, hgather]
    rfl
  · rw [initLeftover]
    simp only [hkind, List.map_map]
    have hstores : others.map (c.anyStore object) =
        others.map ((fun child => Store.xmlNode c.any.member child.node) ∘
          (·.result R searchNs)) := by
      refine List.map_congr_left fun child _ => ?_
      rw [anyStore, if_pos hkind, Function.comp_apply, PlacedNode.result_node]
    rw [hstores]
    rfl

/-- The named children are in their fields and the others in the list exactly if there are no others
or the last named snippet has a child, and is not a list itself. -/
theorem collected_iff (c : WildcardClass) (R : Registry) (searchNs : NsScope) (place : PlacedNode)
    (pairs : List (Snippet × PlacedNode)) (others : List PlacedNode)
    (stored : Snippet × PlacedNode → List Store) (object : PlacedNode → Option ParsedNode)
    (attributes : List Store) (hname : c.cls.nameMismatch R place.node = false)
    (hattrs : collectAttributes searchNs c.cls c.data place.path place.node = .ok attributes)
    (hchildren : place.children = pairs.map (·.2) ++ others)
    (hrows : (pairs.map (·.1)).Sublist c.named)
    (hmatches : ∀ pair ∈ pairs, Matches R searchNs place.node stored pair)
    (hothers : ∀ child ∈ others, c.Unnamed R searchNs place.node object child) :
    implInit R searchNs c.cls place (place.children.map (·.result R searchNs)) =
        .ok (.ok (textChildStores c.cls place.node ++ attributes ++
          (pairs.flatMap stored ++ others.map (c.anyStore object)))) ↔
      others = [] ∨ RunsOff c.named (pairs.map (·.1)) := by
  have hnamed : rowsFrom c.cls.snippets (nextNodeSnippet c.cls.snippets 0) = c.named := by
    rw [rowsFrom_nextNodeSnippet]
    rfl
  rw [← hnamed] at hrows
  obtain ⟨cursor, hrest, hreads, hbehind, hoff⟩ := reads_pairs atRest_nextNodeSnippet hmatches hrows
  rw [hnamed] at hbehind hoff
  rw [implInit_of_children c.chain_eq classList_ne_nil hname hattrs, c.any_eq, hchildren,
    List.map_append, List.map_map]
  cases others with
  | nil =>
    refine iff_of_true ?_ (.inl rfl)
    rw [List.map_nil, List.append_nil, List.map_nil, List.append_nil]
    exact congrArg _ hreads.initChildren_eq
  | cons child others =>
    rw [or_iff_right (List.cons_ne_nil _ _), ← hoff, rowsFrom_eq_nil hrest]
    by_cases hend : c.cls.snippets.length ≤ cursor
    · refine iff_of_true ?_ hend
      have hleft : initChildren c.cls.snippets (some c.any) place.node cursor
          ((child :: others).map (·.result R searchNs)) =
            .ok (.ok ((child :: others).map (c.anyStore object))) := by
        rw [List.map_cons, initChildren, if_neg (by omega), ← List.map_cons]
        exact initLeftover_unnamed hothers
      have hall := (hreads ((child :: others).map (·.result R searchNs))).trans
        (congrArg _ hleft)
      exact congrArg _ hall
    · refine iff_of_false ?_ hend
      obtain ⟨hchild, -⟩ := List.forall_mem_cons.mp hothers
      have hrejects : Rejects c.cls.snippets (some c.any) place.node cursor
          ((child :: others).map (·.result R searchNs)) := by
        refine rejects_unmatched c.cls.missAhead_snippets (by omega)
          (by simpa using hchild.element) hrest fun j other _ hother hholds => ?_
        rw [PlacedNode.result_node]
        exact hchild.unmatched other
          (List.mem_filter.mpr ⟨List.mem_of_getElem? hother, hholds⟩)
      intro hcollected
      have hrejected := hreads.rejects hrejects
      cases (congrArg _ hrejected).symm.trans hcollected

end WildcardClass

/-! ## Endpoint references -/

def wsaHref : String := "http://www.w3.org/2005/08/addressing"

def endpointReferenceSnippets : SnippetTable where
  snippets := [
    { name := "Address", kind := .node, field := some "Address",
      className := some "LassoWsAddrAttributedURI" },
    { name := "ReferenceParameters", kind := .node, field := some "ReferenceParameters",
      className := some "LassoWsAddrReferenceParameters" },
    { name := "Metadata", kind := .node, field := some "Metadata",
      className := some "LassoWsAddrMetadata" },
    { name := "", kind := .listNodes, field := some "any", any := true },
    { name := "attributes", kind := .attribute, field := some "attributes", any := true }]
  jump_inside := by decide
  miss_ahead := by decide

def endpointReference : WildcardClass where
  cls := {
    name := "LassoWsAddrEndpointReference"
    chain := [{ nodeName := "EndpointReference", ns := some wsaHref,
                snippets := some endpointReferenceSnippets }]
    chain_base := by decide }
  data := { nodeName := "EndpointReference", ns := some wsaHref,
            snippets := some endpointReferenceSnippets }
  tail := []
  chain_eq := rfl
  ns := rfl
  any := { name := "", kind := .listNodes, field := some "any", any := true }
  any_eq := rfl
  any_kind := .inl rfl
  plain := by decide
  names := by decide

def metadataSnippets : SnippetTable where
  snippets := [
    { name := "", kind := .listNodes, field := some "any", any := true },
    { name := "attributes", kind := .attribute, field := some "attributes", any := true }]
  jump_inside := by decide
  miss_ahead := by decide

def metadataClass : LassoNodeClass where
  name := "LassoWsAddrMetadata"
  chain := [{ nodeName := "Metadata", ns := some wsaHref, snippets := some metadataSnippets }]
  chain_base := by decide

def endpointRegistry : Registry where
  types typename := [metadataClass].find? (·.name == typename)
  mapping _ _ := none
  wsfPrefix _ _ := none
  types_name _ _ h := by simpa using List.find?_some h

def metadataRow : Snippet :=
  { name := "Metadata", kind := .node, field := some "Metadata",
    className := some "LassoWsAddrMetadata" }

def metadataPlace : PlacedNode := ⟨[0], .element (some wsaHref) "Metadata" [] []⟩

/-- An element of another vocabulary, at a position. -/
def extensionPlace (i : Nat) : PlacedNode := ⟨[i], .element (some "urn:x") "Extension" [] []⟩

/-- An endpoint reference with these children. -/
def endpointPlace (children : List PlacedNode) : PlacedNode :=
  ⟨[], .element (some wsaHref) "EndpointReference" [] (children.map (·.node))⟩

theorem unnamed_extension (children : List PlacedNode) (i : Nat) :
    endpointReference.Unnamed endpointRegistry (fun _ _ => none) (endpointPlace children).node
      (fun _ => none) (extensionPlace i) where
  element := rfl
  unmatched := by
    have hrows : ∀ row ∈ endpointReference.named, nodeMatchSnippet (endpointPlace []).node
        (.element (some "urn:x") "Extension" [] []) row = false := by decide
    exact hrows
  object := rfl

/-- With metadata, an extension is collected. -/
theorem collected_metadata :
    implInit endpointRegistry (fun _ _ => none) endpointReference.cls
      (endpointPlace [metadataPlace, extensionPlace 1])
      ((endpointPlace [metadataPlace, extensionPlace 1]).children.map
        (·.result endpointRegistry fun _ _ => none)) =
      .ok (.ok [.node "Metadata" (some (.mk "LassoWsAddrMetadata" [])),
        .node "any" (miscTextNodeNewWithXmlNode (extensionPlace 1).node)]) := by
  refine (WildcardClass.collected_iff endpointReference endpointRegistry (fun _ _ => none)
    (endpointPlace [metadataPlace, extensionPlace 1]) [(metadataRow, metadataPlace)]
    [extensionPlace 1] (fun _ => [.node "Metadata" (some (.mk "LassoWsAddrMetadata" []))])
    (fun _ => none) [] (by decide) rfl rfl ?_ ?_ ?_).mpr (.inr ⟨rfl, ?_⟩)
  · decide
  · intro pair hpair
    obtain rfl := List.mem_singleton.mp hpair
    exact ⟨by decide, rfl⟩
  · intro child hchild
    obtain rfl := List.mem_singleton.mp hchild
    exact unnamed_extension _ _
  · intro row hrow
    cases hrow
    rfl

/-- Without it, the endpoint reference is refused. -/
theorem refused_withoutMetadata : ¬ ∀ (c : WildcardClass) (R : Registry) (searchNs : NsScope)
    (place : PlacedNode) (pairs : List (Snippet × PlacedNode)) (others : List PlacedNode)
    (stored : Snippet × PlacedNode → List Store) (object : PlacedNode → Option ParsedNode),
    c.cls.nameMismatch R place.node = false → place.children = pairs.map (·.2) ++ others →
    (pairs.map (·.1)).Sublist c.named →
    (∀ pair ∈ pairs, WildcardClass.Matches R searchNs place.node stored pair) →
    (∀ child ∈ others, c.Unnamed R searchNs place.node object child) →
    ∃ stores, implInit R searchNs c.cls place (place.children.map (·.result R searchNs)) =
      .ok (.ok stores) := by
  intro h
  obtain ⟨stores, hstores⟩ := h endpointReference endpointRegistry (fun _ _ => none)
    (endpointPlace [extensionPlace 0]) [] [extensionPlace 0] (fun _ => []) (fun _ => none)
    (by decide) rfl (List.nil_sublist _) (fun _ hpair => absurd hpair List.not_mem_nil)
    fun child hchild => by
      obtain rfl := List.mem_singleton.mp hchild
      exact unnamed_extension _ _
  cases hstores

end Lasso
