import Lasso.Xml.SnippetCursor

/-!
# Children that are refused, and lists of objects

When the loop over the children of an element ends in an error, and what it puts into the lists of
the object. It is used for tables in which the cursor jumps back, or runs off the table before the
children end.

## Main definitions

* `Rejects` — some children end in an error.
* `nodesIn` — the objects that the stores put into a list.

## Main results

* `ReadsResults.rejects` — children that are read do not make up for those that are not.
* `findSnippet_missing`, `rejects_pastEnd` — when an element ends the loop.
-/

namespace Lasso

variable {snippets : List Snippet} {any : Option Snippet} {parent : XmlNode} {snippet : Snippet}
  {cursor cursor' cursor'' : Nat} {child : ChildResult} {children more : List ChildResult}
  {stores stores' : List Store}

/-! ## Runs -/

/-- The children end in the error of an element that is not expected. -/
def Rejects (snippets : List Snippet) (any : Option Snippet) (parent : XmlNode) (cursor : Nat)
    (children : List ChildResult) : Prop :=
  initChildren snippets any parent cursor children = .ok (.error 1)

/-- Children that are read do not make up for those that are not. -/
theorem ReadsResults.rejects (h : ReadsResults snippets any parent cursor children stores cursor')
    (hmore : Rejects snippets any parent cursor' more) :
    Rejects snippets any parent cursor (children ++ more) := by
  rw [Rejects, h, hmore]
  rfl

theorem XmlNode.isElement_of_elementName {node : XmlNode} {name : String}
    (h : node.elementName = some name) : node.isElement = true := by
  cases node <;> simp [XmlNode.elementName, XmlNode.isElement] at h ⊢

theorem elementName_of_match {node : XmlNode} (hany : snippet.any = false)
    (h : nodeMatchSnippet parent node snippet = true) : node.elementName = some snippet.name := by
  rw [nodeMatchSnippet, hany, Bool.false_or, Bool.and_eq_true, beq_iff_eq] at h
  exact h.1

/-- A search sees of an element only which rows it matches. -/
theorem findSnippet_congr {parent' node node' : XmlNode} {fuel : Nat}
    (h : ∀ row ∈ snippets, nodeMatchSnippet parent node row = nodeMatchSnippet parent' node' row) :
    findSnippet snippets parent node fuel cursor =
      findSnippet snippets parent' node' fuel cursor := by
  induction fuel generalizing cursor with
  | zero => rfl
  | succ fuel ih =>
    rw [findSnippet, findSnippet]
    cases hrow : snippets[cursor]? with
    | none => rfl
    | some row =>
      dsimp only
      rw [h row (List.mem_of_getElem? hrow), ih]

/-! ## Elements that are not expected -/

/-- A search that meets no snippet for the element ends without one, wherever a miss jumps to. -/
theorem findSnippet_missing (hmiss : MissAhead snippets) {node : XmlNode} {fuel : Nat}
    (hfuel : snippets.length < fuel + cursor) (hpos : 0 < fuel)
    (hnone : ∀ j other, cursor ≤ j → snippets[j]? = some other → other.holdsNodes = true →
      nodeMatchSnippet parent node other = false) (hrest : AtRest snippets cursor) :
    findSnippet snippets parent node fuel cursor = .missing := by
  have hvisited : ∀ i other, cursor ≤ i ∧ AtRest snippets i → snippets[i]? = some other →
      nodeMatchSnippet parent node other = false ∧
        (cursor ≤ advance snippets i other other.jumpOnMiss ∧
          AtRest snippets (advance snippets i other other.jumpOnMiss)) := by
    rintro i other ⟨hle, hat⟩ hs
    have hadvance := lt_advance_of_miss hmiss hs
    exact ⟨hnone i other hle hs (hat other hs), by omega, atRest_nextNodeSnippet⟩
  exact findSnippet_missing_of_visited hmiss hvisited hfuel hpos ⟨Nat.le_refl _, hrest⟩

theorem rejects_unmatched (hmiss : MissAhead snippets) (hlive : cursor < snippets.length)
    (helement : child.node.isElement = true) (hrest : AtRest snippets cursor)
    (hnone : ∀ j other, cursor ≤ j → snippets[j]? = some other → other.holdsNodes = true →
      nodeMatchSnippet parent child.node other = false) :
    Rejects snippets any parent cursor (child :: more) := by
  rw [Rejects, initChildren_element hlive helement,
    findSnippet_missing hmiss (by omega) (by omega) hnone hrest]
  rfl

theorem initChildren_pastEnd (hend : snippets.length ≤ cursor) (children : List ChildResult) :
    initChildren snippets none parent cursor children = initLeftover none children := by
  cases children with
  | nil => rfl
  | cons child children => rw [initChildren, if_neg (by omega)]

/-- Past the end of the table an element is not expected, without a snippet for any node. -/
theorem rejects_pastEnd (hend : snippets.length ≤ cursor)
    (helement : ∃ child ∈ children, child.node.isElement = true) :
    Rejects snippets none parent cursor children := by
  have hany : children.any (·.node.isElement) = true := List.any_eq_true.mpr helement
  rw [Rejects, initChildren_pastEnd hend, initLeftover, if_pos hany]
  rfl

/-! ## Nodes that do not count -/

theorem initLeftover_filter_blank (children : List ChildResult) :
    initLeftover none (children.filter (!·.node.isBlank)) = initLeftover none children := by
  have hany : (children.filter (!·.node.isBlank)).any (·.node.isElement) =
      children.any (·.node.isElement) := by
    rw [List.any_filter]
    congr 1
    funext child
    cases child.node <;> rfl
  rw [initLeftover, initLeftover, hany]

/-- Texts, comments and processing instructions change nothing when no text is wanted. -/
theorem initChildren_filter_blank (children : List ChildResult) :
    initChildren snippets none parent cursor (children.filter (!·.node.isBlank)) =
      initChildren snippets none parent cursor children := by
  induction children generalizing cursor with
  | nil => rfl
  | cons child children ih =>
    by_cases hlive : cursor < snippets.length
    · rw [List.filter_cons]
      cases hblank : child.node.isBlank with
      | true =>
        have hread : ReadsResults snippets none parent cursor [child] [] cursor :=
          ReadsResults.blank hlive hblank
        have hskip := (hread children).trans (ReadsResults.nil children).symm
        exact ih.trans hskip.symm
      | false =>
        rw [if_pos (by simp)]
        cases hnode : child.node with
        | element ns name attrs nodes =>
          have helement : child.node.isElement = true := by rw [hnode]; rfl
          rw [initChildren_element hlive helement, initChildren_element hlive helement]
          simp only [ih]
        | cdata content =>
          rw [initChildren, initChildren, if_pos hlive, if_pos hlive, hnode]
        | _ => simp [hnode, XmlNode.isBlank] at hblank
    · rw [initChildren_pastEnd (by omega), initChildren_pastEnd (by omega),
        initLeftover_filter_blank]

/-! ## The object -/

variable {R : Registry} {searchNs : NsScope} {cls : LassoNodeClass} {data : NodeClassData}
  {place : PlacedNode} {path : List Nat} {node : XmlNode}

/-- The objects that the stores put into a list, in their order. -/
def nodesIn (field : String) (stores : List Store) : List ParsedNode :=
  stores.filterMap fun
    | .node field' object => if field' = field then object else none
    | _ => none

theorem nodesIn_append (field : String) (stores stores' : List Store) :
    nodesIn field (stores ++ stores') = nodesIn field stores ++ nodesIn field stores' :=
  List.filterMap_append ..

theorem nodesIn_node (field field' : String) (object : ParsedNode) (stores : List Store) :
    nodesIn field (.node field' (some object) :: stores) =
      (if field' = field then [object] else []) ++ nodesIn field stores := by
  rw [nodesIn, List.filterMap_cons]
  dsimp only
  split_ifs <;> rfl

theorem nodesIn_toList (field field' : String) (object : Option ParsedNode) :
    nodesIn field (object.toList.map (.node field' <| some ·)) =
      if field' = field then object.toList else [] := by
  cases object with
  | none => simp [nodesIn]
  | some object => rw [Option.toList_some, List.map_singleton, nodesIn_node]; simp [nodesIn]

/-- `xsi:type` can be compared with the class if that has a namespace. -/
theorem collectAttributes_returns (h : data.ns.isSome) :
    Outcome.Returns (collectAttributes searchNs cls data path node) := by
  refine returns_collectAttributes.mpr fun attr _ => returns_isOwnXsiType.mpr fun hns => ?_
  rw [hns] at h
  cases h

/-- No object is made of the attributes or of the text. -/
theorem nodesIn_attributes
    (h : collectAttributes searchNs cls data path node = .ok stores) (field : String) :
    nodesIn field (textChildStores cls node ++ stores) = [] := by
  rw [nodesIn, List.filterMap_eq_nil_iff]
  have hcontent : ∀ (field' : Option String) (value : String) (store : Store),
      field'.map (Store.content · value) = some store → ∃ member, store = .content member value :=
    fun field' value store hstore => by
      obtain ⟨member, -, rfl⟩ := Option.map_eq_some_iff.mp hstore
      exact ⟨member, rfl⟩
  intro store hstore
  rcases List.mem_append.mp hstore with htext | hattribute
  · obtain ⟨snippet, -, hsnippet⟩ := List.mem_filterMap.mp htext
    split_ifs at hsnippet
    obtain ⟨member, rfl⟩ := hcontent _ _ _ hsnippet
    rfl
  · obtain ⟨attr, -, part, hpart, hmem⟩ := (Outcome.mem_gather h).mp hattribute
    obtain ⟨own, -, hpart⟩ := Outcome.bind_eq_ok.mp hpart
    obtain rfl := Except.ok.inj hpart
    split_ifs at hmem
    · cases hmem
    · unfold attributeStores at hmem
      split at hmem
      · obtain rfl := List.mem_singleton.mp hmem
        rfl
      · obtain ⟨snippet, -, hsnippet⟩ := List.mem_filterMap.mp hmem
        obtain ⟨member, rfl⟩ := hcontent _ _ _ hsnippet
        rfl

end Lasso
