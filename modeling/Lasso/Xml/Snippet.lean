import Lasso.Xml.Node

/-!
# The snippets of a node class

A class describes the content of its element by a table of snippets. Filling in an object moves a
cursor over the snippets of the class and its parents: an element is compared with the snippet at
the cursor, which moves on, back or ahead by what the snippet says.

The tables of a class and its parents are joined into one list. The end of a table leads to the
start of the next, and a jump stays inside its table, so a position in the joined list is as good as
a class with a snippet of its table.

## Main definitions

* `Snippet`, `SnippetTable` — `struct XmlSnippet`, and a table of them.
* `nextNodeSnippet` — where the cursor comes to rest.
* `findSnippet` — the loop that looks for the snippet of an element.

## Main results

* `findSnippet_ne_endless` — the loop ends, as a jump on a miss goes ahead.
* `findSnippet_found` — the snippet found matches the element and holds a node.
-/

namespace Lasso

/-- The low byte of `SnippetType`. -/
inductive SnippetKind where
  | node | content | textChild | attribute | nodeInChild | listNodes | listContent | extension
  | signature | listXmlNodes | xmlNode | collectNamespaces
deriving DecidableEq

/-- `struct XmlSnippet` with the flags of its `type`. `field` is the member that `offset` leads to,
`none` when there is no offset and the content is left to an `init_from_xml` of the class. -/
structure Snippet where
  name : String
  kind : SnippetKind
  field : Option String
  className : Option String := none
  nsName : Option String := none
  nsUri : Option String := none
  boolean : Bool := false
  integer : Bool := false
  lassoDump : Bool := false
  optional : Bool := false
  optionalNeg : Bool := false
  any : Bool := false
  allowText : Bool := false
  mandatory : Bool := false
  jumpOnMatch : Bool := false
  jumpOnMiss : Bool := false
  /-- `SNIPPET_JUMP_OFFSET` -/
  jumpOffset : Int := 0
deriving DecidableEq

namespace Snippet

/-- `next_node_snippet` stops at the snippet: it holds child nodes. -/
def holdsNodes (snippet : Snippet) : Bool :=
  (snippet.any && snippet.kind == .node) ||
    (!snippet.any && snippet.name != "" &&
      match snippet.kind with
      | .node | .nodeInChild | .listXmlNodes | .listContent | .listNodes | .extension | .xmlNode
      | .content | .signature => true
      | _ => false)

/-- `is_snippet_multiple` -/
def multiple (snippet : Snippet) : Bool :=
  match snippet.kind with
  | .listXmlNodes | .listContent | .listNodes | .extension => true
  | _ => false

/-- `SNIPPET_STRUCT_MEMBER_P`: where a snippet that needs a member stores. -/
def member (snippet : Snippet) : String := snippet.field.getD ""

end Snippet

/-- A table of snippets. A jump lands inside the table or at its end, and a jump on a miss goes
ahead. -/
structure SnippetTable where
  snippets : List Snippet
  jump_inside : ∀ i (h : i < snippets.length),
    (snippets[i].jumpOnMatch || snippets[i].jumpOnMiss) = true →
      0 ≤ i + snippets[i].jumpOffset ∧ i + snippets[i].jumpOffset ≤ snippets.length
  miss_ahead : ∀ snippet ∈ snippets, snippet.jumpOnMiss = true → 0 < snippet.jumpOffset

/-- `lasso_equal_namespace` -/
def equalNamespace (ns ns' : Option String) : Bool := ns.isSome && ns == ns'

/-- `node_match_snippet` -/
def nodeMatchSnippet (parent node : XmlNode) (snippet : Snippet) : Bool :=
  snippet.any ||
    (node.elementName == some snippet.name &&
      ((snippet.nsUri.isNone && equalNamespace parent.ns node.ns) ||
        (node.ns.isSome && node.ns == snippet.nsUri)))

/-- `next_node_snippet`: the first position from `cursor` on with a snippet for nodes, the length of
the list if the cursor runs off it. -/
def nextNodeSnippet (snippets : List Snippet) (cursor : Nat) : Nat :=
  cursor + (snippets.drop cursor).findIdx (·.holdsNodes)

/-- Move the cursor from a snippet, by its offset if it `jumps`. -/
def advance (snippets : List Snippet) (cursor : Nat) (snippet : Snippet) (jumps : Bool) : Nat :=
  nextNodeSnippet snippets
    (if jumps then (cursor + snippet.jumpOffset).toNat else cursor + 1)

/-- How the search for the snippet of an element ends. -/
inductive SnippetSearch where
  | found (snippet : Snippet) (cursor : Nat)
  | missing
  | endless
deriving DecidableEq

/-- The loop that compares the child `node` with the snippets from `cursor` on. -/
def findSnippet (snippets : List Snippet) (parent node : XmlNode) :
    (fuel : Nat) → (cursor : Nat) → SnippetSearch
  | 0, _ => .endless
  | fuel + 1, cursor =>
    match snippets[cursor]? with
    | none => .missing
    | some snippet =>
      if nodeMatchSnippet parent node snippet then
        .found snippet
          (if !snippet.multiple || snippet.jumpOnMatch then
            advance snippets cursor snippet snippet.jumpOnMatch
          else cursor)
      else if snippet.mandatory then .missing
      else findSnippet snippets parent node fuel
        (advance snippets cursor snippet snippet.jumpOnMiss)

/-! ## The cursor -/

variable {snippets : List Snippet} {parent node : XmlNode} {snippet : Snippet} {cursor : Nat}

theorem le_nextNodeSnippet : cursor ≤ nextNodeSnippet snippets cursor := Nat.le_add_right ..

/-- The cursor rests at the end of the list or at a snippet that holds nodes. -/
theorem holdsNodes_nextNodeSnippet
    (h : snippets[nextNodeSnippet snippets cursor]? = some snippet) :
    snippet.holdsNodes = true := by
  obtain ⟨hlt, rfl⟩ := List.getElem?_eq_some_iff.mp h
  have hidx : (snippets.drop cursor).findIdx (·.holdsNodes) < (snippets.drop cursor).length := by
    rw [List.length_drop]
    unfold nextNodeSnippet at hlt
    omega
  have := List.findIdx_getElem (w := hidx)
  rwa [List.getElem_drop] at this

/-- A cursor that `next_node_snippet` has placed. -/
def AtRest (snippets : List Snippet) (cursor : Nat) : Prop :=
  ∀ snippet, snippets[cursor]? = some snippet → snippet.holdsNodes = true

theorem atRest_nextNodeSnippet : AtRest snippets (nextNodeSnippet snippets cursor) :=
  fun _ => holdsNodes_nextNodeSnippet

/-! ## The search -/

/-- Every jump on a miss goes ahead. -/
def MissAhead (snippets : List Snippet) : Prop :=
  ∀ snippet ∈ snippets, snippet.jumpOnMiss = true → 0 < snippet.jumpOffset

theorem lt_advance_of_miss (hmiss : MissAhead snippets) (hs : snippets[cursor]? = some snippet) :
    cursor < advance snippets cursor snippet snippet.jumpOnMiss := by
  have hmem : snippet ∈ snippets := List.mem_of_getElem? hs
  refine Nat.lt_of_lt_of_le ?_ le_nextNodeSnippet
  split
  · have := hmiss snippet hmem ‹_›
    omega
  · omega

/-- A search ends without a snippet if no row it comes to matches the element. -/
theorem findSnippet_missing_of_visited (hmiss : MissAhead snippets) {visited : Nat → Prop}
    (hvisited : ∀ i other, visited i → snippets[i]? = some other →
      nodeMatchSnippet parent node other = false ∧
        visited (advance snippets i other other.jumpOnMiss))
    {fuel : Nat} (hfuel : snippets.length < fuel + cursor) (hpos : 0 < fuel)
    (hstart : visited cursor) : findSnippet snippets parent node fuel cursor = .missing := by
  induction fuel generalizing cursor with
  | zero => omega
  | succ fuel ih =>
    rw [findSnippet]
    cases hs : snippets[cursor]? with
    | none => rfl
    | some other =>
      have hlt : cursor < snippets.length := (List.getElem?_eq_some_iff.mp hs).1
      have hadvance := lt_advance_of_miss hmiss hs
      obtain ⟨hmatch, hnext⟩ := hvisited cursor other hstart hs
      dsimp only
      rw [if_neg (by simp [hmatch])]
      split_ifs
      · rfl
      · exact ih (by omega) (by omega) hnext

/-- A search with a step left for each snippet ahead of the cursor ends. -/
theorem findSnippet_ne_endless (hmiss : MissAhead snippets) {fuel : Nat}
    (hfuel : snippets.length < fuel + cursor) (hpos : 0 < fuel) :
    findSnippet snippets parent node fuel cursor ≠ .endless := by
  induction fuel generalizing cursor with
  | zero => omega
  | succ fuel ih =>
    rw [findSnippet]
    split
    · simp
    · rename_i snippet hs
      have hlt := (List.getElem?_eq_some_iff.mp hs).1
      split_ifs
      · simp
      · simp
      · simp
      · have hadv := lt_advance_of_miss hmiss hs
        apply ih <;> omega

/-- What a search that succeeds has found, and that the cursor is at rest again. -/
theorem findSnippet_found {fuel cursor' : Nat}
    (hrest : AtRest snippets cursor)
    (h : findSnippet snippets parent node fuel cursor = .found snippet cursor') :
    snippet ∈ snippets ∧ snippet.holdsNodes = true ∧ nodeMatchSnippet parent node snippet = true ∧
      AtRest snippets cursor' := by
  induction fuel generalizing cursor with
  | zero => simp [findSnippet] at h
  | succ fuel ih =>
    rw [findSnippet] at h
    split at h
    · simp at h
    · rename_i candidate hs
      split_ifs at h with hmatch hadvance hmandatory
      · obtain ⟨rfl, rfl⟩ := SnippetSearch.found.inj h
        exact ⟨List.mem_of_getElem? hs, hrest _ hs, hmatch, atRest_nextNodeSnippet⟩
      · obtain ⟨rfl, rfl⟩ := SnippetSearch.found.inj h
        exact ⟨List.mem_of_getElem? hs, hrest _ hs, hmatch, hrest⟩
      · exact ih atRest_nextNodeSnippet h

end Lasso
