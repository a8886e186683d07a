import Lasso.Xml.Parse
import Mathlib.Data.List.Nodup

/-!
# Children in the order of the snippets

In a table without jumps, whose snippets have distinct names, only the snippet of its name can take
an element. Children that come in the order of the snippets are each taken by their own, or the
whole element is refused.

## Main results

* `findSnippet_own` — the search for the snippet of an element ends at the one of its name.
* `initChildren_ordered` — the loop over children in the order of the snippets.
-/

namespace Lasso

/-- Snippets with distinct names, and no flag that changes how the cursor moves. -/
structure PlainSnippets (snippets : List Snippet) : Prop where
  names : (snippets.map (·.name)).Nodup
  any : ∀ snippet ∈ snippets, snippet.any = false
  mandatory : ∀ snippet ∈ snippets, snippet.mandatory = false
  jumpOnMatch : ∀ snippet ∈ snippets, snippet.jumpOnMatch = false
  jumpOnMiss : ∀ snippet ∈ snippets, snippet.jumpOnMiss = false

variable {snippets : List Snippet} {parent node : XmlNode} {snippet other : Snippet}
  {cursor fuel i j : Nat}

/-! ## The search for one element -/

/-- The cursor does not pass over a snippet that holds nodes. -/
theorem nextNodeSnippet_le (hi : snippets[i]? = some snippet) (hholds : snippet.holdsNodes = true)
    (hle : cursor ≤ i) : nextNodeSnippet snippets cursor ≤ i := by
  obtain ⟨hlt, rfl⟩ := List.getElem?_eq_some_iff.mp hi
  by_contra hgt
  have hidx : i - cursor < (snippets.drop cursor).findIdx (·.holdsNodes) := by
    unfold nextNodeSnippet at hgt
    omega
  have hmiss := List.not_of_lt_findIdx hidx
  rw [List.getElem_drop] at hmiss
  simp [Nat.add_sub_cancel' hle, hholds] at hmiss

namespace PlainSnippets

theorem eq_of_name (hplain : PlainSnippets snippets) (hi : snippets[i]? = some snippet)
    (hj : snippets[j]? = some other) (hname : snippet.name = other.name) : i = j := by
  obtain ⟨hilt, rfl⟩ := List.getElem?_eq_some_iff.mp hi
  obtain ⟨hjlt, rfl⟩ := List.getElem?_eq_some_iff.mp hj
  have hi' : i < (snippets.map (·.name)).length := by simpa using hilt
  have hj' : j < (snippets.map (·.name)).length := by simpa using hjlt
  have heq : (snippets.map (·.name))[i] = (snippets.map (·.name))[j] := by simpa using hname
  exact hplain.names.getElem_inj_iff.mp heq

/-- An element is not taken by a snippet with another name. -/
theorem nodeMatchSnippet_eq_false (hplain : PlainSnippets snippets)
    (hnode : node.elementName = some snippet.name) (hi : snippets[i]? = some snippet)
    (hj : snippets[j]? = some other) (hne : i ≠ j) :
    nodeMatchSnippet parent node other = false := by
  have hname : snippet.name ≠ other.name := fun h => hne (hplain.eq_of_name hi hj h)
  simp [nodeMatchSnippet, hplain.any other (List.mem_of_getElem? hj), hnode, hname]

theorem advance_miss (hplain : PlainSnippets snippets) (hi : snippets[i]? = some snippet) :
    advance snippets i snippet snippet.jumpOnMiss = nextNodeSnippet snippets (i + 1) := by
  simp [advance, hplain.jumpOnMiss snippet (List.mem_of_getElem? hi)]

theorem missAhead (hplain : PlainSnippets snippets) : MissAhead snippets := by
  intro snippet hmem hjump
  rw [hplain.jumpOnMiss snippet hmem] at hjump
  cases hjump

/-- A search that meets no snippet for the element runs off the table. -/
theorem findSnippet_missing (hplain : PlainSnippets snippets)
    (hfuel : snippets.length < fuel + cursor) (hpos : 0 < fuel)
    (hnone : ∀ j other, cursor ≤ j → snippets[j]? = some other →
      nodeMatchSnippet parent node other = false) :
    findSnippet snippets parent node fuel cursor = .missing := by
  have hvisited : ∀ i other, cursor ≤ i → snippets[i]? = some other →
      nodeMatchSnippet parent node other = false ∧
        cursor ≤ advance snippets i other other.jumpOnMiss := by
    intro i other hle hs
    have hadvance := lt_advance_of_miss hplain.missAhead hs
    exact ⟨hnone i other hle hs, by omega⟩
  exact findSnippet_missing_of_visited hplain.missAhead hvisited hfuel hpos (Nat.le_refl _)

/-- The search for the snippet of an element with its name. -/
theorem findSnippet_own (hplain : PlainSnippets snippets)
    (hnode : node.elementName = some snippet.name) (hi : snippets[i]? = some snippet)
    (hholds : snippet.holdsNodes = true) (hle : cursor ≤ i)
    (hfuel : snippets.length < fuel + cursor) :
    findSnippet snippets parent node fuel cursor =
      if nodeMatchSnippet parent node snippet then
        .found snippet (if snippet.multiple then i else nextNodeSnippet snippets (i + 1))
      else .missing := by
  have hlt : i < snippets.length := (List.getElem?_eq_some_iff.mp hi).1
  induction fuel generalizing cursor with
  | zero => omega
  | succ fuel ih =>
    rw [findSnippet]
    rcases Nat.lt_or_eq_of_le hle with hlt' | rfl
    · obtain ⟨other, hs⟩ : ∃ other, snippets[cursor]? = some other :=
        ⟨_, List.getElem?_eq_getElem (by omega)⟩
      have hmiss : nodeMatchSnippet parent node other = false :=
        hplain.nodeMatchSnippet_eq_false hnode hi hs (by omega)
      have hadv : cursor + 1 ≤ nextNodeSnippet snippets (cursor + 1) := le_nextNodeSnippet
      rw [hs]
      dsimp only
      rw [if_neg (by simp [hmiss]),
        if_neg (by simp [hplain.mandatory other (List.mem_of_getElem? hs)]), hplain.advance_miss hs]
      apply ih
      · exact nextNodeSnippet_le hi hholds (by omega)
      · omega
    · have hmem : snippet ∈ snippets := List.mem_of_getElem? hi
      have hadv : cursor + 1 ≤ nextNodeSnippet snippets (cursor + 1) := le_nextNodeSnippet
      rw [hi]
      dsimp only
      by_cases hmatch : nodeMatchSnippet parent node snippet = true
      · rw [if_pos hmatch, if_pos hmatch, hplain.jumpOnMatch snippet hmem]
        cases snippet.multiple <;> rfl
      · rw [if_neg hmatch, if_neg hmatch, if_neg (by simp [hplain.mandatory snippet hmem]),
          hplain.advance_miss hi]
        apply hplain.findSnippet_missing
        · omega
        · omega
        · intro j other hj hs
          exact hplain.nodeMatchSnippet_eq_false hnode hi hs (by omega)

end PlainSnippets

/-! ## The loop over the children -/

/-- A child for `snippet` may stand before one for `other`. -/
def Snippet.Before (snippets : List Snippet) (snippet other : Snippet) : Prop :=
  (snippet = other ∧ snippet.multiple = true) ∨
    ∃ i j : Nat, i < j ∧ snippets[i]? = some snippet ∧ snippets[j]? = some other

/-- The child is an element with the name of the snippet. -/
structure IsNamedAfter (snippets : List Snippet) (snippet : Snippet) (child : ChildResult) :
    Prop where
  mem : snippet ∈ snippets
  holdsNodes : snippet.holdsNodes = true
  element : ∃ ns attrs children, child.node = .element ns snippet.name attrs children

theorem initChildren_element {any : Option Snippet} {child : ChildResult}
    {children : List ChildResult} (hlive : cursor < snippets.length)
    (helement : child.node.isElement = true) :
    initChildren snippets any parent cursor (child :: children) =
      match findSnippet snippets parent child.node (snippets.length + 1) cursor with
      | .found snippet cursor' => do
        let stores ← storeMatched snippet child
        let rest ← initChildren snippets any parent cursor' children
        return rest.map (stores ++ ·)
      | .missing => return .error 1
      | .endless => .error .endless := by
  rw [initChildren, if_pos hlive]
  cases hnode : child.node with
  | element ns name attrs nodes => rfl
  | _ => simp [hnode, XmlNode.isElement] at helement

/-- Children in the order of their snippets are taken if each matches its own, and then they write
what their snippets store. -/
theorem initChildren_ordered (hplain : PlainSnippets snippets) {any : Option Snippet}
    {pairs : List (Snippet × ChildResult)} {stores : List Store}
    (hnamed : ∀ pair ∈ pairs, IsNamedAfter snippets pair.1 pair.2)
    (horder : pairs.Pairwise fun pair pair' => pair.1.Before snippets pair'.1)
    (hrest : AtRest snippets cursor)
    (hcursor : ∀ pair ∈ pairs, ∀ i, snippets[i]? = some pair.1 → cursor ≤ i) :
    initChildren snippets any parent cursor (pairs.map (·.2)) = .ok (.ok stores) ↔
      (∀ pair ∈ pairs, nodeMatchSnippet parent pair.2.node pair.1 = true) ∧
        Outcome.gather (fun pair => storeMatched pair.1 pair.2) pairs = .ok stores := by
  induction pairs generalizing cursor stores with
  | nil =>
    simp only [List.map_nil, initChildren, Outcome.gather, List.not_mem_nil, false_implies,
      implies_true, true_and, pure, Except.pure, Except.ok.injEq]
  | cons pair pairs ih =>
    obtain ⟨snippet, child⟩ := pair
    obtain ⟨hbefore, horder⟩ := List.pairwise_cons.mp horder
    obtain ⟨⟨hmem, hholds, ns, attrs, nodes, hnode⟩, hnamed⟩ := List.forall_mem_cons.mp hnamed
    dsimp only at hmem hholds hnode
    obtain ⟨i, hilt, hi⟩ := List.mem_iff_getElem.mp hmem
    have hi : snippets[i]? = some snippet := by rw [List.getElem?_eq_getElem hilt, hi]
    have hle : cursor ≤ i := hcursor _ List.mem_cons_self i hi
    have hname : child.node.elementName = some snippet.name := by simp [hnode, XmlNode.elementName]
    rw [List.map_cons, initChildren_element (by omega) (by simp [hnode, XmlNode.isElement]),
      hplain.findSnippet_own hname hi hholds hle (by omega), List.forall_mem_cons]
    by_cases hmatch : nodeMatchSnippet parent child.node snippet = true
    · have hnext : AtRest snippets
          (if snippet.multiple then i else nextNodeSnippet snippets (i + 1)) := by
        split
        · intro other hother
          obtain rfl : snippet = other := Option.some.inj (hi.symm.trans hother)
          exact hholds
        · exact atRest_nextNodeSnippet
      have htail : ∀ pair ∈ pairs, ∀ j, snippets[j]? = some pair.1 →
          (if snippet.multiple then i else nextNodeSnippet snippets (i + 1)) ≤ j := by
        intro pair hpair j hj
        rcases hbefore pair hpair with ⟨heq, hmultiple⟩ | ⟨i', j', hlt, hi', hj'⟩
        · have heq : snippet = pair.1 := heq
          rw [if_pos hmultiple]
          exact Nat.le_of_eq (hplain.eq_of_name hi hj (by rw [heq]))
        · obtain rfl := hplain.eq_of_name hi hi' rfl
          obtain rfl := hplain.eq_of_name hj hj' rfl
          split
          · omega
          · exact nextNodeSnippet_le hj (hnamed pair hpair).holdsNodes (by omega)
      rw [if_pos hmatch, Outcome.gather]
      simp only [hmatch, true_and]
      constructor
      · intro h
        obtain ⟨part, hpart, h⟩ := Outcome.bind_eq_ok.mp h
        obtain ⟨result, hresult, h⟩ := Outcome.bind_eq_ok.mp h
        rcases result with rc | rest
        · cases h
        · obtain ⟨hall, hgather⟩ := (ih hnamed horder hnext htail).mp hresult
          refine ⟨hall, Outcome.bind_eq_ok.mpr ⟨part, hpart, Outcome.bind_eq_ok.mpr
            ⟨rest, hgather, ?_⟩⟩⟩
          exact congrArg _ (Except.ok.inj (Except.ok.inj h))
      · rintro ⟨hall, h⟩
        obtain ⟨part, hpart, h⟩ := Outcome.bind_eq_ok.mp h
        obtain ⟨rest, hgather, h⟩ := Outcome.bind_eq_ok.mp h
        obtain rfl := Except.ok.inj h
        exact Outcome.bind_eq_ok.mpr ⟨part, hpart, Outcome.bind_eq_ok.mpr
          ⟨.ok rest, (ih hnamed horder hnext htail).mpr ⟨hall, hgather⟩, rfl⟩⟩
    · rw [if_neg hmatch]
      simp [hmatch, pure, Except.pure]

end Lasso
