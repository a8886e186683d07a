import Mathlib.Data.List.Sort

/-!
# The first match in a sorted list

A search in a list that a stable sort has put in order finds the first one of the least elements with
the property.
-/

namespace StableSort

variable {α : Type*} {r : α → α → Prop} [DecidableRel r] {p : α → Bool}

theorem find?_orderedInsert_of_neg {a : α} (ha : p a = false) (s : List α) :
    (s.orderedInsert r a).find? p = s.find? p := by
  induction s with
  | nil => simp [ha]
  | cons b s ih =>
    by_cases hb : r a b
    · rw [List.orderedInsert_cons_of_le r s hb]
      simp [ha]
    · rw [List.orderedInsert_cons, if_neg hb]
      by_cases hp : p b = true
      · simp [hp]
      · simp [hp, ih]

/-- An element with the property is found, unless there is a smaller one. -/
theorem find?_orderedInsert_of_pos [IsTrans α r] {a : α} (ha : p a = true) {s : List α}
    (hs : s.Pairwise r) :
    (s.orderedInsert r a).find? p =
      (s.find? p).elim (some a) fun b => if r a b then some a else some b := by
  induction s with
  | nil => simp [ha]
  | cons b s ih =>
    obtain ⟨hleast, hrest⟩ := List.pairwise_cons.mp hs
    by_cases hb : r a b
    · rw [List.orderedInsert_cons_of_le r s hb, List.find?_cons_of_pos ha]
      cases hfind : (b :: s).find? p with
      | none => rfl
      | some c =>
        have hc : r a c := by
          rcases List.mem_cons.mp (List.mem_of_find?_eq_some hfind) with rfl | hmem
          · exact hb
          · exact IsTrans.trans a b c hb (hleast c hmem)
        simp [hc]
    · rw [List.orderedInsert_cons, if_neg hb]
      by_cases hp : p b = true
      · simp [hp, hb]
      · rw [List.find?_cons_of_neg hp, List.find?_cons_of_neg hp]
        exact ih hrest

theorem of_find?_and {q : α → Bool} {l : List α} {d : α}
    (h : l.find? (fun e => p e && q e) = some d) : d ∈ l ∧ p d = true := by
  have hd := List.find?_some h
  rw [Bool.and_eq_true] at hd
  exact ⟨List.mem_of_find?_eq_some h, hd.1⟩

variable [IsTrans α r] [Std.Total r]

/-- What is found is not greater than any other element with the property, and the first one of
those that are not greater than it. -/
theorem find?_insertionSort_eq_some_iff {l : List α} {d : α} :
    (l.insertionSort r).find? p = some d ↔
      (∀ e ∈ l, p e = true → r d e) ∧ l.find? (fun e => p e && decide (r e d)) = some d := by
  induction l generalizing d with
  | nil => simp
  | cons a l ih =>
    rw [List.insertionSort_cons]
    cases ha : p a with
    | false => simp [find?_orderedInsert_of_neg ha, ih, ha]
    | true =>
      rw [find?_orderedInsert_of_pos ha (List.pairwise_insertionSort r l)]
      have hrefl : r a a := (Std.Total.total a a).elim id id
      rw [List.forall_mem_cons, List.find?_cons]
      simp only [ha, Bool.true_and, forall_const]
      cases hfound : (l.insertionSort r).find? p with
      | none =>
        have hnone (e : α) (he : e ∈ l) : p e ≠ true :=
          List.find?_eq_none.mp hfound e ((List.mem_insertionSort r).mpr he)
        rw [Option.elim_none, Option.some.injEq]
        constructor
        · rintro rfl
          exact ⟨⟨hrefl, fun e he hp => absurd hp (hnone e he)⟩, by simp [hrefl]⟩
        · rintro ⟨-, hfirst⟩
          by_cases had : r a d
          · simpa [had] using hfirst
          · have hd : l.find? (fun e => p e && decide (r e d)) = some d := by
              simpa [had] using hfirst
            obtain ⟨hmem, hp⟩ := of_find?_and hd
            exact absurd hp (hnone d hmem)
      | some b =>
        obtain ⟨hleast, hfirst⟩ := ih.mp hfound
        have hb : p b = true := List.find?_some hfound
        have hmem : b ∈ l := (List.mem_insertionSort r).mp (List.mem_of_find?_eq_some hfound)
        by_cases hab : r a b
        · rw [Option.elim_some, if_pos hab, Option.some.injEq]
          constructor
          · rintro rfl
            refine ⟨⟨hrefl, fun e he hp => ?_⟩, by simp [hrefl]⟩
            exact IsTrans.trans a b e hab (hleast e he hp)
          · rintro ⟨-, hfirst⟩
            by_cases had : r a d
            · simpa [had] using hfirst
            · have hd : l.find? (fun e => p e && decide (r e d)) = some d := by
                simpa [had] using hfirst
              obtain ⟨hmem, hp⟩ := of_find?_and hd
              exact absurd (IsTrans.trans a b d hab (hleast d hmem hp)) had
        · rw [Option.elim_some, if_neg hab, Option.some.injEq]
          constructor
          · rintro rfl
            exact ⟨⟨(Std.Total.total a b).resolve_left hab, hleast⟩, by simpa [hab] using hfirst⟩
          · rintro ⟨⟨-, hleast'⟩, hfirst'⟩
            by_cases had : r a d
            · obtain rfl : a = d := by simpa [had] using hfirst'
              exact absurd (hleast' b hmem hb) hab
            · have hd : l.find? (fun e => p e && decide (r e d)) = some d := by
                simpa [had] using hfirst'
              exact Option.some.inj (hfound.symm.trans (ih.mpr ⟨hleast', hd⟩))

end StableSort
