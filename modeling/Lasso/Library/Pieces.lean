import Mathlib.Data.List.Basic

/-!
# Lists cut at separators

`pieces` cuts a list at the items that a predicate takes for separators and keeps with every piece
the separator before it. The pieces alone are those of `List.splitOnP`, and pieces without a
separator come back when they are put together and cut again.
-/

namespace Pieces

variable {α : Type*}

/-- The items before the first separator, and each separator with the items up to the next. -/
def pieces (p : α → Bool) : List α → List α × List (α × List α)
  | [] => ([], [])
  | x :: xs =>
    if p x then ([], (x, (pieces p xs).1) :: (pieces p xs).2)
    else (x :: (pieces p xs).1, (pieces p xs).2)

@[simp] theorem pieces_nil (p : α → Bool) : pieces p [] = ([], []) := rfl

theorem pieces_cons_of_pos {p : α → Bool} {x : α} (h : p x = true) (xs : List α) :
    pieces p (x :: xs) = ([], (x, (pieces p xs).1) :: (pieces p xs).2) := by simp [pieces, h]

theorem pieces_cons_of_neg {p : α → Bool} {x : α} (h : p x = false) (xs : List α) :
    pieces p (x :: xs) = (x :: (pieces p xs).1, (pieces p xs).2) := by simp [pieces, h]

theorem pieces_fst (p : α → Bool) (xs : List α) : (pieces p xs).1 = xs.takeWhile (!p ·) := by
  fun_induction pieces p xs <;> simp_all

theorem splitOnP_eq_pieces (p : α → Bool) (xs : List α) :
    xs.splitOnP p = (pieces p xs).1 :: (pieces p xs).2.map (·.2) := by
  fun_induction pieces p xs with
  | case1 => rfl
  | case2 x xs hx ih => simp [List.splitOnP_cons_eq_if_modifyHead, hx, ih]
  | case3 x xs hx ih => simp [List.splitOnP_cons_eq_if_modifyHead, hx, ih]

theorem separator_of_mem {p : α → Bool} {xs : List α} {piece : α × List α}
    (h : piece ∈ (pieces p xs).2) : p piece.1 = true := by
  fun_induction pieces p xs with
  | case1 => simp at h
  | case2 x xs hx ih =>
    rcases List.mem_cons.mp h with rfl | hmem
    · exact hx
    · exact ih hmem
  | case3 x xs hx ih => exact ih h

/-- There is no separator in a piece. -/
theorem not_of_mem_splitOnP {p : α → Bool} {xs part : List α} (h : part ∈ xs.splitOnP p) :
    ∀ x ∈ part, p x = false := by
  induction xs generalizing part with
  | nil =>
    obtain rfl : part = [] := by simpa using h
    simp
  | cons x xs ih =>
    rw [List.splitOnP_cons_eq_if_modifyHead] at h
    split at h
    · rcases List.mem_cons.mp h with rfl | hmem
      · simp
      · exact ih hmem
    · rename_i hx
      obtain ⟨first, rest, hsplit⟩ := List.exists_cons_of_ne_nil (List.splitOnP_ne_nil p xs)
      rw [hsplit] at h ih
      rcases List.mem_cons.mp h with rfl | hmem
      · exact List.forall_mem_cons.mpr ⟨by simpa using hx, ih List.mem_cons_self⟩
      · exact ih (List.mem_cons_of_mem _ hmem)

/-- A piece stands in the list as it is. -/
theorem infix_of_mem_splitOnP {p : α → Bool} {xs part : List α} (h : part ∈ xs.splitOnP p) :
    part <:+: xs := by
  have hpieces : (pieces p xs).1 <+: xs ∧ ∀ piece ∈ (pieces p xs).2, piece.2 <:+: xs := by
    clear h
    fun_induction pieces p xs with
    | case1 => simp
    | case2 x xs hx ih =>
      obtain ⟨hfirst, hrest⟩ := ih
      refine ⟨List.nil_prefix, ?_⟩
      intro piece hpiece
      rcases List.mem_cons.mp hpiece with rfl | hpiece
      · exact hfirst.isInfix.trans (List.suffix_cons x xs).isInfix
      · exact (hrest piece hpiece).trans (List.suffix_cons x xs).isInfix
    | case3 x xs hx ih =>
      obtain ⟨hfirst, hrest⟩ := ih
      refine ⟨List.cons_prefix_cons.mpr ⟨rfl, hfirst⟩, ?_⟩
      intro piece hpiece
      exact (hrest piece hpiece).trans (List.suffix_cons x xs).isInfix
  obtain ⟨hfirst, hrest⟩ := hpieces
  rw [splitOnP_eq_pieces] at h
  rcases List.mem_cons.mp h with rfl | h
  · exact hfirst.isInfix
  · obtain ⟨piece, hpiece, rfl⟩ := List.mem_map.mp h
    exact hrest piece hpiece

/-- What is no separator stands in a piece. -/
theorem exists_mem_splitOnP {p : α → Bool} {x : α} (hx : p x = false) {xs : List α} (h : x ∈ xs) :
    ∃ part ∈ xs.splitOnP p, x ∈ part := by
  rw [splitOnP_eq_pieces]
  fun_induction pieces p xs with
  | case1 => cases h
  | case2 y ys hy ih =>
    have hne : x ≠ y := by
      rintro rfl
      simp [hx] at hy
    obtain ⟨part, hpart, hmem⟩ := ih (List.mem_of_ne_of_mem hne h)
    exact ⟨part, List.mem_cons_of_mem _ (by simpa using hpart), hmem⟩
  | case3 y ys hy ih =>
    rcases List.mem_cons.mp h with rfl | h
    · exact ⟨_, List.mem_cons_self, List.mem_cons_self⟩
    · obtain ⟨part, hpart, hmem⟩ := ih h
      rcases List.mem_cons.mp hpart with rfl | hpart
      · exact ⟨_, List.mem_cons_self, List.mem_cons_of_mem _ hmem⟩
      · exact ⟨part, List.mem_cons_of_mem _ hpart, hmem⟩
/-- A list without separators is a prefix just if it is one of the first piece. -/
theorem isPrefixOf_first [BEq α] [LawfulBEq α] {p : α → Bool} {name : List α}
    (h : ∀ x ∈ name, p x = false) (xs : List α) :
    name.isPrefixOf (pieces p xs).1 = name.isPrefixOf xs := by
  induction name generalizing xs with
  | nil => simp
  | cons y name ih =>
    cases xs with
    | nil => simp
    | cons x xs =>
      cases hx : p x with
      | true =>
        have hne : y ≠ x := by
          rintro rfl
          simp [hx] at h
        simp [pieces_cons_of_pos hx, List.isPrefixOf_cons_cons, hne]
      | false =>
        rw [pieces_cons_of_neg hx, List.isPrefixOf_cons_cons, List.isPrefixOf_cons_cons,
          ih fun z hz => h z (List.mem_cons_of_mem y hz)]

/-- Behind a prefix without separators the first piece goes on. -/
theorem takeWhile_drop {p : α → Bool} {name : List α} (h : ∀ x ∈ name, p x = false)
    {xs : List α} (hstarts : name <+: xs) :
    (xs.drop name.length).takeWhile (!p ·) = (pieces p xs).1.drop name.length := by
  obtain ⟨rest, rfl⟩ := hstarts
  have hname : ∀ x ∈ name, (!p x) = true := by
    intro x hx
    simp [h x hx]
  rw [pieces_fst, List.takeWhile_append_of_pos hname, List.drop_left, List.drop_left]

/-- Pieces that were put together with a separator between them come apart again. -/
theorem splitOnP_intercalate {p : α → Bool} {sep : α} (hsep : p sep = true)
    {parts : List (List α)} (h : ∀ part ∈ parts, ∀ x ∈ part, p x = false) (hne : parts ≠ []) :
    ([sep].intercalate parts).splitOnP p = parts := by
  induction parts with
  | nil => contradiction
  | cons part parts ih =>
    obtain ⟨hpart, hrest⟩ := List.forall_mem_cons.mp h
    cases parts with
    | nil => rw [List.intercalate_singleton, List.splitOnP_eq_singleton hpart]
    | cons next parts =>
      rw [List.intercalate_cons_cons, List.append_assoc, List.singleton_append,
        List.splitOnP_append_cons_of_forall_mem hpart sep hsep, ih hrest (by simp)]

end Pieces
