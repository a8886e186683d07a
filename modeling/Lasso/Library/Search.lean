import Mathlib.Data.Finset.Card
import Mathlib.Data.List.Basic

/-!
# Search loops with a return code

A loop that tries the items of a list in turn, keeps the return code of the last attempt and
stops at the first attempt that succeeds. The code returned for an empty list is whatever the
variable held before the loop, so success has two causes, and `firstSuccess_eq_ok` separates them.

A loop that overwrites a variable at every item that yields a value keeps the last one
(`lastSome`).

A loop that tries `a`, `next a`, `next (next a)`, … until one of them is free (`firstFree`).
-/

namespace Search

variable {α β ρ : Type*}

section FirstSuccess

variable [DecidableEq ρ]

/-- Try `f` on the items in order, starting from the return code `rc`, until it gives `ok`. -/
def firstSuccess (ok : ρ) (f : α → ρ) (rc : ρ) : List α → ρ
  | [] => rc
  | x :: xs => if f x = ok then ok else firstSuccess ok f (f x) xs

@[simp] theorem firstSuccess_nil (ok : ρ) (f : α → ρ) (rc : ρ) :
    firstSuccess ok f rc [] = rc := rfl

theorem firstSuccess_cons (ok : ρ) (f : α → ρ) (rc : ρ) (x : α) (xs : List α) :
    firstSuccess ok f rc (x :: xs) = if f x = ok then ok else firstSuccess ok f (f x) xs := rfl

theorem firstSuccess_of_ne_nil {ok : ρ} {f : α → ρ} {rc : ρ} {xs : List α} (h : xs ≠ []) :
    firstSuccess ok f rc xs = ok ↔ ∃ x ∈ xs, f x = ok := by
  induction xs generalizing rc with
  | nil => exact absurd rfl h
  | cons x xs ih =>
    by_cases hx : f x = ok
    · simp [firstSuccess_cons, hx]
    · cases xs with
      | nil => simp [firstSuccess_cons, hx]
      | cons y ys =>
        rw [firstSuccess_cons, if_neg hx, ih (by simp)]
        simp [hx]

/-- If every attempt fails with the same code, so does the loop. -/
theorem firstSuccess_of_forall {ok : ρ} {f : α → ρ} {rc code : ρ} {xs : List α} (h : xs ≠ [])
    (hcode : code ≠ ok) (hf : ∀ x ∈ xs, f x = code) : firstSuccess ok f rc xs = code := by
  induction xs generalizing rc with
  | nil => exact absurd rfl h
  | cons x xs ih =>
    have hx : f x = code := hf x List.mem_cons_self
    rw [firstSuccess_cons, hx, if_neg hcode]
    rcases eq_or_ne xs [] with rfl | hxs
    · rfl
    · exact ih hxs fun y hy => hf y (List.mem_cons_of_mem x hy)

/-- The loop ends with `ok` either because an item was accepted or because there was no item and
the code was `ok` already. -/
theorem firstSuccess_eq_ok {ok : ρ} {f : α → ρ} {rc : ρ} {xs : List α} :
    firstSuccess ok f rc xs = ok ↔ (xs = [] ∧ rc = ok) ∨ ∃ x ∈ xs, f x = ok := by
  rcases eq_or_ne xs [] with rfl | h
  · simp
  · simp [firstSuccess_of_ne_nil h, h]

end FirstSuccess

/-- The last value that `f` yields on the items, `acc` if there is none. -/
def lastSome (f : α → Option β) (acc : Option β) (xs : List α) : Option β :=
  xs.foldl (fun acc x => (f x).or acc) acc

@[simp] theorem lastSome_nil (f : α → Option β) (acc : Option β) : lastSome f acc [] = acc := rfl

@[simp] theorem lastSome_cons (f : α → Option β) (acc : Option β) (x : α) (xs : List α) :
    lastSome f acc (x :: xs) = lastSome f ((f x).or acc) xs := rfl

theorem lastSome_append (f : α → Option β) (acc : Option β) (xs ys : List α) :
    lastSome f acc (xs ++ ys) = lastSome f (lastSome f acc xs) ys := by
  simp [lastSome]

/-- The start value only shows when no item yields a value. -/
theorem lastSome_eq_or (f : α → Option β) (acc : Option β) (xs : List α) :
    lastSome f acc xs = (lastSome f none xs).or acc := by
  induction xs generalizing acc with
  | nil => simp
  | cons x xs ih =>
    rw [lastSome_cons, lastSome_cons, ih, ih ((f x).or none), Option.or_none, Option.or_assoc]

theorem lastSome_eq_none {f : α → Option β} {xs : List α} :
    lastSome f none xs = none ↔ ∀ x ∈ xs, f x = none := by
  induction xs with
  | nil => simp
  | cons x xs ih =>
    rw [lastSome_cons, lastSome_eq_or, Option.or_eq_none_iff, Option.or_none, ih,
      List.forall_mem_cons, and_comm]

/-- The last item with a property is the first one from behind. -/
theorem lastSome_eq_find? (p : α → Bool) (xs : List α) :
    lastSome (fun x => if p x then some x else none) none xs = xs.reverse.find? p := by
  induction xs with
  | nil => rfl
  | cons x xs ih =>
    rw [lastSome_cons, lastSome_eq_or, ih, List.reverse_cons, List.find?_append, List.find?_cons]
    cases p x <;> rfl

/-- The value that the last item with one yields. -/
theorem lastSome_eq_getLast? (f : α → Option β) (xs : List α) :
    lastSome f none xs = (xs.filterMap f).getLast? := by
  induction xs with
  | nil => rfl
  | cons x xs ih =>
    rw [lastSome_cons, lastSome_eq_or, ih, List.filterMap_cons, Option.or_none]
    cases f x with
    | none => simp
    | some b => cases hlast : (xs.filterMap f).getLast? <;> simp [List.getLast?_cons, hlast]

/-- The item the last value comes from, and the items after it. -/
theorem lastSome_eq_some {f : α → Option β} {xs : List α} {v : β}
    (h : lastSome f none xs = some v) :
    ∃ before x after, xs = before ++ x :: after ∧ f x = some v ∧ ∀ y ∈ after, f y = none := by
  induction xs with
  | nil => simp at h
  | cons x xs ih =>
    rw [lastSome_cons, lastSome_eq_or] at h
    cases hlast : lastSome f none xs with
    | some w =>
      obtain rfl : w = v := by simpa [hlast] using h
      obtain ⟨before, y, after, rfl, hy, hafter⟩ := ih hlast
      exact ⟨x :: before, y, after, rfl, hy, hafter⟩
    | none =>
      have hx : f x = some v := by simpa [hlast] using h
      refine ⟨[], x, xs, rfl, hx, ?_⟩
      clear ih h hx
      induction xs with
      | nil => simp
      | cons z zs ih =>
        rw [lastSome_cons, lastSome_eq_or] at hlast
        obtain ⟨hzs, hz⟩ := Option.or_eq_none_iff.mp hlast
        intro y hy
        rcases List.mem_cons.mp hy with rfl | hy
        · simpa using hz
        · exact ih hzs y hy

/-- A value that some item yields and that is the only one yielded is the last one. -/
theorem lastSome_eq_of_unique {f : α → Option β} {xs : List α} {v : β}
    (hsome : ∃ x ∈ xs, f x = some v) (hunique : ∀ x ∈ xs, ∀ w, f x = some w → w = v) :
    lastSome f none xs = some v := by
  cases hlast : lastSome f none xs with
  | none =>
    obtain ⟨x, hmem, hx⟩ := hsome
    rw [lastSome_eq_none] at hlast
    simp [hlast x hmem] at hx
  | some w =>
    obtain ⟨before, x, after, rfl, hx, -⟩ := lastSome_eq_some hlast
    rw [hunique x (by simp) w hx]

section FirstFree

variable {next : α → α} {taken : α → Bool} {fuel : Nat} {a x : α}

/-- The first free one of the `fuel` items from `a` on. -/
def firstFree (next : α → α) (taken : α → Bool) : Nat → α → Option α
  | 0, _ => none
  | fuel + 1, a => if taken a then firstFree next taken fuel (next a) else some a

theorem firstFree_free (h : firstFree next taken fuel a = some x) : taken x = false := by
  induction fuel generalizing a with
  | zero => cases h
  | succ fuel ih =>
    rw [firstFree] at h
    split_ifs at h with htaken
    · exact ih h
    · cases h
      exact Bool.eq_false_of_not_eq_true htaken

theorem firstFree_eq_none (h : firstFree next taken fuel a = none) {n : Nat} (hn : n < fuel) :
    taken (next^[n] a) = true := by
  induction fuel generalizing a n with
  | zero => omega
  | succ fuel ih =>
    rw [firstFree] at h
    split_ifs at h with htaken
    cases n with
    | zero => exact htaken
    | succ n =>
      rw [Function.iterate_succ_apply]
      exact ih h (by omega)

/-- The search ends if there are more items, under distinct names, than names in use. -/
theorem firstFree_isSome {β : Type*} [DecidableEq β] {name : α → β} {used : List β}
    (hdistinct : Set.InjOn (fun n => name (next^[n] a)) {n | n < fuel})
    (htaken : ∀ x, taken x = true → name x ∈ used) (hused : used.length < fuel) :
    (firstFree next taken fuel a).isSome := by
  rw [Option.isSome_iff_ne_none]
  intro hnone
  have hsubset : (Finset.range fuel).image (fun n => name (next^[n] a)) ⊆ used.toFinset := by
    intro b hb
    obtain ⟨n, hn, rfl⟩ := Finset.mem_image.mp hb
    exact List.mem_toFinset.mpr (htaken _ (firstFree_eq_none hnone (Finset.mem_range.mp hn)))
  have hcard := Finset.card_le_card hsubset
  rw [Finset.card_image_of_injOn (by simpa [Set.InjOn] using hdistinct), Finset.card_range] at hcard
  have := used.toFinset_card_le
  omega

end FirstFree

end Search
