import Mathlib.Data.List.Basic

/-!
# Lists that grow by new items only

`insertNew` appends an item unless the list holds a related one, `insertAll` does so for one item
after the other. The relation need not be an equivalence: an item that is not related to itself is
appended every time.
-/

namespace Distinct

variable {α : Type*} {r : α → α → Bool} {l xs ys : List α} {x : α}

def insertNew (r : α → α → Bool) (l : List α) (x : α) : List α :=
  if l.any (r · x) then l else l ++ [x]

def insertAll (r : α → α → Bool) (l xs : List α) : List α := xs.foldl (insertNew r) l

/-- No item is related to a later one. -/
def Unrelated (r : α → α → Bool) (l : List α) : Prop := l.Pairwise fun x y => r x y = false

@[simp] theorem insertAll_nil : insertAll r l [] = l := rfl

@[simp] theorem insertAll_cons : insertAll r l (x :: xs) = insertAll r (insertNew r l x) xs := rfl

theorem insertAll_append : insertAll r l (xs ++ ys) = insertAll r (insertAll r l xs) ys :=
  List.foldl_append

theorem insertNew_of_related (h : l.any (r · x) = true) : insertNew r l x = l := if_pos h

theorem insertNew_of_unrelated (h : ∀ y ∈ l, r y x = false) : insertNew r l x = l ++ [x] := by
  have hany : l.any (r · x) = false := List.any_eq_false.mpr fun y hy => by simp [h y hy]
  simp [insertNew, hany]

theorem prefix_insertNew : l <+: insertNew r l x := by
  unfold insertNew
  split_ifs
  · exact List.prefix_rfl
  · exact List.prefix_append l [x]

theorem prefix_insertAll : l <+: insertAll r l xs := by
  induction xs generalizing l with
  | nil => exact List.prefix_rfl
  | cons x xs ih => exact prefix_insertNew.trans ih

theorem Unrelated.insertNew (h : Unrelated r l) : Unrelated r (insertNew r l x) := by
  unfold Distinct.insertNew
  split_ifs with hany
  · exact h
  · refine List.pairwise_append.mpr ⟨h, List.pairwise_singleton _ x, ?_⟩
    intro y hy z hz
    obtain rfl := List.mem_singleton.mp hz
    simpa using List.any_eq_false.mp (Bool.not_eq_true _ ▸ hany) y hy

theorem Unrelated.insertAll (h : Unrelated r l) : Unrelated r (insertAll r l xs) := by
  induction xs generalizing l with
  | nil => exact h
  | cons x xs ih => exact ih h.insertNew

/-- After an item was added the list holds it or a related one. -/
theorem covered_insertAll (hx : x ∈ xs) :
    x ∈ insertAll r l xs ∨ ∃ y ∈ insertAll r l xs, r y x = true := by
  induction xs generalizing l with
  | nil => cases hx
  | cons z zs ih =>
    rcases List.mem_cons.mp hx with rfl | hx
    · have hkept :
          Distinct.insertNew r l x <+: Distinct.insertAll r (Distinct.insertNew r l x) zs :=
        prefix_insertAll
      by_cases hany : l.any (r · x) = true
      · obtain ⟨y, hy, hyx⟩ := List.any_eq_true.mp hany
        exact .inr ⟨y, hkept.subset (prefix_insertNew.subset hy), hyx⟩
      · left
        refine hkept.subset ?_
        rw [Distinct.insertNew, if_neg hany]
        exact List.mem_append_right l List.mem_cons_self
    · exact ih hx

/-- Items that all have a related one in the list change nothing. -/
theorem insertAll_of_related (h : ∀ x ∈ xs, l.any (r · x) = true) : insertAll r l xs = l := by
  induction xs with
  | nil => rfl
  | cons x xs ih =>
    rw [insertAll_cons, insertNew_of_related (h x List.mem_cons_self)]
    exact ih fun y hy => h y (List.mem_cons_of_mem x hy)

/-- Items that are unrelated to the list and to each other are all appended. -/
theorem insertAll_of_unrelated (h : Unrelated r (l ++ xs)) : insertAll r l xs = l ++ xs := by
  induction xs generalizing l with
  | nil => simp
  | cons x xs ih =>
    have hx : ∀ y ∈ l, r y x = false :=
      fun y hy => (List.pairwise_append.mp h).2.2 y hy x List.mem_cons_self
    have happend : l ++ x :: xs = (l ++ [x]) ++ xs := by simp
    rw [insertAll_cons, insertNew_of_unrelated hx, happend]
    exact ih (happend ▸ h)

end Distinct
