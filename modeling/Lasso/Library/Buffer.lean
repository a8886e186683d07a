import Lasso.Library.Outcome

/-!
# Blocks of memory

A block is a list of cells, of which those that were written carry a value. A write beyond the end
is an error, of a type that the program chooses.
-/

namespace Buffer

open Outcome

variable {α ε : Type*}

/-- A block in which nothing is written yet. -/
def alloc (size : Nat) : List (Option α) := List.replicate size none

/-- Write one cell. -/
def write (outside : ε) (i : Nat) (x : α) (cells : List (Option α)) : Except ε (List (Option α)) :=
  if i < cells.length then .ok (cells.set i (some x)) else .error outside

/-- Write one cell after the other, from `i` on. -/
def writeAll (outside : ε) (i : Nat) : List α → List (Option α) → Except ε (List (Option α))
  | [], cells => .ok cells
  | x :: xs, cells => write outside i x cells >>= writeAll outside (i + 1) xs

@[simp] theorem length_alloc (size : Nat) : (alloc size : List (Option α)).length = size :=
  List.length_replicate

theorem getElem?_alloc_ne (size i : Nat) (x : α) : (alloc size)[i]? ≠ some (some x) := by
  rw [alloc, List.getElem?_replicate]
  split_ifs <;> simp

variable {outside : ε} {i : Nat} {x : α} {xs : List α} {cells : List (Option α)}

theorem write_of_lt (h : i < cells.length) :
    write outside i x cells = .ok (cells.set i (some x)) := if_pos h

theorem write_of_le (h : cells.length ≤ i) : write outside i x cells = .error outside :=
  if_neg (Nat.not_lt.mpr h)

/-- The other cells stay as they are. -/
theorem getElem?_of_write {written : List (Option α)} (h : write outside i x cells = .ok written)
    {j : Nat} (hne : i ≠ j) : written[j]? = cells[j]? := by
  unfold write at h
  split_ifs at h
  obtain rfl := Except.ok.inj h
  exact List.getElem?_set_ne hne

/-- What fits is put in the place of what was there. -/
theorem writeAll_of_le (h : i + xs.length ≤ cells.length) :
    writeAll outside i xs cells =
      .ok (cells.take i ++ (xs.map some ++ cells.drop (i + xs.length))) := by
  induction xs generalizing i cells with
  | nil =>
    rw [writeAll, List.map_nil, List.nil_append, List.length_nil, Nat.add_zero,
      List.take_append_drop]
  | cons x xs ih =>
    rw [List.length_cons] at h
    have hlt : i < cells.length := by omega
    have hrest := @ih (i + 1) (cells.set i (some x)) (by rw [List.length_set]; omega)
    have htake : (cells.set i (some x)).take (i + 1) = cells.take i ++ [some x] := by
      rw [List.take_succ_eq_append_getElem (by rwa [List.length_set]), List.getElem_set_self,
        List.take_set_of_le (Nat.le_refl i)]
    have hdrop : (cells.set i (some x)).drop (i + 1 + xs.length) =
        cells.drop (i + (xs.length + 1)) := by
      rw [List.drop_set_of_lt (by omega)]
      congr 1
      omega
    rw [htake, hdrop] at hrest
    rw [writeAll, write_of_lt hlt, ok_bind, hrest]
    simp

/-- What does not fit runs into the end. -/
theorem writeAll_of_lt (hstart : i ≤ cells.length) (h : cells.length < i + xs.length) :
    writeAll outside i xs cells = .error outside := by
  induction xs generalizing i cells with
  | nil => exact absurd h (Nat.not_lt.mpr hstart)
  | cons x xs ih =>
    rw [writeAll]
    rcases Nat.lt_or_eq_of_le hstart with hlt | hend
    · rw [write_of_lt hlt, ok_bind]
      refine ih ?_ ?_
      · rwa [List.length_set]
      · rw [List.length_set]
        rw [List.length_cons] at h
        omega
    · rw [write_of_le (Nat.le_of_eq hend.symm), error_bind]

end Buffer
