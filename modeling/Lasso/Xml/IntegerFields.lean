import Lasso.Xml.NodeCodec

/-!
# Integer members and the error number

`snippet_set_value` reads an integer with `strtol`, cuts the `long` to an `int` and looks at
`errno`, which it has not set before. So a number that does not fit may be taken for another one,
and an error of an earlier call for one of this one.

## Main definitions

* `snippetSetInteger` — the branch of `snippet_set_value` for an integer, with `errno` at its start.
* `representedInteger` — what is to be stored.
* `ReadsInteger` — the numbers that are stored rightly.

## Main results

* `storesRepresented_iff` — these are the ones.
-/

namespace Lasso

/-- `ERANGE` and `EINVAL` -/
def erange : Int := 34
def einval : Int := 22

/-- `INT_MIN` and `INT_MAX` -/
def intMin : Int := -2 ^ 31
def intMax : Int := 2 ^ 31 - 1

/-- A number within the bounds of a `long`. -/
def toLong (n : Int) : Int := max (-2 ^ 63) (min (2 ^ 63 - 1) n)

/-- A `long` that is assigned to an `int`. -/
def cutToInt (long : Int) : Int := long.bmod (2 ^ 32)

/-- `strtol` and `errno` after it, which is set if the number is out of the bounds only. -/
def strtolErrno (errno : Int) (text : List Char) : Int × Int :=
  let n := Decimal.strtol text
  (toLong n, if n < -2 ^ 63 ∨ 2 ^ 63 ≤ n then erange else errno)

/-- What is stored for a number that is refused. -/
def refusedInteger (optionalNeg : Bool) : Int := if optionalNeg then -1 else 0

/-- The branch of `snippet_set_value` for `SNIPPET_INTEGER` -/
def snippetSetInteger (optionalNeg : Bool) (errno : Int) (content : String) : Int :=
  let (long, errno) := strtolErrno errno content.toList
  let val := cutToInt long
  if (val = intMin ∨ val = intMax) ∧ errno = erange ∨ errno = einval ∨ val < 0 then
    refusedInteger optionalNeg
  else val

/-- What is to be stored for a number: the number itself, if it is no negative one and an `int`. -/
def representedInteger (optionalNeg : Bool) (n : Int) : Int :=
  if 0 ≤ n ∧ n ≤ intMax then n else refusedInteger optionalNeg

/-- The numbers that are stored rightly, for the value of `errno` left by earlier calls. -/
def ReadsInteger (optionalNeg : Bool) (errno n : Int) : Prop :=
  if 0 ≤ n ∧ n ≤ intMax then
    errno ≠ einval ∧ (errno = erange → n ≠ intMax) ∨ n = refusedInteger optionalNeg
  else
    errno = einval ∧ -2 ^ 63 ≤ n ∨ cutToInt (toLong n) < 0 ∨
      cutToInt (toLong n) = refusedInteger optionalNeg ∨
      cutToInt (toLong n) = intMax ∧ errno = erange

theorem cutToInt_bounds (long : Int) : intMin ≤ cutToInt long ∧ cutToInt long ≤ intMax := by
  have hlow := Int.le_bmod (x := long) (m := 2 ^ 32) (by decide)
  have hhigh := Int.bmod_lt (x := long) (m := 2 ^ 32) (by decide)
  unfold cutToInt intMin intMax
  omega

theorem cutToInt_toLong {n : Int} (hlow : 0 ≤ n) (hhigh : n ≤ intMax) :
    cutToInt (toLong n) = n := by
  unfold intMax at hhigh
  have hlong : toLong n = n := by
    unfold toLong
    omega
  rw [hlong, cutToInt, Int.bmod_eq_of_le (by omega) (by omega)]

/-- A number beyond a `long` becomes 0 or -1. -/
theorem cutToInt_toLong_of_lt {n : Int} (h : n < -2 ^ 63) : cutToInt (toLong n) = 0 := by
  have hlong : toLong n = -2 ^ 63 := by
    unfold toLong
    omega
  rw [hlong]
  decide

theorem cutToInt_toLong_of_ge {n : Int} (h : 2 ^ 63 ≤ n) : cutToInt (toLong n) = -1 := by
  have hlong : toLong n = 2 ^ 63 - 1 := by
    unfold toLong
    omega
  rw [hlong]
  decide

/-- Without an error left, an integer is read as in the model of the codec. -/
theorem snippetSetInteger_zero (optionalNeg : Bool) (content : String) :
    snippetSetInteger optionalNeg 0 content = readInteger optionalNeg content := by
  have hlow := @cutToInt_toLong_of_lt (Decimal.strtol content.toList)
  have hhigh := @cutToInt_toLong_of_ge (Decimal.strtol content.toList)
  have hread : readInteger optionalNeg content =
      if cutToInt (toLong (Decimal.strtol content.toList)) < 0 then refusedInteger optionalNeg
      else cutToInt (toLong (Decimal.strtol content.toList)) := rfl
  rw [hread]
  unfold snippetSetInteger strtolErrno
  dsimp only
  generalize cutToInt (toLong (Decimal.strtol content.toList)) = val at *
  unfold intMax intMin erange einval
  split_ifs <;> grind

/-- For the integer that a text stands for, the value stored is the one to be stored just if the
number is read. -/
theorem storesRepresented_iff {content : String} {n : Int}
    (h : Decimal.IsDecimal content.toList n) (optionalNeg : Bool) (errno : Int) :
    snippetSetInteger optionalNeg errno content = representedInteger optionalNeg n ↔
      ReadsInteger optionalNeg errno n := by
  have hread := Decimal.strtol_of_isDecimal h
  have hbounds := cutToInt_bounds (toLong n)
  unfold snippetSetInteger strtolErrno representedInteger ReadsInteger
  rw [hread]
  dsimp only
  have hrefused : refusedInteger optionalNeg = -1 ∨ refusedInteger optionalNeg = 0 := by
    cases optionalNeg
    · exact .inr rfl
    · exact .inl rfl
  generalize refusedInteger optionalNeg = refused at hrefused ⊢
  by_cases hrange : 0 ≤ n ∧ n ≤ intMax
  · rw [if_pos hrange, if_pos hrange, cutToInt_toLong hrange.1 hrange.2]
    unfold intMax intMin erange einval at *
    split_ifs <;> omega
  · rw [if_neg hrange, if_neg hrange]
    have hlow := @cutToInt_toLong_of_lt n
    have hhigh := @cutToInt_toLong_of_ge n
    generalize cutToInt (toLong n) = val at *
    unfold intMax intMin erange einval at *
    split_ifs <;> grind

/-- 5 is read when no error was left. -/
theorem storesRepresented_five :
    snippetSetInteger true 0 "5" = representedInteger true 5 :=
  (storesRepresented_iff ⟨[], [], ['5'], [], rfl, by simp, by simp, by simp, by simp,
    .inl ⟨.inl rfl, rfl⟩⟩ true 0).mpr (.inl ⟨by decide, by decide⟩)

theorem isDecimal_two_pow_32 : Decimal.IsDecimal "4294967297".toList 4294967297 :=
  ⟨[], [], "4294967297".toList, [], rfl, by simp, by simp, by decide, by simp,
    .inl ⟨.inl rfl, rfl⟩⟩

/-- A number beyond an `int` is taken for another one, and a number that fits is refused when an
earlier call left an error. -/
theorem not_storesRepresented :
    ¬ (∀ (content : String) (n : Int), Decimal.IsDecimal content.toList n →
      ∀ optionalNeg errno,
        snippetSetInteger optionalNeg errno content = representedInteger optionalNeg n) ∧
    snippetSetInteger false 0 "4294967297" = 1 ∧ snippetSetInteger true einval "5" = -1 := by
  refine ⟨fun h => ?_, by decide, by decide⟩
  have hstored := h _ _ isDecimal_two_pow_32 false 0
  revert hstored
  decide

end Lasso
