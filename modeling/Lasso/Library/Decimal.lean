import Mathlib.Algebra.Group.Int.Defs
import Mathlib.Algebra.Group.Nat.Defs
import Mathlib.Data.Int.Basic
import Mathlib.Data.List.TakeWhile

/-!
# Decimal numbers in texts

`strtol` reads the decimal number at the start of a text, and `atoi` makes an `int` of it. They read
back what was written.
-/

namespace Decimal

/-- The value of the digits at the start of a text. -/
def leadingDigits (text : List Char) : Nat := Nat.ofDigitChars 10 (text.takeWhile (·.isDigit)) 0

/-- `isspace` in the C locale -/
def isSpace (c : Char) : Bool := c == ' ' || ('\t' ≤ c && c ≤ '\r')

/-- `strtol` with base 10, without the bounds of a `long` -/
def strtol (text : List Char) : Int :=
  match text.dropWhile isSpace with
  | '-' :: digits => -(leadingDigits digits : Int)
  | '+' :: digits => leadingDigits digits
  | digits => leadingDigits digits

theorem leadingDigits_toDigits (n : Nat) : leadingDigits (Nat.toDigits 10 n) = n := by
  have hall : ∀ c ∈ Nat.toDigits 10 n, c.isDigit = true := fun c hc =>
    Nat.isDigit_of_mem_toDigits (by omega) (by omega) hc
  rw [leadingDigits, List.takeWhile_eq_self_iff.mpr hall, Nat.ofDigitChars_ten_toDigits]

theorem not_isSpace_of_isDigit {c : Char} (h : c.isDigit = true) : isSpace c = false := by
  simp only [Char.isDigit, Bool.and_eq_true, decide_eq_true_eq] at h
  have hlow : '0' ≤ c := h.1
  have hspace : c ≠ ' ' := by
    rintro rfl
    exact absurd hlow (by decide)
  have hreturn : ¬ c ≤ '\r' := fun hle => absurd (Char.le_trans hlow hle) (by decide)
  simp [isSpace, hspace, hreturn]

/-- A text that begins with a digit has no sign. -/
theorem strtol_of_digit {c : Char} (h : c.isDigit = true) (rest : List Char) :
    strtol (c :: rest) = leadingDigits (c :: rest) := by
  have hdrop : (c :: rest).dropWhile isSpace = c :: rest :=
    List.dropWhile_cons_of_neg (by simp [not_isSpace_of_isDigit h])
  rw [strtol, hdrop]
  split
  · rename_i heq
    obtain rfl := (List.cons.inj heq).1
    cases h
  · rename_i heq
    obtain rfl := (List.cons.inj heq).1
    cases h
  · rfl

/-- A number that was written is read back. -/
theorem strtol_toDigits (n : Nat) : strtol (Nat.toDigits 10 n) = n := by
  obtain ⟨c, digits, hdigits⟩ := List.exists_cons_of_ne_nil (Nat.toDigits_ne_nil (n := n) (b := 10))
  have hc : c.isDigit = true :=
    Nat.isDigit_of_mem_toDigits (b := 10) (n := n) (by omega) (by omega) (by simp [hdigits])
  rw [hdigits, strtol_of_digit hc, ← hdigits, leadingDigits_toDigits]

theorem toList_negSucc (n : Nat) :
    (toString (Int.negSucc n)).toList = '-' :: Nat.toDigits 10 (n + 1) := by
  rw [← Nat.toList_repr]
  exact String.toList_append

/-- A number with a sign is read back, too. -/
theorem strtol_toString (n : Int) : strtol (toString n).toList = n := by
  cases n with
  | ofNat n =>
    have htext : (toString (Int.ofNat n)).toList = Nat.toDigits 10 n := Nat.toList_repr
    rw [htext, strtol_toDigits]
    rfl
  | negSucc n =>
    have hdrop : ('-' :: Nat.toDigits 10 (n + 1)).dropWhile isSpace =
        '-' :: Nat.toDigits 10 (n + 1) := List.dropWhile_cons_of_neg (by decide)
    have hvalue : strtol ('-' :: Nat.toDigits 10 (n + 1)) =
        -(leadingDigits (Nat.toDigits 10 (n + 1)) : Int) := by
      rw [strtol, hdrop]
      rfl
    rw [toList_negSucc, hvalue, leadingDigits_toDigits]
    rfl

/-- A text that stands for an integer: digits with a sign or none, between white space. -/
def IsDecimal (text : List Char) (n : Int) : Prop :=
  ∃ before sign digits after : List Char, text = before ++ (sign ++ (digits ++ after)) ∧
    (∀ c ∈ before, isSpace c = true) ∧ (∀ c ∈ after, isSpace c = true) ∧
    digits ≠ [] ∧ (∀ c ∈ digits, c.isDigit = true) ∧
    ((sign = [] ∨ sign = ['+']) ∧ n = Nat.ofDigitChars 10 digits 0 ∨
      sign = ['-'] ∧ n = -(Nat.ofDigitChars 10 digits 0 : Int))

theorem leadingDigits_append {digits after : List Char} (hdigits : ∀ c ∈ digits, c.isDigit = true)
    (hafter : ∀ c ∈ after, isSpace c = true) :
    leadingDigits (digits ++ after) = Nat.ofDigitChars 10 digits 0 := by
  have hnone : after.takeWhile (·.isDigit) = [] := by
    cases after with
    | nil => rfl
    | cons c after =>
      refine List.takeWhile_cons_of_neg fun hdigit => ?_
      have hspace := hafter c List.mem_cons_self
      rw [not_isSpace_of_isDigit hdigit] at hspace
      cases hspace
  rw [leadingDigits, List.takeWhile_append_of_pos hdigits, hnone, List.append_nil]

/-- The integer that a text stands for is read. -/
theorem strtol_of_isDecimal {text : List Char} {n : Int} (h : IsDecimal text n) :
    strtol text = n := by
  obtain ⟨before, sign, digits, after, rfl, hbefore, hafter, hne, hdigits, hvalue⟩ := h
  have hleading := leadingDigits_append hdigits hafter
  obtain ⟨c, rest, rfl⟩ := List.exists_cons_of_ne_nil hne
  have hc := hdigits c List.mem_cons_self
  have hskip : strtol (before ++ (sign ++ (c :: rest ++ after))) =
      strtol (sign ++ (c :: rest ++ after)) := by
    rw [strtol, strtol, List.dropWhile_append_of_pos hbefore]
  rw [hskip]
  rcases hvalue with ⟨rfl | rfl, rfl⟩ | ⟨rfl, rfl⟩
  · rw [List.nil_append, List.cons_append, strtol_of_digit hc, ← hleading]
    rfl
  · rw [← hleading]
    rfl
  · rw [← hleading]
    rfl

/-- `atoi`: the `long` that `strtol` comes to, cut to an `int` -/
def atoi (text : List Char) : Int :=
  (max (-2 ^ 63) (min (2 ^ 63 - 1) (strtol text))).bmod (2 ^ 32)

theorem atoi_toString {n : Int} (hlow : -2 ^ 31 ≤ n) (hhigh : n < 2 ^ 31) :
    atoi (toString n).toList = n := by
  have hlong : max (-2 ^ 63) (min (2 ^ 63 - 1) n) = n := by omega
  rw [atoi, strtol_toString, hlong, Int.bmod_eq_of_le (by omega) (by omega)]

end Decimal
