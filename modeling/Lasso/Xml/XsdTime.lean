import Mathlib.Algebra.Order.Field.Rat
import Mathlib.Data.List.TakeWhile
import Mathlib.Data.Nat.Digits.Defs
import Mathlib.Tactic.Positivity

/-!
# Times in XML

`lasso_iso_8601_gmt_to_time_t` reads a time in one of two formats, to the second. What a time means
is an instant to the fraction that is written.

## Main definitions

* `xsdtimeMatchFormat`, `iso8601GmtToTimeT` — the functions of `tools.c`.
* `xsdInstant` — the instant that a time stands for.

## Main results

* `xsdInstant_of_iso8601` — a time that is read stands for an instant of the second read.
-/

namespace Lasso

/-! ## Reading a time -/

/-- `xsdtime_match_format` -/
def xsdtimeMatchFormat : (format xsdtime : List Char) → Bool
  | [], [] => true
  | [], _ :: _ => false
  | _ :: _, [] => false
  | f :: format, x :: xsdtime =>
    if f == 'd' && x.isDigit then xsdtimeMatchFormat format xsdtime
    else if f == '?' then xsdtimeMatchFormat format ((x :: xsdtime).dropWhile Char.isDigit)
    else if f == x then xsdtimeMatchFormat format xsdtime
    else false

def xsdtimeFormat1 : List Char := "dddd-dd-ddTdd:dd:ddZ".toList
def xsdtimeFormat2 : List Char := "dddd-dd-ddTdd:dd:dd.?Z".toList

/-- The members of `struct tm` that a time gives. -/
structure Tm where
  year : Nat
  month : Nat
  day : Nat
  hour : Nat
  minute : Nat
  second : Nat

/-- A number written in digits only. -/
def digits? (cs : List Char) : Option Nat :=
  if cs.all Char.isDigit then
    some (cs.foldl (fun n c => 10 * n + (c.toNat - '0'.toNat)) 0)
  else none

/-- A number in digits between two bounds. -/
def field? (cs : List Char) (low high : Nat) : Option Nat :=
  (digits? cs).filter fun n => low ≤ n && n ≤ high

/-- `strptime` with `%Y-%m-%dT%H:%M:%S`, on a text whose numbers have the full width, and the text
behind. -/
def strptime : List Char → Option (Tm × List Char)
  | y₁ :: y₂ :: y₃ :: y₄ :: '-' :: m₁ :: m₂ :: '-' :: d₁ :: d₂ :: 'T' :: h₁ :: h₂ :: ':' ::
      n₁ :: n₂ :: ':' :: s₁ :: s₂ :: rest => do
    let year ← field? [y₁, y₂, y₃, y₄] 0 9999
    let month ← field? [m₁, m₂] 1 12
    let day ← field? [d₁, d₂] 1 31
    let hour ← field? [h₁, h₂] 0 23
    let minute ← field? [n₁, n₂] 0 59
    let second ← field? [s₁, s₂] 0 60
    return ({ year, month, day, hour, minute, second }, rest)
  | _ => none

def isLeapYear (year : Nat) : Bool := (year % 4 == 0 && year % 100 != 0) || year % 400 == 0

/-- The days of a year before a month. -/
def daysBeforeMonth (year month : Nat) : Nat :=
  ([0, 31, 59, 90, 120, 151, 181, 212, 243, 273, 304, 334].getD (month - 1) 0) +
    if isLeapYear year && 2 < month then 1 else 0

/-- The days from 1970 to the start of a year. -/
def daysBeforeYear (year : Int) : Int :=
  365 * (year - 1970) + ((year - 1969) / 4 - (year - 1901) / 100 + (year - 1601) / 400)

/-- `timegm` -/
def timegm (tm : Tm) : Int :=
  86400 * (daysBeforeYear tm.year + daysBeforeMonth tm.year tm.month + (tm.day - 1)) +
    3600 * tm.hour + 60 * tm.minute + tm.second

/-- `lasso_iso_8601_gmt_to_time_t` -/
def iso8601GmtToTimeT (xsdtime : String) : Int :=
  if xsdtimeMatchFormat xsdtimeFormat1 xsdtime.toList ||
      xsdtimeMatchFormat xsdtimeFormat2 xsdtime.toList then
    match strptime xsdtime.toList with
    | some (tm, _) => timegm tm
    | none => -1
  else -1

/-! ## What a time means -/

/-- The value of the digits behind a decimal point. -/
def decimalFraction (digits : List Char) : ℚ :=
  (Nat.ofDigits 10 (digits.reverse.map fun c => c.toNat - '0'.toNat) : ℕ) / 10 ^ digits.length

/-- The fraction of a second written at the end of a time in UTC. -/
def fractionBefore : List Char → Option ℚ
  | ['Z'] => some 0
  | '.' :: rest =>
    if rest.dropWhile Char.isDigit = ['Z'] then
      some (decimalFraction (rest.takeWhile Char.isDigit))
    else none
  | _ => none

/-- The fraction of a second of a time in UTC. -/
def xsdFraction (xsdtime : String) : Option ℚ := do
  let (_, rest) ← strptime xsdtime.toList
  fractionBefore rest

/-- The instant that a time in UTC stands for, in seconds from 1970 on. -/
def xsdInstant (xsdtime : String) : Option ℚ := do
  let (tm, rest) ← strptime xsdtime.toList
  let fraction ← fractionBefore rest
  return timegm tm + fraction

/-! ## The formats -/

/-- A format that has matched so far, character by character, is matched by the rest. -/
theorem xsdtimeMatchFormat_append (format : List Char) {tail pre rest : List Char}
    (hlen : format.length = pre.length) (hplain : '?' ∉ format)
    (h : xsdtimeMatchFormat (format ++ tail) (pre ++ rest) = true) :
    xsdtimeMatchFormat tail rest = true := by
  induction format generalizing pre with
  | nil =>
    obtain rfl : pre = [] := List.length_eq_zero_iff.mp hlen.symm
    exact h
  | cons f format ih =>
    cases pre with
    | nil => cases hlen
    | cons x pre =>
      obtain ⟨hf, hformat⟩ : '?' ≠ f ∧ '?' ∉ format := by simpa using hplain
      rw [List.cons_append, List.cons_append, xsdtimeMatchFormat] at h
      split_ifs at h with hdigit hany heq
      · exact ih (by simpa using hlen) hformat h
      · exact absurd (by simpa using hany) hf.symm
      · exact ih (by simpa using hlen) hformat h

theorem xsdtimeMatchFormat_plain {f : Char} {format xsdtime : List Char} (hd : f ≠ 'd')
    (hany : f ≠ '?') (h : xsdtimeMatchFormat (f :: format) xsdtime = true) :
    ∃ rest, xsdtime = f :: rest ∧ xsdtimeMatchFormat format rest = true := by
  cases xsdtime with
  | nil => cases h
  | cons x rest =>
    rw [xsdtimeMatchFormat] at h
    simp only [beq_eq_false_iff_ne.mpr hd, beq_eq_false_iff_ne.mpr hany, Bool.false_and,
      Bool.false_eq_true, if_false] at h
    split_ifs at h with heq
    exact ⟨rest, by rw [beq_iff_eq.mp heq], h⟩

theorem xsdtimeMatchFormat_Z {rest : List Char} (h : xsdtimeMatchFormat ['Z'] rest = true) :
    rest = ['Z'] := by
  obtain ⟨rest', rfl, h⟩ := xsdtimeMatchFormat_plain (by decide) (by decide) h
  cases rest' with
  | nil => rfl
  | cons x rest => cases h

theorem xsdtimeMatchFormat_any {format xsdtime : List Char}
    (h : xsdtimeMatchFormat ('?' :: format) xsdtime = true) :
    xsdtimeMatchFormat format (xsdtime.dropWhile Char.isDigit) = true := by
  cases xsdtime with
  | nil => cases h
  | cons x rest => exact h

/-- What is left of a time behind the seconds says how many of them are a fraction. -/
theorem fractionBefore_of_match {rest : List Char}
    (h : xsdtimeMatchFormat ['Z'] rest = true ∨ xsdtimeMatchFormat ['.', '?', 'Z'] rest = true) :
    ∃ digits : List Char, (∀ c ∈ digits, c.isDigit = true) ∧
      fractionBefore rest = some (decimalFraction digits) := by
  rcases h with h | h
  · refine ⟨[], by simp, ?_⟩
    rw [xsdtimeMatchFormat_Z h]
    simp [fractionBefore, decimalFraction, Nat.ofDigits_nil]
  · obtain ⟨rest', rfl, h⟩ := xsdtimeMatchFormat_plain (by decide) (by decide) h
    refine ⟨rest'.takeWhile Char.isDigit, fun c hc => List.mem_takeWhile_imp hc, ?_⟩
    rw [fractionBefore, if_pos (xsdtimeMatchFormat_Z (xsdtimeMatchFormat_any h))]

/-! ## The instant read -/

theorem isDigit_of_digits? {cs : List Char} {n : Nat} (h : digits? cs = some n) :
    ∀ c ∈ cs, c.isDigit = true := by
  unfold digits? at h
  split_ifs at h with hall
  exact List.all_eq_true.mp hall

theorem isDigit_of_field? {cs : List Char} {low high n : Nat} (h : field? cs low high = some n) :
    ∀ c ∈ cs, c.isDigit = true :=
  isDigit_of_digits? (Option.filter_eq_some_iff.mp h).1

/-- A time that is read begins with the digits and the signs between them. -/
theorem strptime_seconds {cs rest : List Char} {tm : Tm} (h : strptime cs = some (tm, rest)) :
    ∃ seconds, cs = seconds ++ rest ∧
      List.Forall₂ (fun f c => if f = 'd' then c.isDigit = true else c = f)
        "dddd-dd-ddTdd:dd:dd".toList seconds := by
  unfold strptime at h
  split at h
  · simp only [Option.bind_eq_bind, Option.bind_eq_some_iff, Option.pure_def,
      Option.some.injEq, Prod.mk.injEq] at h
    obtain ⟨year, hyear, month, hmonth, day, hday, hour, hhour, minute, hminute, second, hsecond,
      -, rfl⟩ := h
    have hyears := isDigit_of_field? hyear
    have hmonths := isDigit_of_field? hmonth
    have hdays := isDigit_of_field? hday
    have hhours := isDigit_of_field? hhour
    have hminutes := isDigit_of_field? hminute
    have hseconds := isDigit_of_field? hsecond
    simp only [List.mem_cons, List.not_mem_nil, or_false, forall_eq_or_imp, forall_eq]
      at hyears hmonths hdays hhours hminutes hseconds
    refine ⟨_ :: _ :: _ :: _ :: '-' :: _ :: _ :: '-' :: _ :: _ :: 'T' :: _ :: _ :: ':' ::
      _ :: _ :: ':' :: _ :: _ :: [], rfl, ?_⟩
    simp [hyears, hmonths, hdays, hhours, hminutes, hseconds]
  · cases h

theorem strptime_eq_some {cs rest : List Char} {tm : Tm} (h : strptime cs = some (tm, rest)) :
    ∃ pre : List Char, pre.length = 19 ∧ cs = pre ++ rest := by
  obtain ⟨seconds, hcs, hseconds⟩ := strptime_seconds h
  exact ⟨seconds, hseconds.length_eq.symm, hcs⟩

theorem decimalFraction_nonneg (digits : List Char) : 0 ≤ decimalFraction digits := by
  unfold decimalFraction
  positivity

theorem digit_lt_ten {c : Char} (h : c.isDigit = true) : c.toNat - '0'.toNat < 10 := by
  have hle : c.toNat ≤ '9'.toNat := by
    simp only [Char.isDigit, Bool.and_eq_true, decide_eq_true_eq] at h
    exact h.2
  have h0 : '0'.toNat = 48 := rfl
  have h9 : '9'.toNat = 57 := rfl
  omega

theorem decimalFraction_lt_one {digits : List Char} (h : ∀ c ∈ digits, c.isDigit = true) :
    decimalFraction digits < 1 := by
  have hlt : Nat.ofDigits 10 (digits.reverse.map fun c => c.toNat - '0'.toNat) <
      10 ^ (digits.reverse.map fun c => c.toNat - '0'.toNat).length := by
    refine Nat.ofDigits_lt_base_pow_length (by decide) ?_
    intro n hn
    obtain ⟨c, hc, rfl⟩ := List.mem_map.mp hn
    exact digit_lt_ten (h c (List.mem_reverse.mp hc))
  unfold decimalFraction
  rw [div_lt_one (by positivity)]
  simp only [List.length_map, List.length_reverse] at hlt
  exact_mod_cast hlt

/-- A time that is read stands for an instant of the second that is read. -/
theorem xsdInstant_of_iso8601 {xsdtime : String} (h : iso8601GmtToTimeT xsdtime ≠ -1) :
    ∃ fraction, xsdFraction xsdtime = some fraction ∧ 0 ≤ fraction ∧ fraction < 1 ∧
      xsdInstant xsdtime = some (iso8601GmtToTimeT xsdtime + fraction) := by
  unfold iso8601GmtToTimeT at h ⊢
  split_ifs at h ⊢ with hformat
  · cases hread : strptime xsdtime.toList with
    | none => simp [hread] at h
    | some read =>
      obtain ⟨tm, rest⟩ := read
      obtain ⟨pre, hlen, hpre⟩ := strptime_eq_some hread
      rw [hpre, Bool.or_eq_true] at hformat
      have hplain : "dddd-dd-ddTdd:dd:dd".toList.length = pre.length := by rw [hlen]; rfl
      have hrest := hformat.imp
        (xsdtimeMatchFormat_append "dddd-dd-ddTdd:dd:dd".toList hplain (by decide))
        (xsdtimeMatchFormat_append "dddd-dd-ddTdd:dd:dd".toList hplain (by decide))
      obtain ⟨digits, hdigits, hfraction⟩ := fractionBefore_of_match hrest
      refine ⟨decimalFraction digits, ?_, decimalFraction_nonneg _,
        decimalFraction_lt_one hdigits, ?_⟩
      · simp [xsdFraction, hread, hfraction]
      · simp [xsdInstant, hread, hfraction]
  · exact absurd rfl h

/-! ## The times that are read -/

/-- What fits the beginning of a format leaves the rest of the text for the rest of the format. -/
theorem xsdtimeMatchFormat_of_fits {pattern seconds tail rest : List Char}
    (h : List.Forall₂ (fun f c => if f = 'd' then c.isDigit = true else c = f) pattern seconds)
    (hplain : '?' ∉ pattern) (hrest : xsdtimeMatchFormat tail rest = true) :
    xsdtimeMatchFormat (pattern ++ tail) (seconds ++ rest) = true := by
  induction h with
  | nil => exact hrest
  | @cons f c pattern seconds hc h ih =>
    obtain ⟨hany, hplain⟩ : '?' ≠ f ∧ '?' ∉ pattern := by simpa using hplain
    rw [List.cons_append, List.cons_append, xsdtimeMatchFormat]
    split_ifs at hc with hd
    · simp [hd, hc, ih hplain]
    · simp [hd, hc, Ne.symm hany, ih hplain]

/-- What is behind the seconds of a time that is read decides on the format. -/
theorem xsdtimeMatchFormat_of_strptime {cs rest tail : List Char} {tm : Tm}
    (h : strptime cs = some (tm, rest)) (hrest : xsdtimeMatchFormat tail rest = true) :
    xsdtimeMatchFormat ("dddd-dd-ddTdd:dd:dd".toList ++ tail) cs = true := by
  obtain ⟨seconds, rfl, hseconds⟩ := strptime_seconds h
  exact xsdtimeMatchFormat_of_fits hseconds (by simp) hrest

theorem match_of_fractionBefore {rest : List Char} {fraction : ℚ}
    (h : fractionBefore rest = some fraction) :
    (xsdtimeMatchFormat ['Z'] rest = true ∨ xsdtimeMatchFormat ['.', '?', 'Z'] rest = true) ∧
      0 ≤ fraction ∧ fraction < 1 := by
  have hmatch : xsdtimeMatchFormat ['Z'] rest = true ∨
      xsdtimeMatchFormat ['.', '?', 'Z'] rest = true := by
    unfold fractionBefore at h
    split at h
    · exact .inl rfl
    · rename_i digits
      split_ifs at h with hdigits
      right
      cases digits with
      | nil => cases hdigits
      | cons c digits =>
        have hany : xsdtimeMatchFormat ['?', 'Z'] (c :: digits) =
            xsdtimeMatchFormat ['Z'] ((c :: digits).dropWhile Char.isDigit) := by
          simp [xsdtimeMatchFormat]
        have hpoint : xsdtimeMatchFormat ['.', '?', 'Z'] ('.' :: c :: digits) =
            xsdtimeMatchFormat ['?', 'Z'] (c :: digits) := by
          simp [xsdtimeMatchFormat]
        rw [hpoint, hany, hdigits]
        rfl
    · cases h
  refine ⟨hmatch, ?_⟩
  obtain ⟨digits, hdigits, hfraction⟩ := fractionBefore_of_match hmatch
  cases h.symm.trans hfraction
  exact ⟨decimalFraction_nonneg digits, decimalFraction_lt_one hdigits⟩

/-- A time that stands for an instant is read, to the second. -/
theorem iso8601_of_xsdInstant {xsdtime : String} {instant : ℚ}
    (h : xsdInstant xsdtime = some instant) :
    ∃ fraction : ℚ, 0 ≤ fraction ∧ fraction < 1 ∧
      instant = iso8601GmtToTimeT xsdtime + fraction := by
  simp only [xsdInstant, Option.bind_eq_bind, Option.bind_eq_some_iff, Option.pure_def,
    Option.some.injEq, Prod.exists] at h
  obtain ⟨tm, rest, hread, fraction, hfraction, rfl⟩ := h
  obtain ⟨hmatch, hnonneg, hlt⟩ := match_of_fractionBefore hfraction
  refine ⟨fraction, hnonneg, hlt, ?_⟩
  have hformat : (xsdtimeMatchFormat xsdtimeFormat1 xsdtime.toList ||
      xsdtimeMatchFormat xsdtimeFormat2 xsdtime.toList) = true := by
    rw [Bool.or_eq_true]
    exact hmatch.imp (xsdtimeMatchFormat_of_strptime hread) (xsdtimeMatchFormat_of_strptime hread)
  rw [iso8601GmtToTimeT, if_pos hformat, hread]

/-- A text that stands for no instant gives the sentinel; any other one gives its second. -/
theorem xsdInstant_cases (xsdtime : String) :
    (xsdInstant xsdtime = none ∧ iso8601GmtToTimeT xsdtime = -1) ∨
      ∃ fraction : ℚ, 0 ≤ fraction ∧ fraction < 1 ∧
        xsdInstant xsdtime = some (iso8601GmtToTimeT xsdtime + fraction) := by
  cases hinstant : xsdInstant xsdtime with
  | none =>
    refine .inl ⟨rfl, ?_⟩
    by_contra hread
    obtain ⟨fraction, -, -, -, hsome⟩ := xsdInstant_of_iso8601 hread
    cases hinstant.symm.trans hsome
  | some instant =>
    obtain ⟨fraction, hnonneg, hlt, rfl⟩ := iso8601_of_xsdInstant hinstant
    exact .inr ⟨fraction, hnonneg, hlt, rfl⟩

example : iso8601GmtToTimeT "2024-02-29T00:00:00Z" = 1709164800 := by decide
example : iso8601GmtToTimeT "1999-12-31T23:59:59.5Z" = 946684799 := by decide
example : iso8601GmtToTimeT "1999-12-31T23:59:59+01:00" = -1 := by decide

end Lasso
