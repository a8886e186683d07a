import Mathlib.Data.Nat.Find
import Mathlib.Tactic.IntervalCases
import Lasso.Xml.XsdTime

/-!
# Times in XML, written and read

`lasso_time_to_iso_8601_gmt` writes a time as a date and a time of day in UTC. The reader gives it
back, whatever fraction of a second is put behind it, and takes no other form of text.

## Main definitions

* `gmtime`, `strftime` — the functions of the C library, for the years from 1970 on.
* `timeToIso8601Gmt` — the function of `tools.c`.
* `IsIso8601Gmt` — the form of the texts that are read.

## Main results

* `timeCodec` — a time is read back, and a text of another form gives the sentinel.
-/

namespace Lasso

/-! ## Writing a time -/

/-- The year of a day, which is counted from 1970 on. -/
def yearOfDay (day : Nat) : Nat :=
  1970 + Nat.findGreatest (fun k => daysBeforeYear (1970 + k : Nat) ≤ day) (day / 365)

/-- The day in its year, from 0 on. -/
def dayOfYear (day : Nat) : Nat := (day - daysBeforeYear (yearOfDay day)).toNat

/-- The month of a day of a year. -/
def monthOfDay (year yday : Nat) : Nat :=
  Nat.findGreatest (fun month => daysBeforeMonth year month ≤ yday) 12

/-- `gmtime` -/
def gmtime (now : Nat) : Tm :=
  let day := now / 86400
  let year := yearOfDay day
  let month := monthOfDay year (dayOfYear day)
  { year
    month
    day := dayOfYear day - daysBeforeMonth year month + 1
    hour := now % 86400 / 3600
    minute := now % 3600 / 60
    second := now % 60 }

/-- A number that is written with two digits at least. -/
def twoDigits (n : Nat) : List Char :=
  if n < 10 then '0' :: Nat.toDigits 10 n else Nat.toDigits 10 n

/-- `strftime` with `%Y-%m-%dT%H:%M:%S` -/
def strftime (tm : Tm) : List Char :=
  Nat.toDigits 10 tm.year ++ '-' :: twoDigits tm.month ++ '-' :: twoDigits tm.day ++
    'T' :: twoDigits tm.hour ++ ':' :: twoDigits tm.minute ++ ':' :: twoDigits tm.second

/-- `lasso_time_to_iso_8601_gmt`; what does not fit into the 21 bytes leaves them undefined. -/
def timeToIso8601Gmt (now : Nat) : Option String :=
  let text := strftime (gmtime now) ++ ['Z']
  if text.length < 21 then some (String.ofList text) else none

/-! ## The form of a time -/

/-- A text fits a pattern in which every `d` stands for a digit. -/
def FitsDigits (pattern text : List Char) : Prop :=
  List.Forall₂ (fun f c => if f = 'd' then c.isDigit = true else c = f) pattern text

/-- `Z`, or a point and any number of digits before it -/
def IsFractionEnd (text : List Char) : Prop :=
  text = ['Z'] ∨ ∃ digits : List Char,
    (∀ c ∈ digits, c.isDigit = true) ∧ text = '.' :: digits ++ ['Z']

/-- `dddd-dd-ddTdd:dd:dd[.d*]Z` -/
def IsIso8601Gmt (text : List Char) : Prop :=
  ∃ seconds fractionEnd, text = seconds ++ fractionEnd ∧
    FitsDigits "dddd-dd-ddTdd:dd:dd".toList seconds ∧ IsFractionEnd fractionEnd

/-- A time with the digits of a fraction of a second put before the `Z`. -/
def withFraction (text : String) (digits : List Char) : String :=
  String.ofList (text.toList.dropLast ++ '.' :: digits ++ ['Z'])

/-! ## The calendar -/

theorem daysBeforeYear_succ (year : Nat) :
    daysBeforeYear (year + 1 : Nat) =
      daysBeforeYear year + 365 + if isLeapYear year then 1 else 0 := by
  unfold daysBeforeYear isLeapYear
  by_cases h4 : year % 4 = 0 <;> by_cases h100 : year % 100 = 0 <;>
    by_cases h400 : year % 400 = 0 <;> simp [h4, h100, h400] <;> omega

theorem le_daysBeforeYear (k : Nat) : (365 * k : Nat) ≤ daysBeforeYear (1970 + k : Nat) := by
  induction k with
  | zero => decide
  | succ k ih =>
    have hsucc := daysBeforeYear_succ (1970 + k)
    rw [← Nat.add_assoc]
    split_ifs at hsucc <;> omega

/-- A day lies in its year. -/
theorem yearOfDay_spec (day : Nat) :
    daysBeforeYear (yearOfDay day) ≤ day ∧
      (day : Int) < daysBeforeYear (yearOfDay day + 1 : Nat) := by
  let Started (k : Nat) : Prop := daysBeforeYear (1970 + k : Nat) ≤ day
  have hstart : Started 0 := by
    have hzero : daysBeforeYear (1970 + 0 : Nat) = 0 := by decide
    show daysBeforeYear (1970 + 0 : Nat) ≤ day
    omega
  refine ⟨Nat.findGreatest_spec (P := Started) (Nat.zero_le (day / 365)) hstart, ?_⟩
  by_contra hlater
  have hnext : Started (Nat.findGreatest Started (day / 365) + 1) := not_lt.mp hlater
  rcases Nat.lt_or_ge (day / 365) (Nat.findGreatest Started (day / 365) + 1) with hlast | hwithin
  · have hle := le_daysBeforeYear (Nat.findGreatest Started (day / 365) + 1)
    have hday : (365 * (Nat.findGreatest Started (day / 365) + 1) : Nat) ≤ (day : Int) :=
      hle.trans hnext
    omega
  · exact Nat.findGreatest_is_greatest (Nat.lt_succ_self _) hwithin hnext

theorem dayOfYear_lt (day : Nat) :
    dayOfYear day < 365 + if isLeapYear (yearOfDay day) then 1 else 0 := by
  obtain ⟨hle, hlt⟩ := yearOfDay_spec day
  rw [daysBeforeYear_succ] at hlt
  unfold dayOfYear
  split_ifs at hlt ⊢ <;> omega

/-- The days before a year and the day in the year make up the day. -/
theorem daysBeforeYear_add_dayOfYear (day : Nat) :
    daysBeforeYear (yearOfDay day) + dayOfYear day = day := by
  have hle := (yearOfDay_spec day).1
  unfold dayOfYear
  omega

/-- No month has more than 31 days. -/
theorem daysBeforeMonth_succ_le {year month : Nat} (hlow : 1 ≤ month) (hhigh : month < 12) :
    daysBeforeMonth year (month + 1) ≤ daysBeforeMonth year month + 31 := by
  unfold daysBeforeMonth
  cases isLeapYear year <;> interval_cases month <;> simp

theorem daysBeforeMonth_december (year : Nat) :
    daysBeforeMonth year 12 + 31 = 365 + if isLeapYear year then 1 else 0 := by
  unfold daysBeforeMonth
  cases isLeapYear year <;> rfl

/-- A day of a year lies in its month. -/
theorem monthOfDay_spec {year yday : Nat} (h : yday < 365 + if isLeapYear year then 1 else 0) :
    1 ≤ monthOfDay year yday ∧ monthOfDay year yday ≤ 12 ∧
      daysBeforeMonth year (monthOfDay year yday) ≤ yday ∧
      yday < daysBeforeMonth year (monthOfDay year yday) + 31 := by
  let Started (month : Nat) : Prop := daysBeforeMonth year month ≤ yday
  have hfirst : Started 1 := by
    show daysBeforeMonth year 1 ≤ yday
    simp [daysBeforeMonth]
  have hlow : 1 ≤ monthOfDay year yday := Nat.le_findGreatest (P := Started) (by decide) hfirst
  have hhigh : monthOfDay year yday ≤ 12 := Nat.findGreatest_le 12
  refine ⟨hlow, hhigh, Nat.findGreatest_spec (P := Started) (by decide : 1 ≤ 12) hfirst, ?_⟩
  rcases Nat.lt_or_ge (monthOfDay year yday) 12 with hlt | hge
  · have hnext : ¬ daysBeforeMonth year (monthOfDay year yday + 1) ≤ yday :=
      Nat.findGreatest_is_greatest (P := Started) (Nat.lt_succ_self _) hlt
    have hle := @daysBeforeMonth_succ_le year _ hlow hlt
    omega
  · obtain hdecember : monthOfDay year yday = 12 := Nat.le_antisymm hhigh hge
    rw [hdecember, daysBeforeMonth_december]
    exact h

/-! ## A time taken apart -/

/-- The members of a time of day and a date that are within their bounds. -/
structure Tm.InRange (tm : Tm) : Prop where
  year : tm.year ≤ 9999
  month : 1 ≤ tm.month ∧ tm.month ≤ 12
  day : 1 ≤ tm.day ∧ tm.day ≤ 31
  hour : tm.hour ≤ 23
  minute : tm.minute ≤ 59
  second : tm.second ≤ 59

/-- The first second after the year 9999 -/
def endOfYear9999 : Nat := 253402300800

theorem yearOfDay_le {day : Nat} (h : day < endOfYear9999 / 86400) : yearOfDay day ≤ 9999 := by
  have hle := (yearOfDay_spec day).1
  have hend : daysBeforeYear (10000 : Nat) = (endOfYear9999 / 86400 : Nat) := by decide
  by_contra hlate
  have hmono : daysBeforeYear (10000 : Nat) ≤ daysBeforeYear (yearOfDay day) := by
    unfold daysBeforeYear
    omega
  omega

theorem gmtime_inRange {now : Nat} (h : now < endOfYear9999) : (gmtime now).InRange := by
  have hyday := dayOfYear_lt (now / 86400)
  obtain ⟨hlow, hhigh, hle, hlt⟩ := monthOfDay_spec hyday
  have hday : now / 86400 < endOfYear9999 / 86400 := by
    unfold endOfYear9999 at *
    omega
  refine ⟨yearOfDay_le hday, ⟨hlow, hhigh⟩, ?_, ?_, ?_, ?_⟩ <;> unfold gmtime <;> dsimp only <;>
    omega

/-- A time that was taken apart is put together again. -/
theorem timegm_gmtime (now : Nat) : timegm (gmtime now) = now := by
  have hyday := daysBeforeYear_add_dayOfYear (now / 86400)
  obtain ⟨-, -, hle, -⟩ := monthOfDay_spec (dayOfYear_lt (now / 86400))
  unfold timegm gmtime
  dsimp only
  omega

/-! ## A time read back -/

theorem digits?_toDigits (n : Nat) : digits? (Nat.toDigits 10 n) = some n := by
  have hall : (Nat.toDigits 10 n).all Char.isDigit = true :=
    List.all_eq_true.mpr fun c hc => Nat.isDigit_of_mem_toDigits (by omega) (by omega) hc
  rw [digits?, if_pos hall]
  exact congrArg some Nat.ofDigitChars_ten_toDigits

theorem field?_toDigits {n low high : Nat} (hlow : low ≤ n) (hhigh : n ≤ high) :
    field? (Nat.toDigits 10 n) low high = some n := by
  simp [field?, digits?_toDigits, hlow, hhigh]

theorem digits?_twoDigits (n : Nat) : digits? (twoDigits n) = some n := by
  unfold twoDigits
  split_ifs with h
  · have hzero : digits? ('0' :: Nat.toDigits 10 n) = digits? (Nat.toDigits 10 n) := by
      simp [digits?]
    rw [hzero, digits?_toDigits]
  · exact digits?_toDigits n

theorem field?_twoDigits {n low high : Nat} (hlow : low ≤ n) (hhigh : n ≤ high) :
    field? (twoDigits n) low high = some n := by
  simp [field?, digits?_twoDigits, hlow, hhigh]

theorem length_twoDigits {n : Nat} (h : n < 100) : (twoDigits n).length = 2 := by
  unfold twoDigits
  split_ifs with hsmall
  · rw [Nat.toDigits_of_lt_base hsmall]
    rfl
  · rw [Nat.toDigits_of_base_le (by omega) (by omega), Nat.toDigits_of_lt_base (by omega)]
    rfl

theorem length_toDigits_year {year : Nat} (hlow : 1000 ≤ year) (hhigh : year ≤ 9999) :
    (Nat.toDigits 10 year).length = 4 := by
  have hle := (Nat.length_toDigits_le_iff (n := year) (k := 4) (b := 10) (by decide)
    (by decide)).mpr (by omega)
  have hnot : ¬ (Nat.toDigits 10 year).length ≤ 3 := fun hshort => by
    have hlt := (Nat.length_toDigits_le_iff (b := 10) (by decide) (by decide)).mp hshort
    omega
  omega

/-- Numbers of the full width are read one after the other. -/
theorem strptime_fields {year month day hour minute second : List Char} (rest : List Char)
    (hyear : year.length = 4) (hmonth : month.length = 2) (hday : day.length = 2)
    (hhour : hour.length = 2) (hminute : minute.length = 2) (hsecond : second.length = 2) :
    strptime (year ++ '-' :: month ++ '-' :: day ++ 'T' :: hour ++ ':' :: minute ++
        ':' :: second ++ rest) = (do
      let year ← field? year 0 9999
      let month ← field? month 1 12
      let day ← field? day 1 31
      let hour ← field? hour 0 23
      let minute ← field? minute 0 59
      let second ← field? second 0 60
      return ({ year, month, day, hour, minute, second }, rest)) := by
  obtain ⟨y₁, y₂, y₃, y₄, rfl⟩ := List.length_eq_four.mp hyear
  obtain ⟨m₁, m₂, rfl⟩ := List.length_eq_two.mp hmonth
  obtain ⟨d₁, d₂, rfl⟩ := List.length_eq_two.mp hday
  obtain ⟨h₁, h₂, rfl⟩ := List.length_eq_two.mp hhour
  obtain ⟨n₁, n₂, rfl⟩ := List.length_eq_two.mp hminute
  obtain ⟨s₁, s₂, rfl⟩ := List.length_eq_two.mp hsecond
  rfl

/-- What was written is read, up to the text behind it. -/
theorem strptime_strftime {tm : Tm} (h : tm.InRange) (hyear : 1000 ≤ tm.year) (rest : List Char) :
    strptime (strftime tm ++ rest) = some (tm, rest) := by
  have hmonth := h.month
  have hday := h.day
  have hhour := h.hour
  have hminute := h.minute
  have hsecond := h.second
  rw [strftime, strptime_fields rest (length_toDigits_year hyear h.year)
    (length_twoDigits (by omega)) (length_twoDigits (by omega)) (length_twoDigits (by omega))
    (length_twoDigits (by omega)) (length_twoDigits (by omega)),
    field?_toDigits (Nat.zero_le _) h.year, field?_twoDigits hmonth.1 hmonth.2,
    field?_twoDigits hday.1 hday.2, field?_twoDigits (Nat.zero_le _) hhour,
    field?_twoDigits (Nat.zero_le _) hminute, field?_twoDigits (Nat.zero_le _) (by omega)]
  rfl

theorem IsFractionEnd.matches {text : List Char} (h : IsFractionEnd text) :
    xsdtimeMatchFormat ['Z'] text = true ∨ xsdtimeMatchFormat ['.', '?', 'Z'] text = true := by
  rcases h with rfl | ⟨digits, hdigits, rfl⟩
  · exact .inl rfl
  · have hdrop : (digits ++ ['Z']).dropWhile Char.isDigit = ['Z'] := by
      rw [List.dropWhile_append_of_pos hdigits]
      rfl
    have hfraction : fractionBefore ('.' :: digits ++ ['Z']) =
        some (decimalFraction ((digits ++ ['Z']).takeWhile Char.isDigit)) := by
      rw [List.cons_append, fractionBefore, if_pos hdrop]
    exact (match_of_fractionBefore hfraction).1

theorem iso8601GmtToTimeT_of_strptime {text rest : List Char} {tm : Tm}
    (hread : strptime text = some (tm, rest)) (hrest : IsFractionEnd rest) :
    iso8601GmtToTimeT (String.ofList text) = timegm tm := by
  have hformat : (xsdtimeMatchFormat xsdtimeFormat1 text ||
      xsdtimeMatchFormat xsdtimeFormat2 text) = true := by
    rw [Bool.or_eq_true]
    exact hrest.matches.imp (xsdtimeMatchFormat_of_strptime hread)
      (xsdtimeMatchFormat_of_strptime hread)
  rw [iso8601GmtToTimeT, String.toList_ofList, if_pos hformat, hread]

/-! ## The texts that are read -/

theorem isFractionEnd_of_matches {text : List Char}
    (h : xsdtimeMatchFormat ['Z'] text = true ∨ xsdtimeMatchFormat ['.', '?', 'Z'] text = true) :
    IsFractionEnd text := by
  rcases h with h | h
  · exact .inl (xsdtimeMatchFormat_Z h)
  · obtain ⟨rest, rfl, h⟩ := xsdtimeMatchFormat_plain (by decide) (by decide) h
    have hdrop := xsdtimeMatchFormat_Z (xsdtimeMatchFormat_any h)
    refine .inr ⟨rest.takeWhile Char.isDigit, fun c hc => List.mem_takeWhile_imp hc, ?_⟩
    rw [List.cons_append, ← hdrop, List.takeWhile_append_dropWhile]

/-- Only a text of the form of a time is read. -/
theorem isIso8601Gmt_of_read {text : String} (h : iso8601GmtToTimeT text ≠ -1) :
    IsIso8601Gmt text.toList := by
  unfold iso8601GmtToTimeT at h
  split_ifs at h with hformat
  · cases hread : strptime text.toList with
    | none => simp [hread] at h
    | some read =>
      obtain ⟨tm, rest⟩ := read
      obtain ⟨seconds, htext, hseconds⟩ := strptime_seconds hread
      refine ⟨seconds, rest, htext, hseconds, isFractionEnd_of_matches ?_⟩
      rw [htext, Bool.or_eq_true] at hformat
      have hlength := hseconds.length_eq
      exact hformat.imp
        (xsdtimeMatchFormat_append "dddd-dd-ddTdd:dd:dd".toList hlength (by decide))
        (xsdtimeMatchFormat_append "dddd-dd-ddTdd:dd:dd".toList hlength (by decide))
  · exact absurd rfl h

/-- A time up to the end of the year 9999 is written, and read back, also with a fraction of a
second; a text that has not the form of a time gives the sentinel. -/
theorem timeCodec :
    (∀ now < endOfYear9999, ∃ text, timeToIso8601Gmt now = some text ∧
      iso8601GmtToTimeT text = now ∧
      ∀ digits : List Char, (∀ c ∈ digits, c.isDigit = true) →
        iso8601GmtToTimeT (withFraction text digits) = now) ∧
    ∀ text : String, ¬ IsIso8601Gmt text.toList → iso8601GmtToTimeT text = -1 := by
  constructor
  · intro now hnow
    have hrange := gmtime_inRange hnow
    have hyear : 1970 ≤ (gmtime now).year := Nat.le_add_right 1970 _
    have hread (rest : List Char) : strptime (strftime (gmtime now) ++ rest) =
        some (gmtime now, rest) := strptime_strftime hrange (by omega) rest
    have hlength : (strftime (gmtime now) ++ ['Z']).length < 21 := by
      obtain ⟨seconds, htext, hseconds⟩ := strptime_seconds (hread [])
      have hpattern := hseconds.length_eq
      rw [List.append_nil, List.append_nil] at htext
      rw [htext, List.length_append, ← hpattern]
      decide
    refine ⟨_, if_pos hlength, ?_, ?_⟩
    · rw [iso8601GmtToTimeT_of_strptime (hread ['Z']) (.inl rfl), timegm_gmtime]
    · intro digits hdigits
      rw [withFraction, String.toList_ofList, List.dropLast_concat, List.append_assoc,
        iso8601GmtToTimeT_of_strptime (hread _) (.inr ⟨digits, hdigits, rfl⟩), timegm_gmtime]
  · intro text htext
    by_contra hread
    exact htext (isIso8601Gmt_of_read hread)

theorem timeCodec_epoch : iso8601GmtToTimeT "1970-01-01T00:00:00.25Z" = 0 := by
  obtain ⟨text, htext, -, hfraction⟩ := timeCodec.1 0 (by decide)
  have hepoch : timeToIso8601Gmt 0 = some "1970-01-01T00:00:00Z" := rfl
  obtain rfl := Option.some.inj (hepoch.symm.trans htext)
  exact hfraction "25".toList (by simp)

end Lasso
