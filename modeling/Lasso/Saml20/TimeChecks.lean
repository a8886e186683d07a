import Lasso.Saml20.Conditions
import Mathlib.Tactic.Linarith
import Mathlib.Tactic.NormNum

/-!
# The time window of an assertion

`lasso_saml2_assertion_validate_time_checks` moves the bounds by the tolerance before it looks
whether they could be read, and reads them to the second. The window is about the instants that the
bounds stand for.

## Main definitions

* `TimeWindow` — the verdict that the bounds ask for.
* `SentinelApart` — the bounds for which the sentinel of an unreadable one is told apart.

## Main results

* `timeWindow_iff_sentinelApart` — the verdict is the one asked for if and only if they are.
-/

namespace Lasso

/-- The bound is there and no time. -/
def Unparsable (bound : Option String) : Prop := ∃ xsdtime ∈ bound, xsdInstant xsdtime = none

/-- `NotBefore` has come, with the tolerance. -/
def Started (notBefore : Option String) (tolerance : Nat) (now : Int) : Prop :=
  ∀ xsdtime ∈ notBefore, ∀ instant ∈ xsdInstant xsdtime, instant - tolerance ≤ (now : ℚ)

/-- `NotOnOrAfter` is still to come, with the tolerance. -/
def NotEnded (notOnOrAfter : Option String) (tolerance : Nat) (now : Int) : Prop :=
  ∀ xsdtime ∈ notOnOrAfter, ∀ instant ∈ xsdInstant xsdtime,
    (now : ℚ) < instant + tolerance

/-- The verdict that two bounds ask for. -/
structure TimeWindow (notBefore notOnOrAfter : Option String) (tolerance : Nat) (now : Int)
    (state : ValidationState) : Prop where
  indeterminate : state = .indeterminate ↔ Unparsable notBefore ∨ Unparsable notOnOrAfter
  valid : ¬ (Unparsable notBefore ∨ Unparsable notOnOrAfter) →
    (state = .valid ↔ Started notBefore tolerance now ∧ NotEnded notOnOrAfter tolerance now)

/-! ## Bounds to the second -/

/-- The bound is a time in the given second. -/
def InSecond (bound : Option String) (second : Int) : Prop :=
  ∃ xsdtime ∈ bound, xsdInstant xsdtime ≠ none ∧ iso8601GmtToTimeT xsdtime = second

/-- The bound is a time after the start of the given second and before its end. -/
def WithinSecond (bound : Option String) (second : Int) : Prop :=
  ∃ xsdtime ∈ bound, iso8601GmtToTimeT xsdtime = second ∧
    ∃ instant ∈ xsdInstant xsdtime, (second : ℚ) < instant

/-- The second of `NotBefore` has come, with the tolerance. -/
def SecondStarted (notBefore : Option String) (tolerance : Nat) (now : Int) : Prop :=
  ∀ xsdtime ∈ notBefore, iso8601GmtToTimeT xsdtime - tolerance ≤ now

/-- The second of `NotOnOrAfter` is still to come, with the tolerance. -/
def SecondNotEnded (notOnOrAfter : Option String) (tolerance : Nat) (now : Int) : Prop :=
  ∀ xsdtime ∈ notOnOrAfter, now < iso8601GmtToTimeT xsdtime + tolerance

/-- An unreadable bound is met as `-1` after it was moved, a readable one is not, and no bound with
a fraction falls within the second that decides. -/
def SentinelApart (notBefore notOnOrAfter : Option String) (tolerance : Nat) (now : Int) : Prop :=
  (Unparsable notBefore →
    tolerance = 0 ∨ -1 - (tolerance : Int) ≤ now ∧ InSecond notOnOrAfter (-1 - tolerance)) ∧
  (¬ Unparsable notBefore → Unparsable notOnOrAfter →
    InSecond notBefore (tolerance - 1) ∨
      tolerance = 0 ∧ SecondStarted notBefore tolerance now) ∧
  (¬ Unparsable notBefore → ¬ Unparsable notOnOrAfter →
    ¬ InSecond notBefore (tolerance - 1) ∧
    ¬ (SecondStarted notBefore tolerance now ∧ InSecond notOnOrAfter (-1 - tolerance)) ∧
    ¬ (WithinSecond notBefore (now + tolerance) ∧ SecondNotEnded notOnOrAfter tolerance now) ∧
    ¬ (WithinSecond notOnOrAfter (now - tolerance) ∧ Started notBefore tolerance now))

section

variable {xsdtime : String} {tolerance : Nat} {now second : Int} {fraction : ℚ}

theorem started_second (hnonneg : 0 ≤ fraction) (hlt : fraction < 1) :
    (second : ℚ) + fraction - tolerance ≤ now ↔
      second - tolerance < now ∨ second - tolerance = now ∧ fraction = 0 := by
  constructor
  · intro h
    have hle : second - tolerance ≤ now := by
      have : ((second - tolerance : Int) : ℚ) ≤ (now : ℚ) := by
        push_cast
        linarith
      exact_mod_cast this
    rcases hle.lt_or_eq with hlt' | heq
    · exact .inl hlt'
    · refine .inr ⟨heq, le_antisymm ?_ hnonneg⟩
      have : ((second - tolerance : Int) : ℚ) = (now : ℚ) := by exact_mod_cast heq
      push_cast at this
      linarith
  · rintro (h | ⟨h, rfl⟩)
    · have : ((second - tolerance + 1 : Int) : ℚ) ≤ (now : ℚ) := by exact_mod_cast h
      push_cast at this
      linarith
    · have : ((second - tolerance : Int) : ℚ) = (now : ℚ) := by exact_mod_cast h
      push_cast at this
      linarith

theorem notEnded_second (hnonneg : 0 ≤ fraction) (hlt : fraction < 1) :
    (now : ℚ) < second + fraction + tolerance ↔
      now < second + tolerance ∨ now = second + tolerance ∧ fraction ≠ 0 := by
  have h := @started_second tolerance now (second + tolerance + tolerance) fraction hnonneg hlt
  have hcast : (now : ℚ) < second + fraction + tolerance ↔
      ¬ (((second + tolerance + tolerance : Int) : ℚ) + fraction - tolerance ≤ now) := by
    push_cast
    rw [not_le]
    constructor <;> intro hlt <;> linarith
  rw [hcast, h]
  by_cases hzero : fraction = 0
  · simp only [hzero, ne_eq, not_true_eq_false, and_false, or_false, and_true]
    omega
  · simp only [hzero, ne_eq, not_false_eq_true, and_true, and_false, or_false]
    omega

end

/-! ## How a bound is met -/

/-- The bound is a time: the second that is read, and a fraction. -/
structure ReadsAs (bound : Option String) (second : Int) (fraction : ℚ) : Prop where
  nonneg : 0 ≤ fraction
  lt_one : fraction < 1
  read : ∃ xsdtime, bound = some xsdtime ∧ iso8601GmtToTimeT xsdtime = second ∧
    xsdInstant xsdtime = some (second + fraction)

/-- A bound is absent, unparsable or a time. -/
theorem bound_cases (bound : Option String) :
    bound = none ∨ Unparsable bound ∨ ∃ second fraction, ReadsAs bound second fraction := by
  cases bound with
  | none => exact .inl rfl
  | some xsdtime =>
    rcases xsdInstant_cases xsdtime with ⟨hnone, -⟩ | ⟨fraction, hnonneg, hlt, hsome⟩
    · exact .inr (.inl ⟨xsdtime, rfl, hnone⟩)
    · exact .inr (.inr ⟨_, fraction, hnonneg, hlt, xsdtime, rfl, rfl, hsome⟩)

namespace ReadsAs

variable {bound : Option String} {second t : Int} {fraction : ℚ} {tolerance : Nat} {now : Int}

theorem not_unparsable (h : ReadsAs bound second fraction) : ¬ Unparsable bound := by
  obtain ⟨xsdtime, rfl, -, hinstant⟩ := h.read
  simp [Unparsable, hinstant]

theorem inSecond (h : ReadsAs bound second fraction) : InSecond bound t ↔ second = t := by
  obtain ⟨xsdtime, rfl, rfl, hinstant⟩ := h.read
  simp [InSecond, hinstant]

theorem withinSecond (h : ReadsAs bound second fraction) :
    WithinSecond bound t ↔ second = t ∧ fraction ≠ 0 := by
  obtain ⟨xsdtime, rfl, rfl, hinstant⟩ := h.read
  simp only [WithinSecond, Option.mem_def, Option.some.injEq, exists_eq_left', hinstant]
  refine and_congr_right ?_
  rintro rfl
  rw [lt_add_iff_pos_right]
  exact h.nonneg.lt_iff_ne.trans ne_comm

theorem started (h : ReadsAs bound second fraction) : Started bound tolerance now ↔
    second - tolerance < now ∨ second - tolerance = now ∧ fraction = 0 := by
  obtain ⟨xsdtime, rfl, -, hinstant⟩ := h.read
  rw [← started_second h.nonneg h.lt_one]
  simp [Started, hinstant]

theorem notEnded (h : ReadsAs bound second fraction) : NotEnded bound tolerance now ↔
    now < second + tolerance ∨ now = second + tolerance ∧ fraction ≠ 0 := by
  obtain ⟨xsdtime, rfl, -, hinstant⟩ := h.read
  rw [← notEnded_second h.nonneg h.lt_one]
  simp [NotEnded, hinstant]

theorem secondStarted (h : ReadsAs bound second fraction) :
    SecondStarted bound tolerance now ↔ second - tolerance ≤ now := by
  obtain ⟨xsdtime, rfl, rfl, -⟩ := h.read
  simp [SecondStarted]

theorem secondNotEnded (h : ReadsAs bound second fraction) :
    SecondNotEnded bound tolerance now ↔ now < second + tolerance := by
  obtain ⟨xsdtime, rfl, rfl, -⟩ := h.read
  simp [SecondNotEnded]

theorem checkNotBefore (h : ReadsAs bound second fraction) :
    checkNotBefore bound tolerance now =
      if second - tolerance = -1 then .indeterminate
      else if now < second - tolerance then .invalid else .valid := by
  obtain ⟨xsdtime, rfl, rfl, -⟩ := h.read
  rfl

theorem checkNotOnOrAfter (h : ReadsAs bound second fraction) :
    checkNotOnOrAfter bound tolerance now =
      if second + tolerance = -1 then .indeterminate
      else if second + tolerance ≤ now then .invalid else .valid := by
  obtain ⟨xsdtime, rfl, rfl, -⟩ := h.read
  rfl

end ReadsAs

namespace Unparsable

variable {bound : Option String} {tolerance : Nat} {now : Int}

theorem not_inSecond (h : Unparsable bound) (t : Int) : ¬ InSecond bound t := by
  obtain ⟨xsdtime, rfl, hnone⟩ := h
  simp [InSecond, hnone]

theorem checkNotBefore (h : Unparsable bound) : checkNotBefore bound tolerance now =
    if (tolerance : Int) = 0 then .indeterminate
    else if now < -1 - tolerance then .invalid else .valid := by
  obtain ⟨xsdtime, rfl, hnone⟩ := h
  have hread : iso8601GmtToTimeT xsdtime = -1 :=
    (xsdInstant_cases xsdtime).elim And.right fun ⟨_, _, _, hsome⟩ =>
      nomatch hnone.symm.trans hsome
  have hzero : (-1 : Int) - tolerance = -1 ↔ (tolerance : Int) = 0 := by omega
  simp only [Lasso.checkNotBefore, hread, hzero]

theorem checkNotOnOrAfter (h : Unparsable bound) : checkNotOnOrAfter bound tolerance now =
    if (tolerance : Int) = 0 then .indeterminate
    else if -1 + tolerance ≤ now then .invalid else .valid := by
  obtain ⟨xsdtime, rfl, hnone⟩ := h
  have hread : iso8601GmtToTimeT xsdtime = -1 :=
    (xsdInstant_cases xsdtime).elim And.right fun ⟨_, _, _, hsome⟩ =>
      nomatch hnone.symm.trans hsome
  have hzero : (-1 : Int) + tolerance = -1 ↔ (tolerance : Int) = 0 := by omega
  simp only [Lasso.checkNotOnOrAfter, hread, hzero]

end Unparsable

/-! ## The verdict -/

/-- The verdict of the two checks, one after the other. -/
def checkBounds (notBefore notOnOrAfter : Option String) (tolerance : Nat) (now : Int) :
    ValidationState :=
  match checkNotBefore notBefore tolerance now with
  | .valid => checkNotOnOrAfter notOnOrAfter tolerance now
  | state => state

theorem timeWindow_iff {notBefore notOnOrAfter : Option String} {tolerance : Nat} {now : Int}
    {state : ValidationState} :
    TimeWindow notBefore notOnOrAfter tolerance now state ↔
      (state = .indeterminate ↔ Unparsable notBefore ∨ Unparsable notOnOrAfter) ∧
      (¬ (Unparsable notBefore ∨ Unparsable notOnOrAfter) →
        (state = .valid ↔
          Started notBefore tolerance now ∧ NotEnded notOnOrAfter tolerance now)) :=
  ⟨fun h => ⟨h.indeterminate, h.valid⟩, fun h => ⟨h.1, h.2⟩⟩

section

variable {notBefore notOnOrAfter : Option String} {tolerance : Nat} {now : Int}

theorem not_unparsable_none : ¬ Unparsable none := by simp [Unparsable]

theorem timeWindow_of_none :
    TimeWindow none notOnOrAfter tolerance now (checkBounds none notOnOrAfter tolerance now) ↔
      SentinelApart none notOnOrAfter tolerance now := by
  have hchecks : checkBounds none notOnOrAfter tolerance now =
      checkNotOnOrAfter notOnOrAfter tolerance now := rfl
  have hstarted : Started none tolerance now := by simp [Started]
  have hsecond : SecondStarted none tolerance now := by simp [SecondStarted]
  have hin (t : Int) : ¬ InSecond none t := by simp [InSecond]
  have hwithin (t : Int) : ¬ WithinSecond none t := by simp [WithinSecond]
  rw [timeWindow_iff, SentinelApart, hchecks]
  rcases bound_cases notOnOrAfter with rfl | hbad | ⟨second, fraction, hread⟩
  · simp [checkNotOnOrAfter, not_unparsable_none, hstarted, hin, hwithin, NotEnded]
  · simp only [not_unparsable_none, hbad, hbad.checkNotOnOrAfter, hsecond, hin]
    grind
  · simp only [not_unparsable_none, hread.not_unparsable, hread.checkNotOnOrAfter, hstarted,
      hsecond, hin, hwithin, hread.inSecond, hread.withinSecond, hread.notEnded]
    grind

theorem timeWindow_of_unparsable (h : Unparsable notBefore) :
    TimeWindow notBefore notOnOrAfter tolerance now
        (checkBounds notBefore notOnOrAfter tolerance now) ↔
      SentinelApart notBefore notOnOrAfter tolerance now := by
  rw [timeWindow_iff, SentinelApart, checkBounds, h.checkNotBefore]
  rcases bound_cases notOnOrAfter with rfl | hbad | ⟨second, fraction, hread⟩
  · have hin (t : Int) : ¬ InSecond none t := by simp [InSecond]
    simp only [h, not_unparsable_none, hin, Lasso.checkNotOnOrAfter]
    grind
  · simp only [h, hbad, hbad.checkNotOnOrAfter, hbad.not_inSecond]
    grind
  · simp only [h, hread.not_unparsable, hread.checkNotOnOrAfter, hread.inSecond]
    grind

theorem timeWindow_of_readsAs {second : Int} {fraction : ℚ}
    (h : ReadsAs notBefore second fraction) :
    TimeWindow notBefore notOnOrAfter tolerance now
        (checkBounds notBefore notOnOrAfter tolerance now) ↔
      SentinelApart notBefore notOnOrAfter tolerance now := by
  rw [timeWindow_iff, SentinelApart, checkBounds, h.checkNotBefore]
  simp only [h.not_unparsable, h.inSecond, h.withinSecond, h.started, h.secondStarted]
  rcases bound_cases notOnOrAfter with rfl | hbad | ⟨second', fraction', hread⟩
  · have hin (t : Int) : ¬ InSecond none t := by simp [InSecond]
    have hwithin (t : Int) : ¬ WithinSecond none t := by simp [WithinSecond]
    have hnotEnded : NotEnded none tolerance now := by simp [NotEnded]
    have hsecond : SecondNotEnded none tolerance now := by simp [SecondNotEnded]
    simp only [not_unparsable_none, hin, hwithin, hnotEnded, hsecond, Lasso.checkNotOnOrAfter]
    grind
  · simp only [hbad, hbad.checkNotOnOrAfter]
    grind
  · simp only [hread.not_unparsable, hread.checkNotOnOrAfter, hread.inSecond, hread.withinSecond,
      hread.notEnded, hread.secondNotEnded]
    grind

theorem timeWindow_checkBounds (notBefore notOnOrAfter : Option String) (tolerance : Nat)
    (now : Int) :
    TimeWindow notBefore notOnOrAfter tolerance now
        (checkBounds notBefore notOnOrAfter tolerance now) ↔
      SentinelApart notBefore notOnOrAfter tolerance now := by
  rcases bound_cases notBefore with rfl | hbad | ⟨second, fraction, hread⟩
  · exact timeWindow_of_none
  · exact timeWindow_of_unparsable hbad
  · exact timeWindow_of_readsAs hread

end

/-- A bound in the conditions of an assertion. -/
def ParsedNode.timeBound (assertion : ParsedNode) (name : String) : Option String :=
  (assertion.subnode "Conditions").bind (·.content name)

/-- An assertion with a `NotBefore`. -/
def assertionFrom (notBefore : String) : ParsedNode :=
  .mk "LassoSaml2Assertion" [.node "Conditions" (some
    (.mk "LassoSaml2Conditions" [.content "NotBefore" notBefore]))]

end Lasso
