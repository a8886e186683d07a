import Lasso.Xml.Stores
import Lasso.Xml.XsdTime

/-!
# The verdict on the conditions of an assertion

The functions of `saml2_helper.c` that judge the conditions of a parsed assertion.

## Main definitions

* `validateTimeChecks`, `validateAudience`, `validateConditions` — the checks.

## Main results

* `validateConditions_eq_valid` — what the verdict says of the parsed conditions.
-/

namespace Lasso

/-- `LassoSaml2AssertionValidationState` -/
inductive ValidationState where
  | valid | invalid | indeterminate
deriving DecidableEq

/-- The check of `NotBefore`. -/
def checkNotBefore (notBefore : Option String) (tolerance : Nat) (now : Int) : ValidationState :=
  match notBefore with
  | none => .valid
  | some xsdtime =>
    let a := iso8601GmtToTimeT xsdtime - tolerance
    if a = -1 then .indeterminate else if now < a then .invalid else .valid

/-- The check of `NotOnOrAfter`. -/
def checkNotOnOrAfter (notOnOrAfter : Option String) (tolerance : Nat) (now : Int) :
    ValidationState :=
  match notOnOrAfter with
  | none => .valid
  | some xsdtime =>
    let b := iso8601GmtToTimeT xsdtime + tolerance
    if b = -1 then .indeterminate else if b ≤ now then .invalid else .valid

/-- `lasso_saml2_assertion_validate_time_checks`; `time` is what `time` gives. -/
def validateTimeChecks (time : Int) (assertion : ParsedNode) (tolerance : Nat) (now : Int) :
    ValidationState :=
  match assertion.subnode "Conditions" with
  | none => .valid
  | some conditions =>
    let now := if now = 0 then time else now
    match checkNotBefore (conditions.content "NotBefore") tolerance now with
    | .valid => checkNotOnOrAfter (conditions.content "NotOnOrAfter") tolerance now
    | state => state

/-- `lasso_saml2_assertion_validate_audience` -/
def validateAudience (assertion : ParsedNode) (audience : Option String) : ValidationState :=
  match assertion.subnode "Conditions" with
  | none => .valid
  | some conditions =>
    let restrictions := conditions.subnodes "AudienceRestriction"
    let foundAudience := restrictions.any fun restriction =>
      decide (restriction.content "Audience" = audience)
    if !restrictions.isEmpty && !foundAudience then .invalid else .valid

/-- `lasso_saml2_assertion_validate_conditions` -/
def validateConditions (time : Int) (assertion : ParsedNode)
    (relyingPartyProviderID : Option String) : ValidationState :=
  match validateTimeChecks time assertion 0 0 with
  | .valid => validateAudience assertion relyingPartyProviderID
  | state => state

theorem checkNotBefore_eq_valid {notBefore : Option String} {tolerance : Nat} {now : Int} :
    checkNotBefore notBefore tolerance now = .valid ↔ ∀ xsdtime, notBefore = some xsdtime →
      iso8601GmtToTimeT xsdtime - tolerance ≠ -1 ∧ iso8601GmtToTimeT xsdtime - tolerance ≤ now := by
  cases notBefore with
  | none => simp [checkNotBefore]
  | some xsdtime =>
    simp only [checkNotBefore, Option.some.injEq, forall_eq']
    grind

theorem checkNotOnOrAfter_eq_valid {notOnOrAfter : Option String} {tolerance : Nat} {now : Int} :
    checkNotOnOrAfter notOnOrAfter tolerance now = .valid ↔
      ∀ xsdtime, notOnOrAfter = some xsdtime →
        iso8601GmtToTimeT xsdtime + tolerance ≠ -1 ∧
          now < iso8601GmtToTimeT xsdtime + tolerance := by
  cases notOnOrAfter with
  | none => simp [checkNotOnOrAfter]
  | some xsdtime =>
    simp only [checkNotOnOrAfter, Option.some.injEq, forall_eq']
    grind

/-- A valid assertion is within the times of its conditions, to the second, and one of its audience
restrictions names the relying party, if it has any. -/
theorem validateConditions_eq_valid {time : Int} {assertion : ParsedNode} {rp : Option String}
    {conditions : ParsedNode} (hconditions : assertion.subnode "Conditions" = some conditions) :
    validateConditions time assertion rp = .valid ↔
      (∀ xsdtime, conditions.content "NotBefore" = some xsdtime →
        iso8601GmtToTimeT xsdtime ≠ -1 ∧ iso8601GmtToTimeT xsdtime ≤ time) ∧
      (∀ xsdtime, conditions.content "NotOnOrAfter" = some xsdtime →
        iso8601GmtToTimeT xsdtime ≠ -1 ∧ time < iso8601GmtToTimeT xsdtime) ∧
      (conditions.subnodes "AudienceRestriction" = [] ∨
        ∃ restriction ∈ conditions.subnodes "AudienceRestriction",
          restriction.content "Audience" = rp) := by
  have hbefore := @checkNotBefore_eq_valid (conditions.content "NotBefore") 0 time
  have hafter := @checkNotOnOrAfter_eq_valid (conditions.content "NotOnOrAfter") 0 time
  simp only [Nat.cast_zero, sub_zero, add_zero] at hbefore hafter
  rw [← hbefore, ← hafter]
  simp only [validateConditions, validateTimeChecks, validateAudience, hconditions, if_true]
  cases checkNotBefore (conditions.content "NotBefore") 0 time with
  | valid =>
    cases checkNotOnOrAfter (conditions.content "NotOnOrAfter") 0 time with
    | valid => simp [or_iff_not_imp_left]
    | _ => simp
  | _ => simp

end Lasso
