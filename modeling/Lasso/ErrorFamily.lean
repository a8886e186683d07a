import Lasso.ErrorCode

/-!
# Families of return codes

Some profiles return codes of a family of their own beside the common ones. The numbers behind two
families are disjoint, so that a code is one of the common ones or one of the family.
-/

namespace Lasso

/-- A return code of a profile whose own codes are `ε`. -/
inductive FamilyRc (ε : Type) where
  | common (rc : Rc)
  | own (e : ε)
deriving DecidableEq

namespace FamilyRc

variable {ε : Type}

instance : Coe Rc (FamilyRc ε) := ⟨.common⟩

/-- `0` -/
abbrev ok : FamilyRc ε := .common .ok

@[simp] theorem own_ne_ok (e : ε) : (own e : FamilyRc ε) ≠ ok := by simp [ok]

end FamilyRc

/-- `LASSO_DEFEDERATION_ERROR_*` -/
inductive DefederationError where
  | missingNameIdentifier
deriving DecidableEq

end Lasso
