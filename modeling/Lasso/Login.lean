import Lasso.Profile

/-!
# Login profiles

The state of single sign-on, of both protocols and on both sides.
-/

namespace Lasso

/-- `LassoLoginProtocolProfile`; `none` is the zero of an unset field. -/
inductive LoginProtocolProfile where
  | none
  | brwsArt
  | brwsPost
  | brwsLecp
  | redirect
deriving DecidableEq

structure Login where
  profile : Profile := {}
  protocolProfile : LoginProtocolProfile := .none
  nameIdPolicy : Option String := none
  assertionArtifact : Option String := none
  soapRequestMsg : Option Bytes := none
  saml2Assertion : Option Saml2Assertion := none
  requestId : Option String := none

/-- The code for a top-level status other than Success, given the values for a denied request and
for an error that a second-level status may explain. -/
def responseStatusError (requestDenied : String) (errors : List String) (statusValue : String)
    (secondLevel : Option String) : Rc :=
  if statusValue = requestDenied then .login .requestDenied
  else if statusValue ∈ errors ∧ secondLevel = some libStatusCodeFederationDoesNotExist then
    .login .federationNotFound
  else if statusValue ∈ errors ∧ secondLevel = some libStatusCodeUnknownPrincipal then
    .login .unknownPrincipal
  else .login .statusNotSuccess

theorem responseStatusError_ne_ok (requestDenied : String) (errors : List String)
    (statusValue : String) (secondLevel : Option String) :
    responseStatusError requestDenied errors statusValue secondLevel ≠ .ok := by
  unfold responseStatusError
  split_ifs <;> simp

end Lasso
