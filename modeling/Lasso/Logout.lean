import Lasso.Profile

/-!
# Logout profiles

The state of single logout, of both protocols, and what the two versions of the validation of a
logout request share.
-/

namespace Lasso

structure Logout where
  profile : Profile := {}
  initialHttpRequestMethod : HttpMethod := .none
  initialRequest : Option LassoNode := none
  initialResponse : Option LassoNode := none
  initialRemoteProviderId : Option String := none
  partialLogout : Bool := false
  providerIdIndex : Nat := 0

/-- The session has an assertion of the provider, itself or by its index entries, which are all that
a thin session keeps. -/
def Session.holds (s : Session) (providerId : String) : Bool :=
  (s.getAssertion providerId).isSome || s.hasSloSession providerId

/-- An assertion of the first session is not in the second one. -/
def SessionLoses (before after : Option Session) : Prop :=
  ∃ providerId, before.any (·.holds providerId) = true ∧ after.any (·.holds providerId) = false

theorem not_sessionLoses_self (session : Option Session) : ¬ SessionLoses session session := by
  rintro ⟨providerId, hbefore, hafter⟩
  exact Bool.false_ne_true (hafter.symm.trans hbefore)

namespace Logout

/-- All providers of the server support SOAP, by the given check; the remote one, which has
initiated the logout, is not asked. -/
def allSoap (profile : Profile) (checkSoapSupport : Provider → Bool) : Bool :=
  profile.server.all fun server => server.providers.entries.all fun entry =>
    entry.2.providerId == profile.remoteProviderId || checkSoapSupport entry.2

/-- Remove the assertion of the remote provider. At an identity provider that has other sessions to
log out, keep the provider, the request and the response for later. -/
def removeRemoteAssertion (env : Env) (logout : Logout) (session : Session)
    (remoteProvider : Provider) : Logout :=
  let session := (session.removeAssertion logout.profile.remoteProviderId).2
  if remoteProvider.role = .sp ∧ session.countAssertions env ≥ 1 then
    { logout with
      initialRemoteProviderId := logout.profile.remoteProviderId
      initialRequest := logout.profile.request
      initialResponse := logout.profile.response
      profile := { logout.profile with
        session := some session, remoteProviderId := none, request := none, response := none } }
  else { logout with profile := { logout.profile with session := some session } }

/-! ## What a validation keeps -/

/-- The server, the signature status and, unless it is put aside, the request. -/
structure KeepsReceived (before after : Profile) : Prop where
  server : after.server = before.server
  signatureStatus : after.signatureStatus = before.signatureStatus
  request : after.request = before.request ∨ after.request = none

/-- A refused validation keeps the session besides. -/
structure Refuses (before after : Profile) : Prop extends KeepsReceived before after where
  session : after.session = before.session

/-- A validation refuses the request, or its conditions for a removal hold. -/
inductive ValidationOutcome (before : Profile) (conditions : Prop) (result : Rc × Logout) :
    Prop where
  | refused (hrc : result.1 ≠ .ok) (hrefuses : Refuses before result.2.profile)
  | accepted (hconditions : conditions) (hrc : result.1 = .ok)
      (hkeeps : KeepsReceived before result.2.profile)

theorem Refuses.of_eq {before after : Profile} (hserver : after.server = before.server)
    (hstatus : after.signatureStatus = before.signatureStatus)
    (hrequest : after.request = before.request) (hsession : after.session = before.session) :
    Refuses before after :=
  ⟨⟨hserver, hstatus, .inl hrequest⟩, hsession⟩

theorem ValidationOutcome.keepsReceived {before : Profile} {conditions : Prop}
    {result : Rc × Logout} (h : ValidationOutcome before conditions result) :
    KeepsReceived before result.2.profile := by
  cases h with
  | refused _ hrefuses => exact hrefuses.toKeepsReceived
  | accepted _ _ hkeeps => exact hkeeps

/-- An assertion is removed only under the conditions. -/
theorem ValidationOutcome.conditions_of_loses {before : Profile} {conditions : Prop}
    {result : Rc × Logout} (h : ValidationOutcome before conditions result)
    (hloses : SessionLoses before.session result.2.profile.session) : conditions := by
  cases h with
  | refused _ hrefuses =>
    rw [hrefuses.session] at hloses
    exact absurd hloses (not_sessionLoses_self _)
  | accepted hconditions _ _ => exact hconditions

theorem removeRemoteAssertion_keepsReceived (env : Env) (logout : Logout) (session : Session)
    (remoteProvider : Provider) :
    KeepsReceived logout.profile
      (removeRemoteAssertion env logout session remoteProvider).profile := by
  unfold removeRemoteAssertion
  dsimp only
  split_ifs
  · exact ⟨rfl, rfl, .inr rfl⟩
  · exact ⟨rfl, rfl, .inl rfl⟩

end Logout

end Lasso
