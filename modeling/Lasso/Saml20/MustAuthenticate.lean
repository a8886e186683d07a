import Lasso.Saml20.Profile

/-!
# Single sign-on without authentication

`lasso_saml20_login_must_authenticate` lets a principal in on the session if an assertion of it
fits the authentication context that was asked for.

## Main definitions

* `mustAuthenticate` — the function of the source.
* `ReusesSession` — what a session must give for an authentication to be left out.

## Main results

* `reusesSession_iff` — when the function asks no authentication only where the session gives it.
-/

namespace Lasso

/-- `lasso_session_get_assertions`, in some order. -/
def Session.getAssertions (s : Session) : Option String → List LassoNode
  | none => s.assertions.entries.map (·.2)
  | some providerId => (s.getAssertion providerId).toList

namespace Saml20

/-- The comparisons of authentication contexts that the source knows. -/
inductive Comparison where
  | exact
  | minimum
  | better
  | maximum

/-- The values of `compa`. -/
def comparison? : Option String → Option Comparison
  | none => some .exact
  | some comparison =>
    if comparison = "exact" then some .exact
    else if comparison = "minimum" then some .minimum
    else if comparison = "better" then some .better
    else if comparison = "maximum" then some .maximum
    else none

/-- The comparison of the class of a statement with one that was asked for. The order of classes is
not implemented, so they are compared for equality in any case. -/
def classMatches (comparison : Option Comparison) (method : Option String) (classRef : String) :
    Bool :=
  match comparison with
  | some .exact | some .minimum | some .better | some .maximum => method == some classRef
  | none => false

/-- An assertion that is looked at: its first authentication statement counts. -/
def assertionMatches (comparison : Option Comparison) (classRef : String) : LassoNode → Bool
  | .saml2Assertion assertion =>
    match assertion.authnStatement.head?.bind (·.authnContext) with
    | none => false
    | some authnContext => classMatches comparison authnContext.authnContextClassRef classRef
  | _ => false

/-- The flag `matched` behind its loops. -/
def matchesSession (env : Env) (session : Option Session) (request : Samlp2AuthnRequest) : Bool :=
  match request.requestedAuthnContext with
  | some requested =>
    let assertions := session.elim [] (·.getAssertions none)
    requested.authnContextClassRef.isEmpty ||
      requested.authnContextClassRef.any fun classRef =>
        assertions.any (assertionMatches (comparison? requested.comparison) classRef)
  | none =>
    -- if nothing specific was asked, one assertion is enough
    session.any fun session => decide (0 < session.countAssertions env)

/-- `lasso_saml20_login_must_authenticate` -/
def mustAuthenticate (env : Env) (profile : Profile) : Bool × Profile :=
  match profile.request with
  | some (.samlp2AuthnRequest request) =>
    if request.forceAuthn && !request.isPassive then (true, profile)
    else if !matchesSession env profile.session request && !request.isPassive then (true, profile)
    else if profile.identity.isNone && request.isPassive then
      (false, setResponseStatusResponder profile saml2StatusCodeNoPassive)
    else (false, profile)
  | _ => (false, profile)

/-! ## What a session gives -/

/-- The session holds an assertion, or counts one that a thin session does not hold. -/
def HasAssertion (env : Env) (session : Option Session) : Prop :=
  ∃ s ∈ session, s.assertions.entries ≠ [] ∨ 0 < s.countAssertions env

/-- An assertion of the session has an authentication statement of this class. -/
def Authenticated (session : Option Session) (classRef : String) : Prop :=
  ∃ s ∈ session, ∃ providerId assertion,
    s.getAssertion providerId = some (.saml2Assertion assertion) ∧
    ∃ statement ∈ assertion.authnStatement, ∃ authnContext ∈ statement.authnContext,
      authnContext.authnContextClassRef = some classRef

/-- What must hold for a principal to be let in on the session. -/
structure ReusesSession (env : Env) (session : Option Session) (request : Samlp2AuthnRequest) :
    Prop where
  notForced : request.forceAuthn = false
  hasAssertion : HasAssertion env session
  authenticated : ∀ requested ∈ request.requestedAuthnContext,
    requested.authnContextClassRef ≠ [] →
      ∃ classRef ∈ requested.authnContextClassRef, Authenticated session classRef

section

variable {env : Env} {session : Option Session} {request : Samlp2AuthnRequest}

theorem mem_getAssertions {s : Session} {node : LassoNode} :
    node ∈ s.getAssertions none ↔ ∃ providerId, s.getAssertion providerId = some node := by
  simp only [Session.getAssertions, List.mem_map, Session.getAssertion]
  constructor
  · rintro ⟨entry, hentry, rfl⟩
    exact ⟨entry.1, AList.mem_lookup_iff.mpr hentry⟩
  · rintro ⟨providerId, hlookup⟩
    exact ⟨⟨providerId, node⟩, AList.mem_lookup_iff.mp hlookup, rfl⟩

theorem assertionMatches_eq_true {comparison : Option Comparison} {classRef : String}
    {node : LassoNode} (h : assertionMatches comparison classRef node = true) :
    ∃ assertion, node = .saml2Assertion assertion ∧
      ∃ statement ∈ assertion.authnStatement, ∃ authnContext ∈ statement.authnContext,
        authnContext.authnContextClassRef = some classRef := by
  cases node with
  | saml2Assertion assertion =>
    refine ⟨assertion, rfl, ?_⟩
    simp only [assertionMatches] at h
    split at h
    · cases h
    · rename_i authnContext hauthnContext
      obtain ⟨statement, hstatement, hcontext⟩ := Option.bind_eq_some_iff.mp hauthnContext
      refine ⟨statement, List.mem_of_head? hstatement, authnContext, hcontext, ?_⟩
      unfold classMatches at h
      split at h
      all_goals first | exact beq_iff_eq.mp h | cases h
  | _ => cases h

/-- A class that the loops find is one that an assertion of the session has. -/
theorem authenticated_of_matches {requested : Samlp2RequestedAuthnContext}
    (hrequested : request.requestedAuthnContext = some requested)
    (hrefs : requested.authnContextClassRef ≠ [])
    (h : matchesSession env session request = true) :
    ∃ classRef ∈ requested.authnContextClassRef, Authenticated session classRef := by
  simp only [matchesSession, hrequested, Bool.or_eq_true, List.isEmpty_iff, hrefs, false_or] at h
  obtain ⟨classRef, hclassRef, h⟩ := List.any_eq_true.mp h
  obtain ⟨node, hnode, h⟩ := List.any_eq_true.mp h
  obtain ⟨assertion, rfl, hstatement⟩ := assertionMatches_eq_true h
  cases session with
  | none => cases hnode
  | some s =>
    obtain ⟨providerId, hassertion⟩ := mem_getAssertions.mp hnode
    exact ⟨classRef, hclassRef, s, rfl, providerId, assertion, hassertion, hstatement⟩

theorem Authenticated.hasAssertion {classRef : String} (h : Authenticated session classRef) :
    HasAssertion env session := by
  obtain ⟨s, hs, providerId, assertion, hassertion, -⟩ := h
  refine ⟨s, hs, .inl fun hnil => ?_⟩
  have hmem := AList.mem_lookup_iff.mp hassertion
  rw [hnil] at hmem
  cases hmem

/-- Without an empty context that asks for nothing, the flag means an assertion. -/
theorem hasAssertion_of_matches
    (hasks : ∀ requested ∈ request.requestedAuthnContext, requested.authnContextClassRef ≠ [])
    (h : matchesSession env session request = true) : HasAssertion env session := by
  cases hrequested : request.requestedAuthnContext with
  | some requested =>
    obtain ⟨classRef, -, hauthenticated⟩ :=
      authenticated_of_matches hrequested (hasks requested hrequested) h
    exact hauthenticated.hasAssertion
  | none =>
    simp only [matchesSession, hrequested] at h
    cases session with
    | none => cases h
    | some s => exact ⟨s, rfl, .inr (by simpa using h)⟩

theorem mustAuthenticate_eq_false {profile : Profile}
    (hrequest : profile.request = some (.samlp2AuthnRequest request))
    (hpassive : request.isPassive = false) :
    (mustAuthenticate env profile).1 = false ↔
      request.forceAuthn = false ∧ matchesSession env profile.session request = true := by
  unfold mustAuthenticate
  rw [hrequest]
  dsimp only
  rw [hpassive]
  cases request.forceAuthn <;> cases matchesSession env profile.session request <;> simp

/-- A request that is not passive is let in only on what the session gives, if and only if it is
forced, names a class, asks for no context, or the session has an assertion. -/
theorem reusesSession_iff (env : Env) (profile : Profile)
    (hrequest : profile.request = some (.samlp2AuthnRequest request))
    (hpassive : request.isPassive = false) :
    ((mustAuthenticate env profile).1 = false → ReusesSession env profile.session request) ↔
      request.forceAuthn = true ∨
      (∀ requested ∈ request.requestedAuthnContext, requested.authnContextClassRef ≠ []) ∨
      HasAssertion env profile.session := by
  rw [mustAuthenticate_eq_false hrequest hpassive]
  constructor
  · intro h
    by_contra hcontra
    obtain ⟨hforce, hcontext, hassertion⟩ := by simpa only [not_or] using hcontra
    push Not at hcontext
    obtain ⟨requested, hrequested, hrefs⟩ := hcontext
    have hmatches : matchesSession env profile.session request = true := by
      simp [matchesSession, Option.mem_def.mp hrequested, hrefs]
    exact hassertion (h ⟨Bool.not_eq_true _ ▸ hforce, hmatches⟩).hasAssertion
  · rintro hcovered ⟨hforce, hmatches⟩
    refine ⟨hforce, ?_, fun requested hrequested hrefs =>
      authenticated_of_matches hrequested hrefs hmatches⟩
    rcases hcovered with hforced | hasks | hassertion
    · cases hforce.symm.trans hforced
    · exact hasAssertion_of_matches hasks hmatches
    · exact hassertion

end

/-! ## A context without class references -/

/-- A profile with a request for an authentication context. -/
def contextProfile (session : Option Session) (requested : Option Samlp2RequestedAuthnContext) :
    Profile where
  request := some (.samlp2AuthnRequest { requestedAuthnContext := requested })
  session

/-- A session with an assertion for a password. -/
def passwordSession : Session where
  assertions := AList.singleton "https://idp.example" (.saml2Assertion {
    authnStatement := [{ authnContext := some { authnContextClassRef := some "Password" } }] })

theorem passwordSession_reused :
    ReusesSession .refusing (some passwordSession)
      { requestedAuthnContext := some { authnContextClassRef := ["X509", "Password"] } } := by
  let profile := contextProfile (some passwordSession)
    (some { authnContextClassRef := ["X509", "Password"] })
  have hreuses := (reusesSession_iff .refusing profile rfl rfl).mpr
    (.inr (.inl (by simp)))
  exact hreuses rfl

/-- A context that lists declarations only lets a principal without a session in. -/
theorem stranger_letIn :
    (mustAuthenticate .refusing (contextProfile none (some {}))).1 = false ∧
      ¬ ReusesSession .refusing none { requestedAuthnContext := some {} } := by
  refine ⟨rfl, fun h => ?_⟩
  obtain ⟨s, hs, -⟩ := h.hasAssertion
  cases hs

end Saml20

end Lasso
