import Lasso.Saml20.Acceptance

/-!
# The identity reported and the identity recorded

The name identifier that the application logs in comes from the last assertion of a response, and
the assertion that goes into the session is the first one. They belong together exactly when these
two coincide, as in a response with a single assertion.
-/

namespace Lasso.Saml20

/-- The assertion stored for the remote provider is the login's current assertion, and its NameID
is the name identifier of the profile. -/
def ReportsRecorded (login : Login) : Prop :=
  ∃ session providerId a nameId, login.profile.session = some session ∧
    login.profile.remoteProviderId = some providerId ∧
    session.getAssertion providerId = some (.saml2Assertion a) ∧
    login.saml2Assertion = some a ∧ a.nameId = some nameId ∧
    login.profile.nameIdentifier = some (.saml2NameId nameId)

/-- The assertions of the response of a login, in the order they are processed in and with their
name identifiers decrypted. -/
def processedAssertions (cx : Context) (login : Login) : List Saml2Assertion :=
  match login.profile.response with
  | some (.samlp2Response response) =>
    (receivedAssertions cx login.profile response).map
      (withDecryptedSubject cx (encryptionPrivateKeys login.profile))
  | _ => []

/-- The login has a session and a remote provider, and the first and the last assertion coincide;
a thin session stores no assertion and needs to hold the last one already. -/
def SingleIdentity (cx : Context) (login : Login) : Prop :=
  ∃ session providerId, login.profile.session = some session ∧
    login.profile.remoteProviderId = some providerId ∧
    ∃ last, (processedAssertions cx login).getLast? = some last ∧
      if cx.thinSessions then
        session.getAssertion providerId = some (.saml2Assertion last) ∧ last.nameId.isSome
      else (processedAssertions cx login).head? = some last

section

variable {cx : Context} {login : Login}

/-- After a response is processed and accepted, what is reported is what is recorded exactly for
the logins whose response is about a single identity. -/
theorem reportsRecorded_iff (hok : (processResponseStatusAndAssertion cx login).1 = .ok)
    (haccept : (acceptSso cx (processResponseStatusAndAssertion cx login).2).1 = .ok) :
    ReportsRecorded (acceptSso cx (processResponseStatusAndAssertion cx login).2).2 ↔
      SingleIdentity cx login := by
  obtain ⟨response, hresponse, -, -, -, -, hlogin⟩ := processResponse_eq_ok hok
  have hprocessed : processedAssertions cx login =
      (receivedAssertions cx login.profile response).map
        (withDecryptedSubject cx (encryptionPrivateKeys login.profile)) := by
    rw [processedAssertions, hresponse]
  rw [hlogin, ← hprocessed] at haccept ⊢
  set as := processedAssertions cx login
  cases acceptSso_outcome cx (acceptedLogin login response as) with
  | rejected hrc => exact absurd haccept hrc
  | noNameId _ _ _ hrc => exact absurd haccept hrc
  | recorded first hfirst nameId hnameId _ _ identity hresult =>
    rw [hresult]
    replace hfirst : as.head? = some first := hfirst
    constructor
    · rintro ⟨session', providerId, a, nameId', hsession', hid, hstored, hlast, hname, -⟩
      replace hid : login.profile.remoteProviderId = some providerId := hid
      replace hlast : as.getLast? = some a := hlast
      cases hsession : login.profile.session with
      | none => simp [recordAssertion, acceptedLogin, hsession] at hsession'
      | some session =>
        simp only [recordAssertion, acceptedLogin, hsession, hid, Option.map_some,
          Option.some.injEq] at hsession'
        subst hsession'
        refine ⟨session, providerId, hsession, hid, a, hlast, ?_⟩
        split_ifs with hthin
        · rw [Session.getAssertion_addAssertion_thin hthin] at hstored
          exact ⟨hstored, by simp [hname]⟩
        · rw [Session.getAssertion_addAssertion (by simpa using hthin)] at hstored
          cases hstored
          exact hfirst
    · rintro ⟨session, providerId, hsession, hid, last, hlast, hcond⟩
      replace hlast : as.getLast? = some last := hlast
      have hreported : ∀ n, last.nameId = some n →
          (acceptedLogin login response as).profile.nameIdentifier = some (.saml2NameId n) := by
        intro n hn
        simp [acceptedLogin, hlast, hn]
      have hcurrent : (acceptedLogin login response as).saml2Assertion = some last := hlast
      have hrecorded :
          (recordAssertion cx (acceptedLogin login response as).profile first).session =
            some (session.addAssertion cx.toEnv (some providerId) (.saml2Assertion first)).2 := by
        simp [recordAssertion, acceptedLogin, hsession, hid]
      split_ifs at hcond with hthin
      · obtain ⟨hstored, hsome⟩ := hcond
        obtain ⟨n, hn⟩ := Option.isSome_iff_exists.mp hsome
        refine ⟨_, providerId, last, n, hrecorded, hid, ?_, hcurrent, hn, hreported n hn⟩
        rw [Session.getAssertion_addAssertion_thin hthin, hstored]
      · obtain rfl : first = last := Option.some.inj (hfirst.symm.trans hcond)
        refine ⟨_, providerId, first, nameId, hrecorded, hid, ?_, hcurrent, hnameId,
          hreported nameId hnameId⟩
        exact Session.getAssertion_addAssertion (by simpa using hthin) _

end

/-! ## A response about two persons -/

def keyedIdp : Provider where
  providerId := some "https://idp.example"
  publicKey := some "idp.pem"
  signingPublicKeys := [⟨.rsa, "k".toList⟩]

def bobAssertion : Saml2Assertion :=
  { aliceAssertion with
    id := some "_b"
    subject := some { nameId := some { content := some "bob" } } }

/-- A service provider after a signed response with the given assertions was read. -/
def signedResponseLogin (assertions : List Saml2Assertion) : Login where
  profile := {
    server := some (Server.addProvider {
      provider := { providerId := some "https://sp.example", conformance := .saml20 } }
      keyedIdp).2
    session := some {}
    remoteProviderId := some "https://idp.example"
    response := some (.samlp2Response { status := successStatus, assertion := assertions }) }

/-- The login after the response is processed and accepted. -/
def aliceBobLogin : Login :=
  (acceptSso .refusing (processResponseStatusAndAssertion .refusing
    (signedResponseLogin [aliceAssertion, bobAssertion])).2).2

/-- Bob is reported, and the assertion about Alice is recorded. -/
theorem two_assertions_disagree :
    ¬ ∀ (cx : Context) (login : Login), (processResponseStatusAndAssertion cx login).1 = .ok →
      (acceptSso cx (processResponseStatusAndAssertion cx login).2).1 = .ok →
      ReportsRecorded (acceptSso cx (processResponseStatusAndAssertion cx login).2).2 := by
  intro h
  obtain ⟨session, providerId, a, nameId, hsession, hid, hstored, hlast, -, -⟩ :=
    h .refusing (signedResponseLogin [aliceAssertion, bobAssertion]) (by decide) (by decide)
  have hcurrent : aliceBobLogin.saml2Assertion.map (·.id) = some (some "_b") := by decide
  have hrecorded : (aliceBobLogin.profile.session.bind fun session =>
      aliceBobLogin.profile.remoteProviderId.bind session.getAssertion) =
        some (.saml2Assertion aliceAssertion) := rfl
  rw [aliceBobLogin, hlast] at hcurrent
  rw [aliceBobLogin, hsession, hid] at hrecorded
  cases hstored.symm.trans hrecorded
  exact absurd hcurrent (by decide)

theorem reportsRecorded_iff_single :
    ReportsRecorded (acceptSso .refusing (processResponseStatusAndAssertion .refusing
        (signedResponseLogin [aliceAssertion])).2).2 ↔
      SingleIdentity .refusing (signedResponseLogin [aliceAssertion]) :=
  reportsRecorded_iff (by decide) (by decide)

end Lasso.Saml20
