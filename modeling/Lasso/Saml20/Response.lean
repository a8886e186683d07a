import Lasso.Login
import Lasso.Saml20.Profile

/-!
# SAML 2.0 responses at the service provider

`processResponseStatusAndAssertion` decides whether the assertions of a parsed response are
accepted, and `acceptSso` records the accepted login in the session and the identity.

## Main definitions

* `decryptAssertion` — decrypts the encrypted assertions and appends them to the clear ones.
* `checkAssertion` — the body of the loop over the assertions.
* `processResponseStatusAndAssertion`, `acceptSso` — the two steps of a login.
-/

namespace Lasso.Saml20

/-! ## Decryption -/

/-- `_lasso_saml20_login_decrypt_assertion` -/
def decryptAssertion (cx : Context) (profile : Profile) (response : Samlp2Response) :
    Rc × Samlp2Response :=
  let keys := encryptionPrivateKeys profile
  if response.encryptedAssertion.isEmpty then (.ok, response) -- nothing to do
  else if keys.isEmpty then (.ds .decryptionFailedMissingPrivateKey, response)
  else
    let decrypted := response.encryptedAssertion.map fun encrypted =>
      encrypted.map fun encrypted => decryptWithKeys cx encrypted .ok keys
    let assertions := decrypted.filterMap fun
      | some (.ok (.saml2Assertion a)) => some a
      | _ => none
    let rc :=
      if decrypted.any fun | some (.error _) => true | _ => false then .ds .decryptionFailed
      else if decrypted.any (·.isNone) then .xmlSchemaInvalidFragment
      else .ok
    (rc, { response with assertion := response.assertion ++ assertions })

/-! ## Assertions -/

/-- `_lasso_check_assertion_issuer` -/
def checkAssertionIssuer (a : Saml2Assertion) (providerId : Option String) : Bool :=
  match a.issuer.bind (·.content), providerId with
  | some content, some providerId => content == providerId
  | _, _ => false

/-- `lasso_saml20_login_check_assertion_signature` -/
def checkAssertionSignature (cx : Context) (profile : Profile) (a : Saml2Assertion) : Rc :=
  match profile.server with
  | none => .profile .missingServer
  | some server =>
    match a.issuer.bind fun issuer =>
      if issuer.format.all (· == saml2NameIdentifierFormatEntity) then issuer.content else none with
    | none => .profile .missingIssuer
    | some remoteProviderId =>
      match server.getProvider (some remoteProviderId) with
      | none => .server .providerNotFound
      | some remoteProvider =>
        match a.originalXmlnode with
        | none => .profile .cannotVerifySignature
        | some originalNode => remoteProvider.verifySamlSignature cx.toEnv (.ofRoot originalNode)

/-- The decision on the signatures for one assertion: by the hint, the status of the response's
signature, and the assertion's own signature. -/
def checkSignatures (cx : Context) (profile : Profile) (a : Saml2Assertion) : Rc :=
  if profile.signatureStatus ≠ .ok then
    -- When response signature is not present
    match profile.signatureVerifyHint with
    | .maybe => checkAssertionSignature cx profile a
    | .force | .ignore => .ok
  else
    -- response signature is present and valid
    match profile.signatureVerifyHint with
    | .force => checkAssertionSignature cx profile a
    | .maybe =>
      -- if assertion signature is present and invalid, then we reject
      if checkAssertionSignature cx profile a = .ds .signatureNotFound then .ok
      else checkAssertionSignature cx profile a
    | .ignore => .ok

/-- The body of the loop over the assertions: the code, the profile, and the assertion with its
name identifier decrypted. -/
def checkAssertion (cx : Context) (requestId : Option String) (profile : Profile)
    (a : Saml2Assertion) : Rc × Profile × Saml2Assertion :=
  -- All Assertions MUST come from the same issuer as the Response
  if !checkAssertionIssuer a profile.remoteProviderId then
    (.profile .invalidIssuer, profile, a)
  else if checkSignatures cx profile a ≠ .ok then (checkSignatures cx profile a, profile, a)
  else
    match a.subject with
    | none => (.profile .missingSubject, profile, a)
    | some subject =>
      if requestId.isSome ∧ a.getInResponseTo ≠ requestId then
        (.login .assertionDoesNotMatchRequestId, profile, a)
      else
        let (rc, profile, nameId, encryptedId) :=
          processNameIdentifierDecryption cx profile subject.nameId subject.encryptedId
        (rc, profile, { a with subject := some { subject with nameId, encryptedId } })

/-- The loop over the assertions, which stops at the first one that is not accepted. -/
def checkAssertions (cx : Context) (requestId : Option String) (profile : Profile) :
    List Saml2Assertion → Rc × Profile × List Saml2Assertion
  | [] => (.ok, profile, [])
  | a :: as =>
    match checkAssertion cx requestId profile a with
    | (.ok, profile, a) =>
      let (rc, profile, as) := checkAssertions cx requestId profile as
      (rc, profile, a :: as)
    | (rc, profile, a) => (rc, profile, a :: as)

/-! ## The response -/

/-- The code for a top-level status other than Success. -/
def statusError (statusValue : String) (secondLevel : Option String) : Rc :=
  responseStatusError saml2StatusCodeRequestDenied
    [saml2StatusCodeResponder, saml2StatusCodeRequester] statusValue secondLevel

/-- The verdict on the signature of the response. -/
def checkResponseSignature (profile : Profile) : Rc :=
  if profile.signatureStatus = .ds .signatureNotFound ∧
      profile.signatureVerifyHint ≠ .force then .ok
  else profile.signatureStatus

/-- The assertions of a response once the encrypted ones are appended. -/
def receivedAssertions (cx : Context) (profile : Profile) (response : Samlp2Response) :
    List Saml2Assertion :=
  (decryptAssertion cx profile response).2.assertion

/-- The login with another profile, whose response has the given assertions. -/
def storeAssertions (login : Login) (profile : Profile) (response : Samlp2Response)
    (assertions : List Saml2Assertion) : Login :=
  { login with profile := { profile with
      response := some (.samlp2Response { response with assertion := assertions }) } }

/-- `lasso_saml20_login_process_response_status_and_assertion` -/
def processResponseStatusAndAssertion (cx : Context) (login : Login) : Rc × Login :=
  match login.profile.response with
  | some (.samlp2Response response) =>
    match Status.topLevel response.status with
    | none => (.profile .missingStatusCode, login)
    | some statusValue =>
      if statusValue ≠ saml2StatusCodeSuccess then
        (statusError statusValue (Status.secondLevel response.status), login)
      else
        let response := (decryptAssertion cx login.profile response).2
        if response.assertion.isEmpty then
          (.profile .missingAssertion,
            storeAssertions login login.profile response response.assertion)
        else if checkResponseSignature login.profile ≠ .ok then
          (checkResponseSignature login.profile,
            storeAssertions login login.profile response response.assertion)
        else
          let (rc, profile, assertions) :=
            checkAssertions cx login.requestId login.profile response.assertion
          if rc = .ok then
            -- set the default assertion to the last one
            let profile := { profile with signatureStatus := .ok }
            (.ok, { storeAssertions login profile response assertions with
              saml2Assertion := assertions.getLast?.or login.saml2Assertion })
          else (rc, storeAssertions login profile response assertions)
  | _ => (.profile .invalidMsg, login)

/-- The assertion that a login is accepted for: the first one of the response. -/
def firstAssertion (profile : Profile) : Option Saml2Assertion :=
  match profile.response with
  | some (.samlp2Response response) => response.assertion.head?
  | _ => none

/-- The session has an assertion of the provider with the ID of `a`. -/
def isReplayed (profile : Profile) (a : Saml2Assertion) : Bool :=
  (profile.session.elim [] (·.getAssertionIds profile.remoteProviderId)).any (some · == a.id)

/-- The profile with the assertion added to the session. -/
def recordAssertion (cx : Context) (profile : Profile) (a : Saml2Assertion) : Profile :=
  { profile with
    session := profile.session.map fun session =>
      (session.addAssertion cx.toEnv profile.remoteProviderId (.saml2Assertion a)).2 }

/-- `lasso_saml20_login_accept_sso`; the code of `lasso_session_add_assertion` is not looked at.
For a response of another class, and for a persistent name identifier without a remote provider,
the source does not return. -/
def acceptSso (cx : Context) (login : Login) : Rc × Login :=
  match firstAssertion login.profile with
  | none => (.profile .missingAssertion, login)
  | some assertion =>
    if isReplayed login.profile assertion then (.login .assertionReplay, login)
    else
      let profile := recordAssertion cx login.profile assertion
      match assertion.nameId with
      | none => (.profile .missingNameIdentifier, { login with profile })
      | some ni =>
        -- create federation, only if nameidentifier format is Federated
        match profile.remoteProviderId with
        | some remoteProviderId =>
          if ni.format = some saml2NameIdentifierFormatPersistent then
            let federation : Federation := {
              remoteProviderId
              localNameIdentifier := some (.saml2NameId ni) }
            (.ok, { login with profile := { profile with
              identity := profile.identity.map (·.addFederation federation) } })
          else (.ok, { login with profile })
        | none => (.ok, { login with profile })

/-! ## What the loop accepts -/

/-- The subject once its name identifier is decrypted, if it can be. -/
def decryptedSubject (cx : Context) (keys : List SecKey) (subject : Saml2Subject) : Saml2Subject :=
  match subject.nameId, subject.encryptedId with
  | none, some encrypted =>
    match decryptWithKeys cx encrypted (.profile .missingEncryptionPrivateKey) keys with
    | .ok (.saml2NameId nameId) => { subject with nameId := some nameId, encryptedId := none }
    | _ => subject
  | _, _ => subject

/-- The assertion with its name identifier decrypted. -/
def withDecryptedSubject (cx : Context) (keys : List SecKey) (a : Saml2Assertion) :
    Saml2Assertion :=
  { a with subject := a.subject.map (decryptedSubject cx keys) }

/-- The checks that an assertion has to pass. -/
def AssertionChecked (cx : Context) (requestId : Option String) (profile : Profile)
    (a : Saml2Assertion) : Prop :=
  checkAssertionIssuer a profile.remoteProviderId = true ∧ checkSignatures cx profile a = .ok ∧
    (requestId.isSome → a.getInResponseTo = requestId)

section

variable {cx : Context} {profile profile' : Profile} {requestId : Option String}

theorem processNameIdentifierDecryption_eq_ok {subject : Saml2Subject}
    {nameId : Option Saml2NameId} {encryptedId : Option Saml2EncryptedElement}
    (h : processNameIdentifierDecryption cx profile subject.nameId subject.encryptedId =
      (.ok, profile', nameId, encryptedId)) :
    decryptedSubject cx (encryptionPrivateKeys profile) subject =
        { subject with nameId, encryptedId } ∧
      profile' = { profile with nameIdentifier := nameId.map .saml2NameId } := by
  unfold processNameIdentifierDecryption at h
  unfold decryptedSubject
  obtain ⟨subjectName, subjectEncrypted, confirmation⟩ := subject
  cases subjectName with
  | some n =>
    cases h
    exact ⟨rfl, rfl⟩
  | none =>
    cases subjectEncrypted with
    | none =>
      cases h
      exact ⟨rfl, rfl⟩
    | some encrypted =>
      dsimp only at h ⊢
      split at h
      · rename_i rc hdecrypt
        have hne : rc ≠ .ok := decryptWithKeys_ne_ok (by simp) hdecrypt
        exact absurd (congrArg Prod.fst h) hne
      · rename_i node hdecrypt
        rw [hdecrypt]
        split at h <;> cases h
        exact ⟨rfl, rfl⟩

theorem checkAssertion_eq_ok {a a' : Saml2Assertion}
    (h : checkAssertion cx requestId profile a = (.ok, profile', a')) :
    AssertionChecked cx requestId profile a ∧
      a' = withDecryptedSubject cx (encryptionPrivateKeys profile) a ∧
      profile' = { profile with nameIdentifier := a'.nameId.map .saml2NameId } := by
  unfold checkAssertion at h
  split_ifs at h with hissuer hsignatures hrequest
  · cases h
  · rw [Prod.mk.injEq] at h
    exact absurd h.1 hsignatures
  · split at h <;> cases h
  · split at h
    · cases h
    · rename_i subject hsubject
      rcases hdecrypt : processNameIdentifierDecryption cx profile subject.nameId
        subject.encryptedId with ⟨rc, profile₁, nameId, encryptedId⟩
      rw [hdecrypt] at h
      cases h
      obtain ⟨hdecrypted, hprofile⟩ := processNameIdentifierDecryption_eq_ok hdecrypt
      refine ⟨⟨by simpa using hissuer, by simpa using hsignatures, ?_⟩, ?_, ?_⟩
      · intro hsome
        by_contra hne
        exact hrequest ⟨hsome, hne⟩
      · simp [withDecryptedSubject, hsubject, hdecrypted]
      · simp [hprofile, Saml2Assertion.nameId]

/-- The loop ends well only if every assertion passes; it leaves the name identifier of the last
one in the profile. -/
theorem checkAssertions_eq_ok {as as' : List Saml2Assertion}
    (h : checkAssertions cx requestId profile as = (.ok, profile', as')) :
    (∀ a ∈ as, AssertionChecked cx requestId profile a) ∧
      as' = as.map (withDecryptedSubject cx (encryptionPrivateKeys profile)) ∧
      profile' = { profile with
        nameIdentifier := as'.getLast?.elim profile.nameIdentifier
          (·.nameId.map .saml2NameId) } := by
  induction as generalizing profile as' with
  | nil =>
    cases h
    exact ⟨by simp, rfl, rfl⟩
  | cons a as ih =>
    unfold checkAssertions at h
    split at h
    · rename_i profile₁ a' hcheck
      obtain ⟨hchecked, ha', rfl⟩ := checkAssertion_eq_ok hcheck
      rcases hrest : checkAssertions cx requestId
        { profile with nameIdentifier := a'.nameId.map .saml2NameId } as with ⟨rc, profile₂, as₂⟩
      rw [hrest] at h
      cases h
      obtain ⟨hall, has', hprofile⟩ := ih hrest
      refine ⟨?_, ?_, ?_⟩
      · intro b hb
        rcases List.mem_cons.mp hb with rfl | hb
        · exact hchecked
        · exact hall b hb
      · rw [List.map_cons, ha', has']
        rfl
      · rw [hprofile, List.getLast?_cons]
        cases as₂.getLast? <;> rfl
    · rename_i rc profile₁ a' hne hcheck
      cases h
      exact (hne rfl).elim

theorem decryptAssertion_snd (response : Samlp2Response) :
    (decryptAssertion cx profile response).2 =
      { response with assertion := receivedAssertions cx profile response } := by
  unfold receivedAssertions decryptAssertion
  dsimp only
  split_ifs <;> rfl

/-- The login after a response with the assertions `as` is accepted. -/
def acceptedLogin (login : Login) (response : Samlp2Response) (as : List Saml2Assertion) : Login :=
  { login with
    profile := { login.profile with
      response := some (.samlp2Response { response with assertion := as })
      nameIdentifier := (as.getLast?.bind (·.nameId)).map .saml2NameId
      signatureStatus := .ok }
    saml2Assertion := as.getLast? }

theorem storeAssertions_eq_acceptedLogin {login : Login} {response : Samlp2Response}
    {as : List Saml2Assertion} (h : as ≠ []) :
    { storeAssertions login
        { login.profile with
          nameIdentifier :=
            as.getLast?.elim login.profile.nameIdentifier (·.nameId.map .saml2NameId)
          signatureStatus := .ok } response as
      with saml2Assertion := as.getLast?.or login.saml2Assertion } =
    acceptedLogin login response as := by
  simp [storeAssertions, acceptedLogin, List.getLast?_eq_some_getLast h]

/-- A response is accepted only if all its assertions pass, and then the last one counts. -/
theorem processResponse_eq_ok {login : Login}
    (h : (processResponseStatusAndAssertion cx login).1 = .ok) :
    ∃ response, login.profile.response = some (.samlp2Response response) ∧
      Status.topLevel response.status = some saml2StatusCodeSuccess ∧
      receivedAssertions cx login.profile response ≠ [] ∧
      checkResponseSignature login.profile = .ok ∧
      (∀ a ∈ receivedAssertions cx login.profile response,
        AssertionChecked cx login.requestId login.profile a) ∧
      (processResponseStatusAndAssertion cx login).2 =
        acceptedLogin login response ((receivedAssertions cx login.profile response).map
          (withDecryptedSubject cx (encryptionPrivateKeys login.profile))) := by
  unfold processResponseStatusAndAssertion at h ⊢
  split at h
  · rename_i response hresponse
    refine ⟨response, hresponse, ?_⟩
    simp only [decryptAssertion_snd] at h ⊢
    split at h
    · cases h
    · rename_i statusValue hstatus
      simp only [hstatus]
      by_cases hvalue : statusValue = saml2StatusCodeSuccess
      · rw [if_neg (by simpa using hvalue)] at h ⊢
        by_cases hempty : (receivedAssertions cx login.profile response).isEmpty = true
        · rw [if_pos hempty] at h
          cases h
        · rw [if_neg hempty] at h ⊢
          by_cases hsignature : checkResponseSignature login.profile = .ok
          · rw [if_neg (by simpa using hsignature)] at h ⊢
            rcases hcheck : checkAssertions cx login.requestId login.profile
              (receivedAssertions cx login.profile response) with ⟨rc, profile', as'⟩
            simp only [hcheck] at h ⊢
            by_cases hrc : rc = .ok
            · subst hrc
              obtain ⟨hall, has', hprofile⟩ := checkAssertions_eq_ok hcheck
              have hne : receivedAssertions cx login.profile response ≠ [] := by
                simpa using hempty
              refine ⟨by simpa using hvalue, hne, hsignature, hall, ?_⟩
              rw [if_pos rfl, hprofile, ← has']
              exact storeAssertions_eq_acceptedLogin (by simpa [has'] using hne)
            · rw [if_neg hrc] at h
              exact absurd h hrc
          · rw [if_pos hsignature] at h
            exact absurd h hsignature
      · rw [if_pos hvalue] at h
        exact absurd h (responseStatusError_ne_ok _ _ _ _)
  · cases h

/-! ## What `acceptSso` records -/

/-- The ways in which `acceptSso` can end. -/
inductive SsoOutcome (cx : Context) (login : Login) (result : Rc × Login) : Prop where
  | rejected (hrc : result.1 ≠ .ok) (hlogin : result.2 = login)
  | noNameId (a : Saml2Assertion) (hfirst : firstAssertion login.profile = some a)
      (hnameId : a.nameId = none) (hrc : result.1 ≠ .ok)
      (hlogin : result.2 = { login with profile := recordAssertion cx login.profile a })
  | recorded (a : Saml2Assertion) (hfirst : firstAssertion login.profile = some a)
      (nameId : Saml2NameId) (hnameId : a.nameId = some nameId)
      (hnew : isReplayed login.profile a = false) (hrc : result.1 = .ok)
      (identity : Option Identity)
      (hlogin : result.2 = { login with
        profile := { recordAssertion cx login.profile a with identity := identity } })

theorem acceptSso_outcome (cx : Context) (login : Login) :
    SsoOutcome cx login (acceptSso cx login) := by
  unfold acceptSso
  split
  · exact .rejected (by simp) rfl
  · rename_i a hfirst
    by_cases hreplay : isReplayed login.profile a = true
    · rw [if_pos hreplay]
      exact .rejected (by simp) rfl
    · rw [if_neg hreplay]
      have hnew : isReplayed login.profile a = false := by simpa using hreplay
      dsimp only
      split
      · rename_i hnameId
        exact .noNameId a hfirst hnameId (by simp) rfl
      · rename_i ni hnameId
        split
        · split_ifs
          · exact .recorded a hfirst ni hnameId hnew rfl _ rfl
          · exact .recorded a hfirst ni hnameId hnew rfl _ rfl
        · exact .recorded a hfirst ni hnameId hnew rfl _ rfl

theorem acceptSso_of_isReplayed {login : Login} {a : Saml2Assertion}
    (hfirst : firstAssertion login.profile = some a) (h : isReplayed login.profile a = true) :
    (acceptSso cx login).1 = .login .assertionReplay := by
  simp [acceptSso, hfirst, h]

end

end Lasso.Saml20
