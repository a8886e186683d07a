import Lasso.Login
import Lasso.Saml20.AuthnRequest
import Lasso.Saml20.NameIdManagement

/-!
# SAML 2.0 assertions at the identity provider

`validateRequestMsg` finds the federation that an AuthnRequest is about, or makes one, and
`buildAssertion` makes the assertion. Both look at the NameIDPolicy of the request; the metadata of
the service provider is only looked at by the first.

## Main definitions

* `validateRequestMsg` — the answer to the request, and the NameID of the principal.
* `buildAssertion` — the assertion about the principal.

## Main results

* `assertsResolved_iff` — when the assertion is about the NameID that was found.
-/

namespace Lasso.Saml20.SingleSignOn

/-! ## Validating a request -/

/-- The federation of the principal with the remote provider. -/
def remoteFederation (profile : Profile) : Option Federation :=
  profile.federationWith (profile.remoteProvider.bind (·.spNameQualifier))

/-- `lasso_saml20_login_must_ask_for_consent_private` -/
def mustAskForConsentPrivate (profile : Profile) (request : Samlp2AuthnRequest) : Bool :=
  if request.nameIdPolicy.any fun policy =>
      policy.format == some saml2NameIdentifierFormatTransient || !policy.allowCreate then false
  -- if something goes wrong better to ask than to let go
  else if (profile.remoteProvider.bind (·.spNameQualifier)).isNone then true
  else if (remoteFederation profile).isSome then false
  else
    match request.consent with
    | none => false
    | some consent => consent ∉
      [saml2ConsentObtained, saml2ConsentPrior, saml2ConsentImplicit, saml2ConsentExplicit]

/-- The format of a NameIDPolicy, or else the first one in the metadata of the provider. -/
def resolvedFormat (remoteProvider : Provider) (request : Samlp2AuthnRequest) : Option String :=
  (request.nameIdPolicy.bind (·.format)).or (remoteProvider.getMetadataOne "NameIDFormat")

/-- A new federation, with a local identifier that is made up. -/
def newFederation (server : Server) (qualifier uniqueId : String) : Federation where
  remoteProviderId := qualifier
  localNameIdentifier := some (.saml2NameId {
    nameQualifier := server.provider.providerId
    format := some saml2NameIdentifierFormatPersistent
    content := some uniqueId
    spNameQualifier := some qualifier })

/-- The federation of a persistent identifier: the one of the identity, or a new one. -/
def findFederation (identity : Identity) (server : Server) (request : Samlp2AuthnRequest)
    (qualifier uniqueId : String) : Option (Federation × Identity) :=
  match identity.getFederation (some qualifier) with
  | some federation => some (federation, identity)
  | none =>
    if request.nameIdPolicy.any (·.allowCreate) then
      let federation := newFederation server qualifier uniqueId
      some (federation, identity.addFederation federation)
    else none

/-- `lasso_saml20_login_process_federation`; the content of a new identifier is given. -/
def processFederation (login : Login) (isConsentObtained : Bool) (uniqueId : String) :
    Rc × Login :=
  -- verify if identity already exists else create it
  let identity := login.profile.identity.getD {}
  let login := { login with profile := { login.profile with identity := some identity } }
  match login.profile.server, login.profile.remoteProvider with
  | some server, some remoteProvider =>
    match login.profile.request with
    | some (.samlp2AuthnRequest request) =>
      let format := resolvedFormat remoteProvider request
      let login := { login with nameIdPolicy := format }
      if mustAskForConsentPrivate login.profile request && !isConsentObtained then
        (.login .consentNotObtained, login)
      -- a transient NameID is made with the assertion, other formats are up to the caller
      else if format ≠ some saml2NameIdentifierFormatPersistent then (.ok, login)
      else
        match remoteProvider.spNameQualifier with
        | none => (.profile .unknownProvider, login)
        | some qualifier =>
          match findFederation identity server request qualifier uniqueId with
          | none => (.login .federationNotFound, login)
          | some (federation, identity) =>
            (.ok, { login with profile := { login.profile with
              identity := some identity, nameIdentifier := federation.localNameIdentifier } })
    | _ => (.profile .invalidRequest, login)
  | _, _ => (.profile .unknownProvider, login)

/-- `lasso_saml20_login_validate_request_msg` -/
def validateRequestMsg (login : Login) (authenticationResult isConsentObtained : Bool)
    (uniqueId : String) : Rc × Login :=
  let fail (rc : Rc) (login : Login) (refuse : Profile → String → Profile) (code2 : String) :
      Rc × Login :=
    (rc, { login with profile := refuse login.profile code2 })
  if !authenticationResult then
    fail (.login .requestDenied) login setResponseStatusResponder saml2StatusCodeRequestDenied
  else if mustVerifyAuthnRequestSignature login.profile ∧ login.profile.signatureStatus ≠ .ok then
    fail
      (if login.profile.signatureStatus = .ds .signatureNotFound then .login .unsignedAuthnRequest
        else .login .invalidSignature)
      login setResponseStatusRequester libStatusCodeInvalidSignature
  else
    match processFederation login isConsentObtained uniqueId with
    | (.ok, login) => (.ok, { login with
        profile := (setResponseStatus login.profile saml2StatusCodeSuccess none).2 })
    | (.login .federationNotFound, login) =>
      fail (.login .federationNotFound) login setResponseStatusRequester
        libStatusCodeFederationDoesNotExist
    | (rc, login) => fail rc login setResponseStatusResponder saml2StatusCodeRequestDenied

/-! ## Building an assertion -/

/-- The branches of `lasso_saml20_login_build_assertion` for the format of a NameIDPolicy. -/
inductive NameIdKind where
  | transient
  | federated
  | other
deriving DecidableEq

/-- The branch for a format; none at all counts as transient. -/
def NameIdKind.ofFormat : Option String → NameIdKind
  | none => .transient
  | some format =>
    if format = saml2NameIdentifierFormatUnspecified ∨ format = saml2NameIdentifierFormatTransient
    then .transient
    else if format = saml2NameIdentifierFormatPersistent ∨
        format = saml2NameIdentifierFormatEncrypted then .federated
    else .other

/-- The NameID of a sign-on without federation. -/
def transientNameId (server : Server) (uniqueId : String) : Saml2NameId where
  content := some uniqueId
  nameQualifier := server.provider.spNameQualifier
  format := some saml2NameIdentifierFormatTransient

/-- The AuthnRequest of the profile. -/
def authnRequest (profile : Profile) : Option Samlp2AuthnRequest :=
  match profile.request with
  | some (.samlp2AuthnRequest request) => some request
  | _ => none

/-- The format of the NameIDPolicy in the AuthnRequest of the profile. -/
def policyFormat (profile : Profile) : Option String :=
  ((authnRequest profile).bind (·.nameIdPolicy)).bind (·.format)

/-- The remote provider wants NameIDs encrypted: the bit `LASSO_ENCRYPTION_MODE_NAMEID` is set. -/
def wantsEncryptedNameId (provider : Provider) : Bool :=
  provider.encryptionMode == .nameId || provider.encryptionMode == .both

/-- The NameID of an assertion, and whether it is encrypted. A federation with an identifier of
another protocol does not return. -/
def assertedNameId (profile : Profile) (server : Server) (uniqueId : String) :
    Option (Except Rc (Option Saml2NameId × Bool)) :=
  let format := policyFormat profile
  let encrypt := profile.remoteProvider.any wantsEncryptedNameId
  match NameIdKind.ofFormat format with
  | .transient => some (.ok (some (transientNameId server uniqueId), encrypt))
  | .federated =>
    match remoteFederation profile with
    | none => some (.error (.profile .federationNotFound))
    | some federation =>
      let encrypt := encrypt || format == some saml2NameIdentifierFormatEncrypted
      match federation.localNameIdentifier with
      | none => some (.ok (none, encrypt))
      | some (.saml2NameId nameId) => some (.ok (some nameId, encrypt))
      | some _ => none
  -- the caller must set the content afterwards, and encryption is not supported
  | .other => some (.ok (some { nameQualifier := server.provider.providerId, format }, false))

/-- The session index of an assertion: its ID, if the remote provider supports logout. -/
def sessionIndex (server : Server) (provider : Option Provider) (assertionId : String) :
    Option String :=
  if provider.any (getFirstHttpMethod server.provider · "SingleLogoutService" ≠ .none) then
    some assertionId
  else none

/-- The assertion before anything in it is encrypted. -/
def newAssertion (profile : Profile) (server : Server) (nameId : Option Saml2NameId)
    (assertionId : String) : Saml2Assertion where
  id := some assertionId
  issuer := some { content := server.provider.providerId }
  subject := some {
    nameId
    subjectConfirmation := some {
      subjectConfirmationData := some {
        inResponseTo := (authnRequest profile).bind (·.id) } } }
  authnStatement := [{ sessionIndex := sessionIndex server profile.remoteProvider assertionId }]

/-- Encrypt the NameID of an assertion, which is stored in the session first; the session then has
the encrypted assertion, since it is the same object. -/
def encryptAssertedNameId (cx : LogoutContext) (profile : Profile) (assertion : Saml2Assertion) :
    Rc × Profile × Saml2Assertion :=
  let session := ((profile.session.getD {}).addAssertion cx.toEnv profile.remoteProviderId
    (.saml2Assertion assertion)).2
  match profile.remoteProvider with
  | none => (.server .providerNotFound, { profile with session := some session }, assertion)
  | some provider =>
    match assertion.nameId.bind (cx.encryptNameId provider) with
    | none => (.ds .encryptionFailed, { profile with session := some session }, assertion)
    | some encryptedId =>
      let assertion := { assertion with
        subject := assertion.subject.map fun subject =>
          { subject with nameId := none, encryptedId := some encryptedId } }
      let session := match profile.remoteProviderId with
        | some remoteProviderId =>
          if cx.thinSessions then session
          else { session with
            assertions := session.assertions.replace remoteProviderId (.saml2Assertion assertion) }
        | none => session
      (.ok, { profile with session := some session }, assertion)

/-- `lasso_saml20_login_build_assertion`; the unique identifiers that it makes up are given. It does
not return without a server. -/
def buildAssertion (cx : LogoutContext) (login : Login) (assertionId uniqueId : String) :
    Option (Rc × Login) :=
  match login.profile.response with
  | some (.samlp2Response response) => do
    let profile := login.profile
    let server ← profile.server
    match ← assertedNameId profile server uniqueId with
    | .error rc => some (rc, login)
    | .ok (nameId, encrypt) =>
      let assertion := newAssertion profile server nameId assertionId
      -- save signing material to be able to sign later
      match cx.loadSignatureContext server profile.remoteProviderId with
      | .ok =>
        let (rc, profile, assertion) :=
          if encrypt then encryptAssertedNameId cx profile assertion else (.ok, profile, assertion)
        if rc ≠ .ok then some (rc, { login with profile })
        else
          let response := { response with assertion := response.assertion ++ [assertion] }
          some (.ok, { login with
            profile := { profile with response := some (.samlp2Response response) }
            saml2Assertion := some assertion })
      | rc => some (rc, login)
  | _ => some (.profile .missingResponse, login)

/-! ## What a validation finds -/

section

variable {login validated : Login} {server : Server}

theorem findFederation_eq_some {identity after : Identity} {request : Samlp2AuthnRequest}
    {qualifier uniqueId : String} {federation : Federation}
    (h : findFederation identity server request qualifier uniqueId = some (federation, after)) :
    after.getFederation (some qualifier) = some federation ∧
      (identity.getFederation (some qualifier) = some federation ∨
        identity.getFederation (some qualifier) = none ∧
          federation = newFederation server qualifier uniqueId) := by
  unfold findFederation at h
  split at h
  · rename_i found hfound
    cases h
    exact ⟨hfound, .inl hfound⟩
  · rename_i hnone
    split_ifs at h
    cases h
    exact ⟨Identity.getFederation_addFederation identity _, .inr ⟨hnone, rfl⟩⟩

/-- What a validation has found for a persistent identifier: a federation of the principal, which
was there before or is new. -/
structure Resolved (before after : Login) (uniqueId : String) (federation : Federation) : Prop where
  server : after.profile.server = before.profile.server
  remoteProviderId : after.profile.remoteProviderId = before.profile.remoteProviderId
  request : after.profile.request = before.profile.request
  format : policyFormat before.profile = some saml2NameIdentifierFormatPersistent ∨
    policyFormat before.profile = none
  found : remoteFederation after.profile = some federation
  nameIdentifier : after.profile.nameIdentifier = federation.localNameIdentifier
  origin : remoteFederation before.profile = some federation ∨
    remoteFederation before.profile = none ∧
      ∃ server qualifier, federation = newFederation server qualifier uniqueId

/-- A persistent identifier is resolved by `findFederation`, and only that is put into the
profile. -/
theorem processFederation_persistent {isConsentObtained : Bool} {uniqueId : String}
    (h : processFederation login isConsentObtained uniqueId = (.ok, validated))
    (hpersistent : validated.nameIdPolicy = some saml2NameIdentifierFormatPersistent) :
    ∃ server remoteProvider request qualifier federation identity,
      login.profile.server = some server ∧ login.profile.remoteProvider = some remoteProvider ∧
        login.profile.request = some (.samlp2AuthnRequest request) ∧
        resolvedFormat remoteProvider request = some saml2NameIdentifierFormatPersistent ∧
        remoteProvider.spNameQualifier = some qualifier ∧
        findFederation (login.profile.identity.getD {}) server request qualifier uniqueId =
          some (federation, identity) ∧
        validated.profile = { login.profile with
          identity := some identity, nameIdentifier := federation.localNameIdentifier } := by
  unfold processFederation at h
  dsimp only at h
  split at h
  · rename_i server remoteProvider hserver hremote
    split at h
    · rename_i request hrequest
      split_ifs at h with hconsent hformat
      · cases h
      · cases h
        exact absurd hpersistent hformat
      · rw [not_not] at hformat
        split at h
        · cases h
        · rename_i qualifier hqualifier
          split at h
          · cases h
          · rename_i federation identity hfind
            cases h
            exact ⟨server, remoteProvider, request, qualifier, federation, identity, hserver,
              hremote, hrequest, hformat, hqualifier, hfind, rfl⟩
    · cases h
  · cases h

theorem processFederation_eq_ok {isConsentObtained : Bool} {uniqueId : String}
    (h : processFederation login isConsentObtained uniqueId = (.ok, validated))
    (hpersistent : validated.nameIdPolicy = some saml2NameIdentifierFormatPersistent) :
    ∃ federation, Resolved login validated uniqueId federation := by
  obtain ⟨server, remoteProvider, request, qualifier, federation, identity, -, hremote, hrequest,
    hformat, hqualifier, hfind, hprofile⟩ := processFederation_persistent h hpersistent
  obtain ⟨hfound, horigin⟩ := findFederation_eq_some hfind
  have hpolicy : policyFormat login.profile = request.nameIdPolicy.bind (·.format) := by
    rw [policyFormat, authnRequest, hrequest, Option.bind_some]
  have hbefore : remoteFederation login.profile =
      (login.profile.identity.getD {}).getFederation (some qualifier) := by
    unfold remoteFederation Profile.federationWith
    rw [hremote, Option.bind_some, hqualifier]
    cases login.profile.identity with
    | none => rfl
    | some identity => rfl
  refine ⟨federation, ?_⟩
  constructor
  case server | remoteProviderId | request | nameIdentifier => rw [hprofile]
  case format =>
    rw [hpolicy]
    unfold resolvedFormat at hformat
    cases hchosen : request.nameIdPolicy.bind (·.format) with
    | none => exact .inr rfl
    | some format =>
      rw [hchosen, Option.some_or] at hformat
      exact .inl hformat
  case found =>
    rw [hprofile]
    change (some identity).bind (·.getFederation
      (login.profile.remoteProvider.bind (·.spNameQualifier))) = _
    rw [hremote, Option.bind_some, Option.bind_some, hqualifier]
    exact hfound
  case origin =>
    rw [hbefore]
    exact horigin.imp_right fun ⟨hnone, hnew⟩ => ⟨hnone, _, _, hnew⟩

theorem validateRequestMsg_eq_ok {authenticationResult isConsentObtained : Bool}
    {uniqueId : String}
    (h : validateRequestMsg login authenticationResult isConsentObtained uniqueId =
      (.ok, validated))
    (hpersistent : validated.nameIdPolicy = some saml2NameIdentifierFormatPersistent) :
    ∃ federation, Resolved login validated uniqueId federation := by
  unfold validateRequestMsg at h
  dsimp only at h
  by_cases hauthentication : authenticationResult = true
  · rw [hauthentication, Bool.not_true, if_neg Bool.false_ne_true] at h
    by_cases hsignature : mustVerifyAuthnRequestSignature login.profile = true ∧
        login.profile.signatureStatus ≠ .ok
    · rw [if_pos hsignature] at h
      split_ifs at h <;> cases h
    · rw [if_neg hsignature] at h
      split at h
      · rename_i found hfound
        cases h
        obtain ⟨federation, hresolved⟩ := processFederation_eq_ok hfound hpersistent
        obtain ⟨response, hresponse⟩ :=
          setResponseStatus_eq found.profile saml2StatusCodeSuccess none
        refine ⟨federation, ?_⟩
        rw [hresponse]
        exact ⟨hresolved.server, hresolved.remoteProviderId, hresolved.request, hresolved.format,
          hresolved.found, hresolved.nameIdentifier, hresolved.origin⟩
      · cases h
      · rename_i hne _ _
        exact absurd (congrArg Prod.fst h) hne
  · rw [Bool.not_eq_true] at hauthentication
    rw [hauthentication, Bool.not_false, if_pos rfl] at h
    cases h

end

/-! ## What an assertion is about -/

/-- The assertion that was put into the response last. -/
def placedAssertion (profile : Profile) : Option Saml2Assertion :=
  match profile.response with
  | some (.samlp2Response response) => response.assertion.getLast?
  | _ => none

/-- The assertion in the response is about a name identifier, which is in the subject, or is what
was encrypted into the EncryptedID for the remote provider. -/
def AssertsNameId (cx : LogoutContext) (profile : Profile) (nameIdentifier : Option LassoNode) :
    Prop :=
  ∃ assertion ∈ placedAssertion profile, ∃ subject ∈ assertion.subject,
    (subject.encryptedId = none ∧ subject.nameId.map .saml2NameId = nameIdentifier) ∨
      (subject.nameId = none ∧ ∃ provider nameId encryptedId,
        profile.remoteProvider = some provider ∧ subject.encryptedId = some encryptedId ∧
          cx.encryptNameId provider nameId = some encryptedId ∧
            nameIdentifier = some (.saml2NameId nameId))

/-- What the subject of an assertion has in it, for a NameID that is encrypted or not. -/
structure Subjects (cx : LogoutContext) (profile : Profile) (nameId : Option Saml2NameId)
    (encrypt : Bool) (subject : Saml2Subject) : Prop where
  clear : encrypt = false → subject.nameId = nameId ∧ subject.encryptedId = none
  encrypted : encrypt = true → subject.nameId = none ∧ ∃ provider encryptedId,
    profile.remoteProvider = some provider ∧ subject.encryptedId = some encryptedId ∧
      nameId.bind (cx.encryptNameId provider) = some encryptedId

/-- What is built for a NameID. -/
structure Built (cx : LogoutContext) (before after : Login) (nameId : Option Saml2NameId)
    (encrypt : Bool) : Prop where
  server : after.profile.server = before.profile.server
  remoteProviderId : after.profile.remoteProviderId = before.profile.remoteProviderId
  placed : ∃ assertion subject, placedAssertion after.profile = some assertion ∧
    assertion.subject = some subject ∧ Subjects cx before.profile nameId encrypt subject

section

variable {cx : LogoutContext} {login built : Login}

theorem encryptAssertedNameId_eq_ok {profile after : Profile} {assertion encrypted : Saml2Assertion}
    (h : encryptAssertedNameId cx profile assertion = (.ok, after, encrypted)) :
    after.server = profile.server ∧ after.remoteProviderId = profile.remoteProviderId ∧
      ∃ provider encryptedId, profile.remoteProvider = some provider ∧
        assertion.nameId.bind (cx.encryptNameId provider) = some encryptedId ∧
          encrypted.subject = assertion.subject.map fun subject =>
            { subject with nameId := none, encryptedId := some encryptedId } := by
  unfold encryptAssertedNameId at h
  dsimp only at h
  split at h
  · cases h
  · rename_i provider hprovider
    split at h
    · cases h
    · rename_i encryptedId hencrypt
      cases h
      exact ⟨rfl, rfl, provider, encryptedId, hprovider, hencrypt, rfl⟩

theorem buildAssertion_eq_ok {assertionId uniqueId : String}
    (h : buildAssertion cx login assertionId uniqueId = some (.ok, built)) :
    ∃ server nameId encrypt, login.profile.server = some server ∧
      assertedNameId login.profile server uniqueId = some (.ok (nameId, encrypt)) ∧
        Built cx login built nameId encrypt := by
  unfold buildAssertion at h
  split at h
  · rename_i response hresponse
    simp only [Option.bind_eq_bind, Option.bind_eq_some_iff] at h
    obtain ⟨server, hserver, asserted, hasserted, h⟩ := h
    split at h
    · rename_i rc
      obtain rfl := congrArg Prod.fst (Option.some.inj h)
      unfold assertedNameId at hasserted
      dsimp only at hasserted
      split at hasserted
      · cases hasserted
      · split at hasserted
        · cases hasserted
        · split at hasserted <;> cases hasserted
      · cases hasserted
    · rename_i nameId encrypt
      refine ⟨server, nameId, encrypt, hserver, hasserted, ?_⟩
      split at h
      · cases encrypt with
        | false =>
          cases h
          exact ⟨rfl, rfl, _, _, List.getLast?_concat, rfl, fun _ => ⟨rfl, rfl⟩, by simp⟩
        | true =>
          rw [if_pos rfl] at h
          generalize hencrypt : encryptAssertedNameId cx login.profile _ = result at h
          obtain ⟨rc, profile, assertion⟩ := result
          dsimp only at h
          by_cases hrc : rc = .ok
          · subst hrc
            rw [if_neg (not_not.mpr rfl)] at h
            cases h
            obtain ⟨hkept, hremote, provider, encryptedId, hprovider, hencrypted, hsubject⟩ :=
              encryptAssertedNameId_eq_ok hencrypt
            exact ⟨hkept, hremote, _, _, List.getLast?_concat, hsubject, by simp,
              fun _ => ⟨rfl, provider, encryptedId, hprovider, rfl, hencrypted⟩⟩
          · rw [if_pos hrc] at h
            exact absurd (congrArg Prod.fst (Option.some.inj h)) hrc
      · rename_i hne
        exact absurd (congrArg Prod.fst (Option.some.inj h)) hne
  · cases h

theorem Built.remoteProvider_eq {nameId : Option Saml2NameId} {encrypt : Bool}
    (h : Built cx login built nameId encrypt) :
    built.profile.remoteProvider = login.profile.remoteProvider := by
  rw [Profile.remoteProvider, Profile.remoteProvider, h.server, h.remoteProviderId]

/-- An assertion is about the NameID that it was built for. -/
theorem Built.assertsNameId {nameId : Option Saml2NameId} {encrypt : Bool}
    (h : Built cx login built nameId encrypt) :
    AssertsNameId cx built.profile (nameId.map .saml2NameId) := by
  obtain ⟨assertion, subject, hplaced, hsubject, hsubjects⟩ := h.placed
  refine ⟨assertion, hplaced, subject, hsubject, ?_⟩
  cases encrypt with
  | false =>
    obtain ⟨hclear, hnone⟩ := hsubjects.clear rfl
    exact .inl ⟨hnone, congrArg _ hclear⟩
  | true =>
    obtain ⟨hnone, provider, encryptedId, hprovider, hsome, hencrypted⟩ := hsubjects.encrypted rfl
    obtain ⟨n, rfl, hn⟩ := Option.bind_eq_some_iff.mp hencrypted
    exact .inr ⟨hnone, provider, n, encryptedId, h.remoteProvider_eq.trans hprovider, hsome, hn,
      rfl⟩

/-- Where encryption tells NameIDs apart, it is about no other one. -/
theorem Built.assertsNameId_iff {nameId : Option Saml2NameId} {encrypt : Bool}
    (h : Built cx login built nameId encrypt)
    (hinjective : ∀ provider a b encryptedId, cx.encryptNameId provider a = some encryptedId →
      cx.encryptNameId provider b = some encryptedId → a = b)
    (nameIdentifier : Option LassoNode) :
    AssertsNameId cx built.profile nameIdentifier ↔ nameIdentifier = nameId.map .saml2NameId := by
  refine ⟨fun hasserts => ?_, fun heq => heq ▸ h.assertsNameId⟩
  obtain ⟨assertion, subject, hplaced, hsubject, hsubjects⟩ := h.placed
  obtain ⟨_, hplaced', _, hsubject', hasserts⟩ := hasserts
  cases hplaced.symm.trans hplaced'
  cases hsubject.symm.trans hsubject'
  cases encrypt with
  | false =>
    obtain ⟨hclear, hnone⟩ := hsubjects.clear rfl
    rcases hasserts with ⟨-, hname⟩ | ⟨-, _, _, _, -, hsome, -⟩
    · rw [← hname, hclear]
    · cases hnone.symm.trans hsome
  | true =>
    obtain ⟨-, provider, encryptedId, hprovider, hsome, hencrypted⟩ := hsubjects.encrypted rfl
    obtain ⟨n, rfl, hn⟩ := Option.bind_eq_some_iff.mp hencrypted
    rcases hasserts with ⟨hnone, -⟩ | ⟨-, provider', m, _, hprovider', hsome', hm, rfl⟩
    · cases hnone.symm.trans hsome
    · cases hprovider.symm.trans (h.remoteProvider_eq.symm.trans hprovider')
      cases hsome.symm.trans hsome'
      rw [hinjective _ _ _ _ hm hn]
      rfl

/-- A format of a federation asks for the identifier of the federation. -/
theorem assertedNameId_federated {profile : Profile} {server : Server} {uniqueId : String}
    {federation : Federation} {nameId : Option Saml2NameId} {encrypt : Bool}
    (h : assertedNameId profile server uniqueId = some (.ok (nameId, encrypt)))
    (hkind : NameIdKind.ofFormat (policyFormat profile) = .federated)
    (hfederation : remoteFederation profile = some federation) :
    nameId.map .saml2NameId = federation.localNameIdentifier := by
  unfold assertedNameId at h
  simp only [hkind, hfederation] at h
  split at h
  · rename_i hnone
    cases h
    exact hnone.symm
  · rename_i n hsome
    cases h
    exact hsome.symm
  · cases h

/-- A persistent identifier is the one of the federation, and without a format the NameID is made
up. -/
theorem assertedNameId_persistent {profile : Profile} {server : Server} {uniqueId : String}
    {federation : Federation} {nameId : Option Saml2NameId} {encrypt : Bool}
    (h : assertedNameId profile server uniqueId = some (.ok (nameId, encrypt)))
    (hformat : policyFormat profile = some saml2NameIdentifierFormatPersistent)
    (hfederation : remoteFederation profile = some federation) :
    nameId.map .saml2NameId = federation.localNameIdentifier :=
  assertedNameId_federated h (by rw [hformat]; decide) hfederation

theorem assertedNameId_of_none {profile : Profile} {server : Server} {uniqueId : String}
    {nameId : Option Saml2NameId} {encrypt : Bool}
    (h : assertedNameId profile server uniqueId = some (.ok (nameId, encrypt)))
    (hformat : policyFormat profile = none) : nameId = some (transientNameId server uniqueId) := by
  unfold assertedNameId at h
  simp only [hformat, NameIdKind.ofFormat] at h
  cases h
  rfl

/-- A format that the request does not give is taken from the metadata by the validation only. The
assertion is then about the NameID that was found if that happens to be the one made up. -/
theorem assertsResolved_iff {validated : Login} {authenticationResult isConsentObtained : Bool}
    {federationId assertionId uniqueId : String}
    (hinjective : ∀ provider a b encryptedId, cx.encryptNameId provider a = some encryptedId →
      cx.encryptNameId provider b = some encryptedId → a = b)
    (hvalid : validateRequestMsg login authenticationResult isConsentObtained federationId =
      (.ok, validated))
    (hpersistent : validated.nameIdPolicy = some saml2NameIdentifierFormatPersistent)
    (hbuild : buildAssertion cx validated assertionId uniqueId = some (.ok, built)) :
    AssertsNameId cx built.profile validated.profile.nameIdentifier ↔
      policyFormat login.profile = some saml2NameIdentifierFormatPersistent ∨
        ∃ server ∈ login.profile.server,
          (remoteFederation login.profile).bind (·.localNameIdentifier) =
            some (.saml2NameId (transientNameId server uniqueId)) := by
  obtain ⟨federation, hresolved⟩ := validateRequestMsg_eq_ok hvalid hpersistent
  obtain ⟨server, nameId, encrypt, hserver, hasserted, hbuilt⟩ := buildAssertion_eq_ok hbuild
  have hformat : policyFormat validated.profile = policyFormat login.profile := by
    rw [policyFormat, policyFormat, authnRequest, authnRequest, hresolved.request]
  rw [hbuilt.assertsNameId_iff hinjective, hresolved.nameIdentifier]
  rcases hresolved.format with hexplicit | hnone
  · rw [assertedNameId_persistent hasserted (hformat.trans hexplicit) hresolved.found]
    exact iff_of_true rfl (.inl hexplicit)
  · rw [assertedNameId_of_none hasserted (hformat.trans hnone), hnone]
    rw [hresolved.server] at hserver
    simp only [hserver, Option.map_some, reduceCtorEq, Option.mem_def, Option.some.injEq,
      exists_eq_left', false_or]
    rcases hresolved.origin with hbefore | ⟨hbefore, newServer, qualifier, rfl⟩
    · rw [hbefore, Option.bind_some]
    · rw [hbefore]
      refine iff_of_false (fun h => ?_) nofun
      simp only [newFederation, transientNameId, Option.some.injEq, LassoNode.saml2NameId.injEq,
        Saml2NameId.mk.injEq] at h
      exact absurd h.1 (by decide)

end

/-- `alice` at `idp.example`, as `sp.example` knows her. -/
def aliceNameId : Saml2NameId where
  content := some "alice"
  format := some saml2NameIdentifierFormatPersistent

/-- The identity provider, with a service provider whose metadata names the persistent format. -/
def aliceServer (encryptionMode : EncryptionMode) : Server where
  provider := { providerId := some "https://idp.example", role := .idp, conformance := .saml20 }
  providers := (∅ : AList (fun _ : String => Provider)).insert "https://sp.example" {
    providerId := some "https://sp.example"
    role := .sp
    encryptionMode
    descriptors := (∅ : AList (fun _ : String => List String)).insert "sp NameIDFormat"
      [saml2NameIdentifierFormatPersistent] }

/-- A request of `sp.example` with a NameIDPolicy, and the federation of `alice`. -/
def aliceLogin (encryptionMode : EncryptionMode) (nameIdPolicy : Option Samlp2NameIdPolicy) :
    Login where
  profile := {
    server := some (aliceServer encryptionMode)
    remoteProviderId := some "https://sp.example"
    request := some (.samlp2AuthnRequest { id := some "_q", nameIdPolicy })
    response := some (.samlp2Response {})
    identity := some (({} : Identity).addFederation {
      remoteProviderId := "https://sp.example"
      localNameIdentifier := some (.saml2NameId aliceNameId) }) }

/-- The NameID of `alice` can be encrypted. -/
def aliceCx : LogoutContext :=
  { Context.refusing with
    samlp2LogoutResponseInitFromXml := fun r _ => (.castFailed, r)
    foreachOrder := id
    encryptNameId := fun _ nameId =>
      if nameId = aliceNameId then some { encryptedData := "alice" } else none
    buildResponse := fun _ _ _ => .ok }

theorem aliceCx_injective : ∀ provider a b encryptedId,
    aliceCx.encryptNameId provider a = some encryptedId →
      aliceCx.encryptNameId provider b = some encryptedId → a = b := by
  intro _ a b _ ha hb
  have hsome {n : Saml2NameId} {e : Saml2EncryptedElement}
      (h : (if n = aliceNameId then some { encryptedData := "alice" } else none) = some e) :
      n = aliceNameId := by
    split_ifs at h with hn
    exact hn
  rw [hsome ha, hsome hb]

def aliceValidated (encryptionMode : EncryptionMode) (nameIdPolicy : Option Samlp2NameIdPolicy) :
    Login :=
  (validateRequestMsg (aliceLogin encryptionMode nameIdPolicy) true true "_f").2

def aliceBuilt (encryptionMode : EncryptionMode) (nameIdPolicy : Option Samlp2NameIdPolicy) :
    Login :=
  ((buildAssertion aliceCx (aliceValidated encryptionMode nameIdPolicy) "_a" "_t").getD
    (.ok, {})).2

/-- The policy that asks for a persistent NameID. -/
def persistentPolicy : Samlp2NameIdPolicy where
  format := some saml2NameIdentifierFormatPersistent

/-- A request for a persistent NameID gets the one of `alice`, encrypted. -/
theorem alice_asserted :
    AssertsNameId aliceCx (aliceBuilt .nameId (some persistentPolicy)).profile
      (some (.saml2NameId aliceNameId)) := by
  have hvalid : validateRequestMsg (aliceLogin .nameId (some persistentPolicy)) true true "_f" =
      (.ok, aliceValidated .nameId (some persistentPolicy)) := rfl
  have hbuild : buildAssertion aliceCx (aliceValidated .nameId (some persistentPolicy)) "_a" "_t" =
      some (.ok, aliceBuilt .nameId (some persistentPolicy)) := rfl
  exact (assertsResolved_iff aliceCx_injective hvalid rfl hbuild).mpr (.inl rfl)

/-- A request without NameIDPolicy finds the federation of `alice`, and gets another NameID. -/
theorem alice_renamed :
    validateRequestMsg (aliceLogin .none none) true true "_f" = (.ok, aliceValidated .none none) ∧
      (aliceValidated .none none).nameIdPolicy = some saml2NameIdentifierFormatPersistent ∧
      (aliceValidated .none none).profile.nameIdentifier = some (.saml2NameId aliceNameId) ∧
      buildAssertion aliceCx (aliceValidated .none none) "_a" "_t" =
        some (.ok, aliceBuilt .none none) ∧
      ¬ AssertsNameId aliceCx (aliceBuilt .none none).profile
        (aliceValidated .none none).profile.nameIdentifier := by
  refine ⟨rfl, rfl, rfl, rfl, ?_⟩
  rintro ⟨assertion, hplaced, subject, hsubject, ⟨-, hnameId⟩ | ⟨hnone, -⟩⟩
  · cases hplaced
    cases hsubject
    replace hnameId : some (LassoNode.saml2NameId (transientNameId (aliceServer .none) "_t")) =
        some (.saml2NameId aliceNameId) := hnameId
    simp only [Option.some.injEq, LassoNode.saml2NameId.injEq] at hnameId
    exact absurd hnameId (by decide)
  · cases hplaced
    cases hsubject
    cases hnone

end Lasso.Saml20.SingleSignOn
