import Lasso.Login

/-!
# ID-FF 1.2 authentication requests at the identity provider

`processAuthnRequestMsg` reads a request, checks its signature and prepares a response;
`validateRequestMsg` decides on the request and puts the status into the response.
-/

namespace Lasso.IdFf

/-! ## Reading a request -/

/-- The protocol profile of the response that a request asks for. -/
def requestedProtocolProfile (request : LibAuthnRequest) :
    Option (String × LoginProtocolProfile) :=
  match request.protocolProfile with
  | none => some (libProtocolProfileBrwsArt, .brwsArt)
  | some protocolProfile =>
    if protocolProfile = libProtocolProfileBrwsArt then
      some (libProtocolProfileBrwsArt, .brwsArt)
    else if protocolProfile = libProtocolProfileBrwsPost then
      some (libProtocolProfileBrwsPost, .brwsPost)
    else if protocolProfile = libProtocolProfileBrwsLecp then
      some (libProtocolProfileBrwsLecp, .brwsLecp)
    else none

/-- `lasso_provider_has_protocol_profile` for single sign-on. -/
def hasProtocolProfile (p : Provider) (protocolProfile : String) : Bool :=
  (p.getMetadataList "SingleSignOnProtocolProfile").contains protocolProfile

/-- The signature of a request has to be verified: by the hint, or by the metadata of its issuer. -/
def mustVerifySignature (hint : SignatureVerifyHint) (remoteProvider : Provider) : Bool :=
  match hint with
  | .force => true
  | .ignore => false
  | .maybe => (remoteProvider.getMetadataOne "AuthnRequestsSigned").all (· == "true")

/-- Check the signature of a request that came with a message: the code, or the error that ends the
call. The signature status is zero afterwards: the source compares the profile itself, and not the
hint, with the zero of `SIGNATURE_VERIFY_HINT_MAYBE`, so that it never keeps the code. -/
def checkAuthnRequestSignature (cx : Context) (profile : Profile) (text : Bytes)
    (format : MessageFormat) : Except Rc (Rc × Profile) :=
  match profile.remoteProvider with
  | none => .error (.server .providerNotFound)
  | some remoteProvider =>
    let ret :=
      if mustVerifySignature profile.signatureVerifyHint remoteProvider then
        remoteProvider.verifySignature cx.toEnv (some text) (some "RequestID") format
      else .ok
    .ok (ret, { profile with signatureStatus := .ok })

/-- `lasso_lib_authn_response_new` -/
def newAuthnResponse (server : Option Server) (request : LibAuthnRequest) : SamlpResponse :=
  match server.bind (·.provider.providerId) with
  | none => { isLibAuthnResponse := true }
  | some providerId =>
    { isLibAuthnResponse := true
      inResponseTo := request.requestId
      providerId := some providerId
      relayState := request.relayState }

/-- `lasso_login_process_authn_request_msg` on the request stored in the profile, after it was read
from a message or without one. For a stored request of another class the source does not return. -/
def processAuthnRequest (cx : Context) (login : Login) (msg : Option (Bytes × MessageFormat)) :
    Rc × Login :=
  match login.profile.request with
  | none => (.profile .missingRequest, login)
  | some (.libAuthnRequest request) =>
    match requestedProtocolProfile request with
    | none => (.profile .invalidProtocolprofile, login)
    | some (uri, protocolProfile) =>
      -- check if requested single sign on protocol profile is supported
      let profile := { login.profile with server := login.profile.server.map (·.setRole .idp) }
      let login := { login with protocolProfile, profile }
      if !profile.server.any (hasProtocolProfile ·.provider uri) then
        (.profile .unsupportedProfile, login)
      else
        let checked : Except Rc (Rc × Profile) := match msg with
          | none => .ok (.ok, profile)
          | some (text, format) => checkAuthnRequestSignature cx profile text format
        match checked with
        | .error rc => (rc, login)
        | .ok (ret, profile) =>
          let response := newAuthnResponse profile.server request
          (ret, { login with
            profile := { profile with response := some (.samlpResponse response) } })
  | some _ => (.profile .invalidMsg, login)

/-- The request that a message is parsed to. -/
def readAuthnRequest (cx : Context) (text : Bytes) : ParsedMessage LibAuthnRequest :=
  initFromMessageWithFormat cx.toEnv cx.libAuthnRequest {} text .unknown

/-- The profile with a request that was read. -/
def storeAuthnRequest (profile : Profile) (request : LibAuthnRequest) : Profile :=
  { profile with
    request := some (.libAuthnRequest request)
    remoteProviderId := request.providerId
    msgRelayState := request.relayState }

/-- `lasso_login_process_authn_request_msg` -/
def processAuthnRequestMsg (cx : Context) (login : Login) (authnRequestMsg : Option Bytes) :
    Rc × Login :=
  match authnRequestMsg with
  | none => processAuthnRequest cx login none
  | some text =>
    let m := readAuthnRequest cx text
    if m.format = .unknown ∨ m.format = .error then (.profile .invalidMsg, login)
    else
      processAuthnRequest cx { login with profile := storeAuthnRequest login.profile m.node }
        (some (text, m.format))

/-! ## Deciding on a request -/

/-- The consent values for which the principal need not be asked. -/
def obtainedConsents : List String :=
  [libConsentObtained, libConsentObtainedPrior, libConsentObtainedCurrentImplicit,
    libConsentObtainedCurrentExplicit]

/-- `lasso_login_must_ask_for_consent_private` -/
def mustAskForConsent (profile : Profile) (request : LibAuthnRequest) : Bool :=
  match request.nameIdPolicy with
  | none => false
  | some nameIdPolicy =>
    if nameIdPolicy = libNameidPolicyTypeNone then false
    else if nameIdPolicy = libNameidPolicyTypeOneTime then false
    else if nameIdPolicy ≠ libNameidPolicyTypeFederated ∧ nameIdPolicy ≠ libNameidPolicyTypeAny then
      true
    else if (profile.identity.bind (·.getFederation profile.remoteProviderId)).isSome then false
    else !request.consent.any (obtainedConsents.contains ·)

/-- `lasso_login_process_federation`, given the unique identifier of a new federation. -/
def processFederation (uniqueId : String) (login : Login) (request : LibAuthnRequest)
    (isConsentObtained : Bool) : Rc × Login :=
  let identity := login.profile.identity.getD {}
  let nameIdPolicy := request.nameIdPolicy.getD libNameidPolicyTypeNone
  let login := { login with
    nameIdPolicy := some nameIdPolicy
    profile := { login.profile with identity := some identity } }
  let profile := login.profile
  let federation := identity.getFederation profile.remoteProviderId
  if nameIdPolicy = libNameidPolicyTypeOneTime then (.ok, login)
  else if nameIdPolicy = libNameidPolicyTypeNone then
    -- a federation MUST exist
    match federation with
    | none =>
      (.login .federationNotFound, { login with
        profile := profile.setResponseStatus libStatusCodeFederationDoesNotExist })
    | some federation =>
      (.ok, { login with
        profile := { profile with nameIdentifier := federation.localNameIdentifier } })
  else if nameIdPolicy ≠ libNameidPolicyTypeFederated ∧ nameIdPolicy ≠ libNameidPolicyTypeAny then
    (.login .invalidNameidpolicy, login)
  else if mustAskForConsent profile request && !isConsentObtained then
    if nameIdPolicy = libNameidPolicyTypeAny then
      (.ok, { login with nameIdPolicy := some libNameidPolicyTypeOneTime })
    else
      (.login .consentNotObtained, { login with
        profile := profile.setResponseStatus libStatusCodeFederationDoesNotExist })
  else
    match federation, profile.remoteProviderId with
    | some federation, _ =>
      (.ok, { login with
        profile := { profile with nameIdentifier := federation.localNameIdentifier } })
    | none, some remoteProviderId =>
      let nameIdentifier : LassoNode := .samlNameIdentifier {
        nameQualifier := profile.server.bind (·.provider.providerId)
        format := some libNameIdentifierFormatFederated
        content := some uniqueId }
      let federation : Federation := {
        remoteProviderId
        localNameIdentifier := some nameIdentifier }
      (.ok, { login with profile := { profile with
        identity := some (identity.addFederation federation)
        nameIdentifier := some nameIdentifier } })
    | none, none => (.ok, login)

/-- The federation of a request without signature error. For a request of another class the source
does not return. -/
def federate (uniqueId : String) (login : Login) (isConsentObtained : Bool) : Rc × Login :=
  if login.profile.signatureStatus = .ok then
    match login.profile.request with
    | some (.libAuthnRequest request) => processFederation uniqueId login request isConsentObtained
    | _ => (.profile .missingRequest, login)
  else (.ok, login)

/-- `lasso_login_validate_request_msg` -/
def validateRequestMsg (uniqueId : String) (login : Login)
    (authenticationResult isConsentObtained : Bool) : Rc × Login :=
  let fail (rc : Rc) (statusCode : String) : Rc × Login :=
    (rc, { login with profile := login.profile.setResponseStatus statusCode })
  if !authenticationResult then fail (.login .requestDenied) libStatusCodeUnknownPrincipal
  else if login.profile.signatureStatus = .ds .invalidSignature then
    fail (.login .invalidSignature) libStatusCodeInvalidSignature
  else if login.profile.signatureStatus = .ds .signatureNotFound then
    -- Unsigned AuthnRequest
    fail (.login .unsignedAuthnRequest) libStatusCodeUnsignedAuthnRequest
  else
    let (ret, login) := federate uniqueId login isConsentObtained
    if ret ≠ .ok then (ret, login)
    else (.ok, { login with profile := login.profile.setResponseStatus samlStatusCodeSuccess })

/-! ## What the functions leave in the profile -/

section

variable {cx : Context}

/-- What a validation keeps: the request, the server, and that there is no response. -/
structure KeepsRequest (before after : Profile) : Prop where
  request : after.request = before.request
  server : after.server = before.server
  response : before.response = none → after.response = none

theorem KeepsRequest.refl (profile : Profile) : KeepsRequest profile profile :=
  ⟨rfl, rfl, id⟩

theorem KeepsRequest.trans {a b c : Profile} (hab : KeepsRequest a b) (hbc : KeepsRequest b c) :
    KeepsRequest a c :=
  ⟨hbc.request.trans hab.request, hbc.server.trans hab.server, hbc.response ∘ hab.response⟩

theorem setResponseStatus_keepsRequest (profile : Profile) (statusCode : String) :
    KeepsRequest profile (profile.setResponseStatus statusCode) := by
  obtain ⟨response, hprofile, hnone⟩ := profile.setResponseStatus_eq statusCode
  rw [hprofile]
  exact ⟨rfl, rfl, hnone⟩

theorem processFederation_keepsRequest (uniqueId : String) (login : Login)
    (request : LibAuthnRequest) (isConsentObtained : Bool) :
    KeepsRequest login.profile
      (processFederation uniqueId login request isConsentObtained).2.profile := by
  unfold processFederation
  dsimp only
  have hidentity : KeepsRequest login.profile
      { login.profile with identity := some (login.profile.identity.getD {}) } := ⟨rfl, rfl, id⟩
  have hset := hidentity.trans
    (setResponseStatus_keepsRequest _ libStatusCodeFederationDoesNotExist)
  split_ifs
  · exact ⟨rfl, rfl, id⟩
  · split
    · exact hset
    · exact ⟨rfl, rfl, id⟩
  · exact ⟨rfl, rfl, id⟩
  · exact ⟨rfl, rfl, id⟩
  · exact hset
  · split <;> exact ⟨rfl, rfl, id⟩

theorem federate_keepsRequest (uniqueId : String) (login : Login) (isConsentObtained : Bool) :
    KeepsRequest login.profile (federate uniqueId login isConsentObtained).2.profile := by
  unfold federate
  split_ifs
  · split
    · exact processFederation_keepsRequest _ _ _ _
    · exact .refl _
  · exact .refl _

theorem validateRequestMsg_keepsRequest (uniqueId : String) (login : Login)
    (authenticationResult isConsentObtained : Bool) :
    KeepsRequest login.profile
      (validateRequestMsg uniqueId login authenticationResult isConsentObtained).2.profile := by
  have hfederate := federate_keepsRequest uniqueId login isConsentObtained
  unfold validateRequestMsg
  dsimp only
  split_ifs
  · exact setResponseStatus_keepsRequest _ _
  · exact setResponseStatus_keepsRequest _ _
  · exact setResponseStatus_keepsRequest _ _
  · exact hfederate
  · exact hfederate.trans (setResponseStatus_keepsRequest _ _)

end

end Lasso.IdFf
