import Lasso.Saml20.LogoutResponse

/-!
# SAML 2.0 name identifier management

Either side of a federation may rename its principal, or end the federation. The receiver does so
in `validateRequest`, the sender in `processResponseMsg`.

## Main definitions

* `initRequest`, `processRequestMsg`, `validateRequest`, `processResponseMsg` — the profile.
* `renamed` — the NameID that both sides make of a request.

## Main results

* `completesOwn_iff` — when a response completes its own request only.
-/

namespace Lasso

/-- What name identifier management rests on besides. -/
structure ManageContext extends LogoutContext where
  /-- `init_from_xml` of `LassoSamlp2ManageNameIDRequest` -/
  manageNameIdRequestInitFromXml :
    Samlp2ManageNameIdRequest → Option XmlNode → Rc × Samlp2ManageNameIdRequest
  /-- `init_from_xml` of `LassoSamlp2ManageNameIDResponse` -/
  manageNameIdResponseInitFromXml :
    Samlp2StatusResponse → Option XmlNode → Rc × Samlp2StatusResponse
  /-- `lasso_node_encrypt` of a text with the key of a provider -/
  encryptText : Provider → String → Option Saml2EncryptedElement

/-- The federation of an identity with a provider. -/
def Profile.federationWith (profile : Profile) (providerId : Option String) : Option Federation :=
  profile.identity.bind (·.getFederation providerId)

namespace Saml20

/-- `lasso_saml20_profile_set_response_status_requester` -/
def setResponseStatusRequester (profile : Profile) (code2 : String) : Profile :=
  (setResponseStatus profile saml2StatusCodeRequester (some code2)).2

/-- `lasso_saml20_profile_validate_request`: the code, the profile, and the remote provider if the
request is valid. The code of `init_response` is not looked at. -/
def validateRequest (cx : Context) (profile : Profile) (needsIdentity : Bool)
    (toNode : Samlp2StatusResponse → LassoNode) : Except ErrorRc Provider × Profile :=
  let fail (rc : Rc) (h : rc ≠ .ok) : Except ErrorRc Provider := .error ⟨rc, h⟩
  match requestAbstract profile with
  | none => (fail (.profile .missingRequest) (by simp), profile)
  | some request =>
    if needsIdentity && profile.identity.isNone then
      (fail (.profile .identityNotFound) (by simp), profile)
    else
      match request.issuer with
      | none => (fail (.profile .missingIssuer) (by simp), profile)
      | some issuer =>
        let profile := { profile with remoteProviderId := issuer.content }
        match profile.server with
        | none => (fail (.profile .missingServer) (by simp), profile)
        | some server =>
          match server.getProvider profile.remoteProviderId with
          | none => (fail (.server .providerNotFound) (by simp), profile)
          | some provider =>
            let (_, profile) := initResponse cx profile toNode {} saml2StatusCodeSuccess none
            if h : checkSignatureStatus profile ≠ .ok then
              (fail (checkSignatureStatus profile) h,
                setResponseStatusRequester profile libStatusCodeInvalidSignature)
            else (.ok provider, profile)

/-- `lasso_saml20_profile_process_any_response` on a response that could be read. -/
def receiveResponse (toNode : Samlp2StatusResponse → LassoNode) (cx : Context)
    (m : ParsedMessage Samlp2StatusResponse) (profile : Profile) (responseMsg : Bytes) :
    Rc × Profile :=
  let profile := { profile with response := some (toNode m.node) }
  match profile.server with
  | none => (.profile .missingServer, profile)
  | some server =>
    match m.node.issuer.filter isValidIssuer with
    | none =>
      (.server .providerNotFound, { profile with signatureStatus := .server .providerNotFound })
    | some issuer =>
      let profile := { profile with remoteProviderId := issuer.content }
      match server.getProvider issuer.content with
      | none =>
        (.server .providerNotFound, { profile with signatureStatus := .server .providerNotFound })
      | some remoteProvider =>
        -- verify the signature at the message level
        let profile := { profile with
          signatureStatus := remoteProvider.verifyReceived cx.toEnv (m.received responseMsg) }
        match checkStatusCode m.node.status with
        | .ok =>
          (if profile.signatureVerifyHint ≠ .ignore ∧ profile.signatureStatus ≠ .ok then
              .profile .cannotVerifySignature
            else .ok, profile)
        | rc => (rc, profile)

/-- A profile that asks for the method of a response does not receive a bare XML message. -/
theorem processAnyResponse_eq (toNode : Samlp2StatusResponse → LassoNode) (cx : Context)
    (cls : NodeClass Samlp2StatusResponse) (statusResponse : Samlp2StatusResponse)
    (profile : Profile) (responseMsg : Bytes) :
    processAnyResponse toNode cx cls statusResponse profile responseMsg =
      let profile := { profile with signatureStatus := .ok }
      let m := initFromMessageWithFormat cx.toEnv cls statusResponse responseMsg .unknown
      match requestMethod m.format with
      | none =>
        (if m.format = .xml then .profile .unsupportedProfile else .profile .invalidMsg, profile)
      | some _ => receiveResponse toNode cx m profile responseMsg := rfl

namespace NameIdManagement

/-! ## Starting a request -/

/-- The old NameID of a request, encrypted for a provider that wants nothing but that. -/
def encryptOldNameId (cx : ManageContext) (remoteProvider : Provider)
    (request : Samlp2ManageNameIdRequest) : Rc × Samlp2ManageNameIdRequest :=
  if remoteProvider.encryptionMode = .nameId then
    match request.nameId.bind (cx.encryptNameId remoteProvider) with
    | none => (.ds .encryptionFailed, request)
    | some encryptedId => (.ok, { request with nameId := none, encryptedId := some encryptedId })
  else (.ok, request)

/-- The new identifier of a request. -/
def addNewId (cx : ManageContext) (remoteProvider : Provider)
    (request : Samlp2ManageNameIdRequest) (newNameId : String) : Rc × Samlp2ManageNameIdRequest :=
  if remoteProvider.encryptionMode = .nameId then
    match cx.encryptText remoteProvider newNameId with
    | none => (.ds .encryptionFailed, request)
    | some newEncryptedId =>
      (.ok, { request with newId := none, newEncryptedId := some newEncryptedId })
  else (.ok, { request with newId := some newNameId })

/-- The NameID of the profile. -/
def profileNameId (profile : Profile) : Option Saml2NameId :=
  match profile.nameIdentifier with
  | some (.saml2NameId nameId) => some nameId
  | _ => none

/-- Remove the federation with the remote provider; the code is not looked at. -/
def removeFederation (profile : Profile) : Profile :=
  { profile with
    identity := profile.identity.map fun identity =>
      (identity.removeFederation profile.remoteProviderId).2 }

/-- The local provider is an identity provider. -/
def isIdp (profile : Profile) : Bool :=
  profile.server.any fun server =>
    server.provider.role == .idp || server.provider.role == .both

/-- `lasso_name_id_management_init_request`; the identifier of the request is given. -/
def initRequest (cx : ManageContext) (profile : Profile) (remoteProviderId : String)
    (newNameId : Option String) (httpMethod : HttpMethod) (uniqueId : String) : Rc × Profile :=
  match profile.server.bind (·.getProvider (some remoteProviderId)) with
  | none => (.server .providerNotFound, profile)
  | some remoteProvider =>
    let (rc, profile, request) := Saml20.initRequest cx.toLogoutContext profile
      (some remoteProviderId)
      (fun request => .samlp2ManageNameIdRequest { toSamlp2RequestAbstract := request }) uniqueId
      httpMethod "ManageNameIDService"
    if rc ≠ .ok then (rc, profile)
    else
      let store (request : Samlp2ManageNameIdRequest) : Profile :=
        { profile with request := some (.samlp2ManageNameIdRequest request) }
      let (rc, request) := encryptOldNameId cx remoteProvider
        { toSamlp2RequestAbstract := request, nameId := profileNameId profile }
      if rc ≠ .ok then (rc, store request)
      else
        match newNameId with
        | some newNameId =>
          let (rc, request) := addNewId cx remoteProvider request newNameId
          (rc, store request)
        | none =>
          let profile := store { request with terminate := true }
          -- if we are the IdP we can apply termination immediately
          (.ok, if isIdp profile then removeFederation profile else profile)

/-! ## What a request is made of -/

section

variable {cx : ManageContext}

theorem setupRequest_eq_ok {cx : Context} {profile after : Profile} {server : Server}
    {toNode : Samlp2RequestAbstract → LassoNode} {uniqueId : String} {httpMethod : HttpMethod}
    {rc : Rc} {request : Samlp2RequestAbstract}
    (h : setupRequest cx profile server toNode uniqueId httpMethod rc = (.ok, after, request)) :
    request = { id := some uniqueId, issuer := some { content := server.provider.providerId } } ∧
      after = { profile with
        httpRequestMethod := httpMethod, request := some (toNode request) } := by
  unfold setupRequest at h
  dsimp only at h
  split at h
  · cases h
    exact ⟨rfl, rfl⟩
  · rename_i hne
    exact absurd (congrArg Prod.fst h) hne

/-- A request that is started without error has the provider ID of the server, and the profile keeps
its server and its identity. -/
theorem profileInitRequest_eq_ok {cx : LogoutContext} {profile after : Profile}
    {remoteProviderId : Option String} {toNode : Samlp2RequestAbstract → LassoNode}
    {uniqueId : String} {httpMethod : HttpMethod} {kind : String} {request : Samlp2RequestAbstract}
    (h : Saml20.initRequest cx profile remoteProviderId toNode uniqueId httpMethod kind =
      (.ok, after, request)) :
    ∃ server, profile.server = some server ∧ after.server = some server ∧
      after.identity = profile.identity ∧
      request =
        { id := some uniqueId, issuer := some { content := server.provider.providerId } } := by
  unfold Saml20.initRequest at h
  by_cases hmethod : httpMethod ∈ [.none, .idpInitiated, .get]
  · rw [if_pos hmethod] at h
    cases h
  · rw [if_neg hmethod] at h
    split at h
    · cases h
    · rename_i server hserver
      refine ⟨server, hserver, ?_⟩
      by_cases hpaos : httpMethod = .paos
      · rw [if_pos hpaos] at h
        obtain ⟨hrequest, rfl⟩ := setupRequest_eq_ok h
        exact ⟨hserver, rfl, hrequest⟩
      · rw [if_neg hpaos] at h
        split at h
        · cases h
        · dsimp only at h
          split at h
          · rename_i hprovider
            obtain ⟨hne, -⟩ := getProvider_ne_ok hprovider
            exact absurd (congrArg Prod.fst h) hne
          · generalize (if httpMethod = .any then _ else httpMethod) = chosen at h
            split at h
            · cases h
            · obtain ⟨hrequest, rfl⟩ := setupRequest_eq_ok h
              exact ⟨hserver, rfl, hrequest⟩

/-- What a request to rename has in it. -/
structure Renames (before after : Profile) (remoteProvider : Provider) (newNameId : String)
    (request : Samlp2ManageNameIdRequest) : Prop where
  server : after.server = before.server
  identity : after.identity = before.identity
  request_eq : after.request = some (.samlp2ManageNameIdRequest request)
  issuer : request.issuer =
    some { content := before.server.bind (·.provider.providerId) }
  terminate : request.terminate = false
  encrypted : remoteProvider.encryptionMode = .nameId →
    request.nameId = none ∧ request.encryptedId.isSome ∧ request.newId = none ∧
      request.newEncryptedId.isSome
  clear : remoteProvider.encryptionMode ≠ .nameId →
    request.newId = some newNameId ∧ request.encryptedId = none

theorem initRequest_eq_ok {before after : Profile} {remoteProviderId newNameId uniqueId : String}
    {httpMethod : HttpMethod}
    (h : initRequest cx before remoteProviderId (some newNameId) httpMethod uniqueId =
      (.ok, after)) :
    ∃ remoteProvider request,
      before.server.bind (·.getProvider (some remoteProviderId)) = some remoteProvider ∧
        Renames before after remoteProvider newNameId request := by
  unfold initRequest at h
  split at h
  · cases h
  · rename_i remoteProvider hremote
    generalize hinit : Saml20.initRequest cx.toLogoutContext before _ _ _ _ _ = result at h
    obtain ⟨rc, profile, request⟩ := result
    dsimp only at h
    by_cases hrc : rc = .ok
    · subst hrc
      rw [if_neg (not_not.mpr rfl)] at h
      obtain ⟨server, hserver, hafter, hidentity, rfl⟩ := profileInitRequest_eq_ok hinit
      refine ⟨remoteProvider, ?_⟩
      unfold encryptOldNameId addNewId at h
      by_cases hmode : remoteProvider.encryptionMode = .nameId
      · simp only [if_pos hmode] at h
        split at h
        · cases h
        · rw [if_neg (not_not.mpr rfl)] at h
          split at h
          · cases h
          · cases h
            exact ⟨_, hremote, hafter.trans hserver.symm, hidentity, rfl, by rw [hserver]; rfl, rfl,
              fun _ => ⟨rfl, rfl, rfl, rfl⟩, fun hne => absurd hmode hne⟩
      · simp only [if_neg hmode] at h
        cases h
        exact ⟨_, hremote, hafter.trans hserver.symm, hidentity, rfl, by rw [hserver]; rfl, rfl,
          fun heq => absurd heq hmode, fun _ => ⟨rfl, rfl⟩⟩
    · rw [if_pos hrc] at h
      exact absurd (congrArg Prod.fst h) hrc

end

/-! ## Answering a request -/

/-- The ManageNameIDRequest that a message is parsed to. -/
def readRequest (cx : ManageContext) (text : Bytes) : ParsedMessage Samlp2ManageNameIdRequest :=
  initFromMessageWithFormat cx.toEnv
    (saml2NodeClass cx.toEnv cx.manageNameIdRequestInitFromXml) {} text .unknown

/-- Decrypt the name identifier of the stored request. -/
def decryptRequest (cx : Context) (profile : Profile) (request : Samlp2ManageNameIdRequest) :
    Rc × Profile :=
  let (rc, profile, nameId, encryptedId) :=
    processNameIdentifierDecryption cx profile request.nameId request.encryptedId
  (rc, { profile with
    request := some (.samlp2ManageNameIdRequest { request with nameId, encryptedId }) })

/-- `lasso_name_id_management_process_request_msg` -/
def processRequestMsg (cx : ManageContext) (profile : Profile) (requestMsg : Bytes) :
    Rc × Profile :=
  let (rc, profile) := processAnyRequest .samlp2ManageNameIdRequest (·.toSamlp2RequestAbstract)
    cx.toContext (saml2NodeClass cx.toEnv cx.manageNameIdRequestInitFromXml) {} profile requestMsg
  if rc ≠ .ok then (rc, profile)
  else
    let (rc, profile) := decryptRequest cx.toContext profile (readRequest cx requestMsg).node
    if rc ≠ .ok then (rc, profile) else (checkSignatureStatus profile, profile)

/-- The NameID after a request: a service provider adds its own identifier to the one that the
identity provider has chosen, and an identity provider replaces it. -/
def renamed (bySp : Bool) (nameId : Saml2NameId) (newId : Option String) : Saml2NameId where
  format := nameId.format
  nameQualifier := nameId.nameQualifier
  spNameQualifier := nameId.spNameQualifier
  spProvidedId := if bySp then newId else none
  content := if bySp then nameId.content else newId

/-- The last part of a validation: the federation that the request is about, and its change. -/
def manageNameId (profile : Profile) (remoteProvider : Provider)
    (request : Samlp2ManageNameIdRequest) : Rc × Profile :=
  match profile.federationWith remoteProvider.providerId, remoteProvider.providerId with
  | some federation, some remoteProviderId =>
    match request.nameId with
    | none =>
      (.profile .nameIdentifierNotFound, setResponseStatusRequester profile "MissingNameID")
    | some nameId =>
      if !federation.verifyNameIdentifier (.saml2NameId nameId) then
        (.profile .federationNotFound,
          setResponseStatusResponder profile saml2StatusCodeUnknownPrincipal)
      else if request.terminate then
        (.ok, { profile with
          identity := profile.identity.map fun identity =>
            (identity.removeFederation (some remoteProviderId)).2 })
      else
        let federation := { federation with
          localNameIdentifier := some (.saml2NameId
            (renamed (remoteProvider.role == .sp) nameId request.newId)) }
        -- the federation is changed where it is, and added by its own provider
        (.ok, { profile with
          identity := profile.identity.map fun identity =>
            (identity.replaceFederation remoteProviderId federation).addFederation federation })
  | _, _ => (.profile .federationNotFound, profile)

/-- A request about the federation with a provider, which knows its NameID. -/
structure About (profile : Profile) (p : Provider) (request : Samlp2ManageNameIdRequest)
    (identity : Identity) (providerId : String) (federation : Federation) (nameId : Saml2NameId) :
    Prop where
  identity_eq : profile.identity = some identity
  providerId_eq : p.providerId = some providerId
  found : identity.getFederation (some providerId) = some federation
  nameId_eq : request.nameId = some nameId
  verified : federation.verifyNameIdentifier (.saml2NameId nameId) = true

/-- The ways in which the last part of a validation ends, by what the request is about. -/
inductive ManageOutcome (profile : Profile) (p : Provider) (request : Samlp2ManageNameIdRequest) :
    Rc × Profile → Prop
  | notFederated (hfederation : profile.federationWith p.providerId = none) :
      ManageOutcome profile p request (.profile .federationNotFound, profile)
  | noNameId {federation : Federation}
      (hfederation : profile.federationWith p.providerId = some federation)
      (hnameId : request.nameId = none) :
      ManageOutcome profile p request
        (.profile .nameIdentifierNotFound, setResponseStatusRequester profile "MissingNameID")
  | unknownPrincipal {federation : Federation} {nameId : Saml2NameId}
      (hfederation : profile.federationWith p.providerId = some federation)
      (hnameId : request.nameId = some nameId)
      (hverify : federation.verifyNameIdentifier (.saml2NameId nameId) = false) :
      ManageOutcome profile p request (.profile .federationNotFound,
        setResponseStatusResponder profile saml2StatusCodeUnknownPrincipal)
  | removed {identity : Identity} {providerId : String} {federation : Federation}
      {nameId : Saml2NameId}
      (habout : About profile p request identity providerId federation nameId)
      (hterminate : request.terminate = true) :
      ManageOutcome profile p request (.ok, { profile with
        identity := some (identity.removeFederation (some providerId)).2 })
  | changed {identity : Identity} {providerId : String} {federation after : Federation}
      {nameId : Saml2NameId}
      (habout : About profile p request identity providerId federation nameId)
      (hterminate : request.terminate = false)
      (hafter : after = { federation with
        localNameIdentifier := some (.saml2NameId
          (renamed (p.role == .sp) nameId request.newId)) }) :
      ManageOutcome profile p request (.ok, { profile with
        identity := some ((identity.replaceFederation providerId after).addFederation after) })

section

variable {profile : Profile} {p : Provider} {request : Samlp2ManageNameIdRequest}
  {identity : Identity} {providerId : String} {federation : Federation} {nameId : Saml2NameId}

theorem About.federationWith_eq
    (h : About profile p request identity providerId federation nameId) :
    profile.federationWith p.providerId = some federation := by
  rw [Profile.federationWith, h.identity_eq, h.providerId_eq]
  exact h.found

theorem About.getFederation_changed
    (h : About profile p request identity providerId federation nameId) (after : Federation) :
    ((identity.replaceFederation providerId after).addFederation after).getFederation
      (some providerId) = some after := by
  refine Identity.getFederation_addFederation_of_eq ?_
  exact Identity.getFederation_replaceFederation (by rw [h.found]; rfl)

end

theorem manageNameId_outcome (profile : Profile) (p : Provider)
    (request : Samlp2ManageNameIdRequest) :
    ManageOutcome profile p request (manageNameId profile p request) := by
  unfold manageNameId
  cases hfederation : profile.federationWith p.providerId with
  | none => exact .notFederated hfederation
  | some federation =>
    obtain ⟨identity, hidentity, hlookup⟩ := Option.bind_eq_some_iff.mp hfederation
    cases hid : p.providerId with
    | none =>
      rw [hid] at hlookup
      cases hlookup
    | some providerId =>
      rw [hid] at hlookup
      dsimp only
      cases hnameId : request.nameId with
      | none => exact .noNameId hfederation hnameId
      | some nameId =>
        dsimp only
        cases hverify : federation.verifyNameIdentifier (.saml2NameId nameId) with
        | false => exact .unknownPrincipal hfederation hnameId hverify
        | true =>
          have habout : About profile p request identity providerId federation nameId :=
            ⟨hidentity, hid, hlookup, hnameId, hverify⟩
          rw [hidentity, Bool.not_true, if_neg Bool.false_ne_true]
          cases hterminate : request.terminate with
          | true => exact .removed habout hterminate
          | false => exact .changed habout hterminate rfl

/-- `lasso_name_id_management_validate_request`. A request of another class does not return. -/
def validateRequest (cx : ManageContext) (profile : Profile) : Option (Rc × Profile) :=
  match Saml20.validateRequest cx.toContext profile true .samlp2ManageNameIdResponse with
  | (.error rc, profile) => some (rc, profile)
  | (.ok remoteProvider, profile) =>
    match profile.request with
    | some (.samlp2ManageNameIdRequest request) =>
      some (manageNameId profile remoteProvider request)
    | _ => none

/-! ## Completing a request -/

/-- The ManageNameIDResponse that a message is parsed to. -/
def readResponse (cx : ManageContext) (text : Bytes) : ParsedMessage Samlp2StatusResponse :=
  initFromMessageWithFormat cx.toEnv
    (saml2NodeClass cx.toEnv cx.manageNameIdResponseInitFromXml) {} text .unknown

/-- A response could be read. -/
def isRead (format : MessageFormat) : Bool :=
  format != .xschemaError && format != .error && format != .unknown

/-- `lasso_saml20_profile_process_any_response` with a ManageNameIDResponse; the method is not asked
for. -/
def processAnyResponse (cx : ManageContext) (profile : Profile) (responseMsg : Bytes) :
    Rc × Profile :=
  let profile := { profile with signatureStatus := .ok }
  let m := readResponse cx responseMsg
  if isRead m.format then
    receiveResponse .samlp2ManageNameIdResponse cx.toContext m profile responseMsg
  else (.profile .invalidMsg, profile)

/-- The change of a federation that a completed request makes: it is removed, or renamed. A request
to rename without NameID does not return. -/
def completion (bySp : Bool) (request : Samlp2ManageNameIdRequest) (federation : Federation) :
    Option (Option Federation) :=
  if request.terminate then some none
  else request.nameId.map fun nameId => some { federation with
    localNameIdentifier := some (.saml2NameId (renamed bySp nameId request.newId)) }

/-- The part of `lasso_name_id_management_process_response_msg` about a good response. Without an
identity, and without NameID in the request, a rename does not return. -/
def completeRequest (profile : Profile) (server : Server) (remoteProviderId : String)
    (request : Samlp2ManageNameIdRequest) : Option (Rc × Profile) :=
  if request.terminate then some (.ok, removeFederation profile)
  else
    request.nameId.bind fun nameId =>
      profile.identity.map fun identity =>
        match identity.getFederation (some remoteProviderId) with
        | none => (.profile .federationNotFound, profile)
        | some federation =>
          (.ok, { profile with
            identity := some (identity.replaceFederation remoteProviderId { federation with
              localNameIdentifier := some (.saml2NameId
                (renamed (server.provider.role == .sp) nameId request.newId)) }) })

/-- `lasso_name_id_management_process_response_msg`. It does not return without a request. -/
def processResponseMsg (cx : ManageContext) (profile : Profile) (responseMsg : Bytes) :
    Option (Rc × Profile) :=
  let (rc, profile) := processAnyResponse cx profile responseMsg
  if rc ≠ .ok then some (rc, profile)
  -- stop here if signature validation failed
  else if checkSignatureStatus profile ≠ .ok then some (checkSignatureStatus profile, profile)
  else
    match profile.request, profile.server, profile.remoteProviderId with
    | some (.samlp2ManageNameIdRequest request), some server, some remoteProviderId =>
      completeRequest profile server remoteProviderId request
    | _, _, _ => none

/-! ## What a response completes -/

section

variable {cx : ManageContext} {profile : Profile} {text : Bytes} {issuer : String}

/-- A response that is acted on: the server knows its issuer, it has the status Success, and it is
verified, unless that is not asked for. -/
structure Accepted (cx : ManageContext) (profile : Profile) (text : Bytes) (issuer : String) :
    Prop where
  read : isRead (readResponse cx text).format = true
  issuer_eq : ∃ nameId, (readResponse cx text).node.issuer = some nameId ∧
    isValidIssuer nameId = true ∧ nameId.content = some issuer
  known : ∃ server p, profile.server = some server ∧ server.getProvider (some issuer) = some p ∧
    (profile.signatureVerifyHint ≠ .ignore →
      p.verifyReceived cx.toEnv ((readResponse cx text).received text) = .ok)
  success : checkStatusCode (readResponse cx text).node.status = .ok

/-- The profile with a response and its issuer. -/
def storeResponse (profile : Profile) (response : Samlp2StatusResponse) (issuer : String)
    (signatureStatus : Rc) : Profile :=
  { profile with
    signatureStatus
    response := some (.samlp2ManageNameIdResponse response)
    remoteProviderId := some issuer }

/-- An accepted response and its issuer are put into the profile, and the signature is good. -/
theorem processAnyResponse_of_accepted (h : Accepted cx profile text issuer) :
    ∃ signatureStatus, processAnyResponse cx profile text =
        (.ok, storeResponse profile (readResponse cx text).node issuer signatureStatus) ∧
      (profile.signatureVerifyHint ≠ .ignore → signatureStatus = .ok) := by
  obtain ⟨nameId, hissuer, hvalid, hcontent⟩ := h.issuer_eq
  obtain ⟨server, p, hserver, hp, hverified⟩ := h.known
  refine ⟨p.verifyReceived cx.toEnv ((readResponse cx text).received text), ?_, hverified⟩
  have hgood : ¬(profile.signatureVerifyHint ≠ .ignore ∧
      p.verifyReceived cx.toEnv ((readResponse cx text).received text) ≠ .ok) :=
    fun hbad => hbad.2 (hverified hbad.1)
  unfold processAnyResponse
  dsimp only
  rw [if_pos h.read]
  unfold receiveResponse
  simp only [hserver, hissuer, Option.filter_some, hvalid, if_true, hcontent, hp, h.success]
  rw [if_neg hgood]
  simp only [storeResponse, hserver]

/-- Any response that is read without error is accepted. -/
theorem accepted_of_processAnyResponse (h : (processAnyResponse cx profile text).1 = .ok) :
    ∃ issuer, Accepted cx profile text issuer := by
  unfold processAnyResponse at h
  dsimp only at h
  split_ifs at h with hread
  unfold receiveResponse at h
  dsimp only at h
  split at h
  · cases h
  · rename_i server hserver
    split at h
    · cases h
    · rename_i nameId hissuer
      obtain ⟨hissuer, hvalid⟩ := Option.filter_eq_some_iff.mp hissuer
      split at h
      · cases h
      · rename_i p hp
        cases hcontent : nameId.content with
        | none =>
          rw [hcontent] at hp
          cases hp
        | some issuer =>
          rw [hcontent] at hp
          split at h
          · rename_i hsuccess
            refine ⟨issuer, hread, ⟨nameId, hissuer, hvalid, hcontent⟩,
              ⟨server, p, hserver, hp, fun hhint => ?_⟩, hsuccess⟩
            by_contra hbad
            rw [if_pos ⟨hhint, hbad⟩] at h
            cases h
          · rename_i hfailed
            exact absurd h hfailed

theorem receiveResponse_identity (toNode : Samlp2StatusResponse → LassoNode) (cx : Context)
    (m : ParsedMessage Samlp2StatusResponse) (profile : Profile) (text : Bytes) :
    (receiveResponse toNode cx m profile text).2.identity = profile.identity := by
  unfold receiveResponse
  dsimp only
  split
  · rfl
  · split
    · rfl
    · split
      · rfl
      · split <;> rfl

theorem processAnyResponse_identity (cx : ManageContext) (profile : Profile) (text : Bytes) :
    (processAnyResponse cx profile text).2.identity = profile.identity := by
  unfold processAnyResponse
  dsimp only
  split_ifs
  · exact receiveResponse_identity _ _ _ _ _
  · rfl

/-- Any other response leaves the identity as it is. -/
theorem processResponseMsg_of_not_accepted (h : ∀ issuer, ¬ Accepted cx profile text issuer) :
    ∀ result ∈ processResponseMsg cx profile text, result.2.identity = profile.identity := by
  have hrc : (processAnyResponse cx profile text).1 ≠ .ok := by
    intro hok
    obtain ⟨issuer, haccepted⟩ := accepted_of_processAnyResponse hok
    exact h issuer haccepted
  intro result hresult
  unfold processResponseMsg at hresult
  dsimp only at hresult
  rw [if_pos hrc] at hresult
  cases hresult
  exact processAnyResponse_identity cx profile text

/-- What an accepted response makes of the federations: those with other providers stay, and the one
with its issuer is completed, if there is one. -/
theorem federationWith_completeRequest {server : Server} {request : Samlp2ManageNameIdRequest}
    (hremote : profile.remoteProviderId = some issuer)
    {result : Rc × Profile} (h : result ∈ completeRequest profile server issuer request) :
    (∀ key, key ≠ some issuer → result.2.federationWith key = profile.federationWith key) ∧
      (profile.federationWith (some issuer) = none →
        result.2.federationWith (some issuer) = none) ∧
      ∀ federation, profile.federationWith (some issuer) = some federation →
        completion (server.provider.role == .sp) request federation =
          some (result.2.federationWith (some issuer)) := by
  unfold completeRequest at h
  unfold completion Profile.federationWith
  split_ifs at h ⊢ with hterminate
  · cases h
    unfold removeFederation
    cases profile.identity with
    | none => exact ⟨fun _ _ => rfl, fun _ => rfl, fun _ h => nomatch h⟩
    | some identity =>
      rw [hremote]
      have hremoved := Identity.getFederation_removeFederation identity issuer
      exact ⟨fun key hkey => Identity.getFederation_removeFederation_ne hkey, fun _ => hremoved,
        fun _ _ => congrArg some hremoved.symm⟩
  · obtain ⟨nameId, hnameId, h⟩ := Option.bind_eq_some_iff.mp h
    obtain ⟨identity, hidentity, h⟩ := Option.map_eq_some_iff.mp h
    rw [hidentity, hnameId]
    cases hfederation : identity.getFederation (some issuer) with
    | none =>
      rw [hfederation] at h
      cases h
      rw [hidentity]
      refine ⟨fun _ _ => rfl, fun _ => hfederation, fun f hf => ?_⟩
      cases hfederation.symm.trans hf
    | some federation =>
      rw [hfederation] at h
      cases h
      refine ⟨fun key hkey => Identity.getFederation_replaceFederation_ne hkey, fun hnone => ?_,
        fun f hf => ?_⟩
      · cases hfederation.symm.trans hnone
      · cases hfederation.symm.trans hf
        exact congrArg some
          (Identity.getFederation_replaceFederation (by rw [hfederation]; rfl)).symm

/-- A federation that can be completed is. -/
theorem completeRequest_isSome {server : Server} {request : Samlp2ManageNameIdRequest}
    {federation : Federation} {after : Option Federation}
    (hfederation : profile.federationWith (some issuer) = some federation)
    (h : completion (server.provider.role == .sp) request federation = some after) :
    (completeRequest profile server issuer request).isSome = true := by
  obtain ⟨identity, hidentity, -⟩ := Option.bind_eq_some_iff.mp hfederation
  unfold completeRequest
  unfold completion at h
  split_ifs at h ⊢
  · rfl
  · obtain ⟨nameId, hnameId, -⟩ := Option.map_eq_some_iff.mp h
    rw [hnameId, hidentity]
    rfl

/-- An accepted response is acted on by the pending request. -/
theorem processResponseMsg_of_accepted (h : Accepted cx profile text issuer) {server : Server}
    (hserver : profile.server = some server) :
    ∃ signatureStatus, processResponseMsg cx profile text =
      match profile.request with
      | some (.samlp2ManageNameIdRequest request) =>
        completeRequest (storeResponse profile (readResponse cx text).node issuer signatureStatus)
          server issuer request
      | _ => none := by
  obtain ⟨signatureStatus, hprocess, hverified⟩ := processAnyResponse_of_accepted h
  refine ⟨signatureStatus, ?_⟩
  have hgood : checkSignatureStatus
      (storeResponse profile (readResponse cx text).node issuer signatureStatus) = .ok := by
    unfold checkSignatureStatus storeResponse
    dsimp only
    split
    · exact hverified (by simp [*])
    · exact hverified (by simp [*])
    · rfl
  unfold processResponseMsg
  rw [hprocess]
  dsimp only
  rw [if_neg (not_not.mpr rfl), if_neg (not_not.mpr hgood)]
  simp only [storeResponse, hserver]
  split <;> simp_all

/-- A response that is acted on changes what the pending request asks for. -/
theorem federationWith_of_accepted (h : Accepted cx profile text issuer) {server : Server}
    (hserver : profile.server = some server) {result : Rc × Profile}
    (hresult : result ∈ processResponseMsg cx profile text) :
    ∃ request, profile.request = some (.samlp2ManageNameIdRequest request) ∧
      (∀ key, key ≠ some issuer → result.2.federationWith key = profile.federationWith key) ∧
      (profile.federationWith (some issuer) = none →
        result.2.federationWith (some issuer) = none) ∧
      ∀ federation, profile.federationWith (some issuer) = some federation →
        completion (server.provider.role == .sp) request federation =
          some (result.2.federationWith (some issuer)) := by
  obtain ⟨signatureStatus, hprocess⟩ := processResponseMsg_of_accepted h hserver
  rw [hprocess] at hresult
  split at hresult
  · rename_i request hrequest
    have hissuer : (storeResponse profile (readResponse cx text).node issuer
      signatureStatus).remoteProviderId = some issuer := rfl
    exact ⟨request, hrequest, federationWith_completeRequest hissuer hresult⟩
  · cases hresult

/-! ## Its own request only -/

/-- What is expected of the processing of a response, if it returns: no federation changes but the
one with the provider that the request was sent to, and that one for a response of this provider
with the status Success, to the pending request. -/
structure CompletesOwn (cx : ManageContext) (profile : Profile) (text : Bytes) : Prop where
  others : ∀ result ∈ processResponseMsg cx profile text,
    ∀ providerId, some providerId ≠ profile.remoteProviderId →
      result.2.federationWith (some providerId) = profile.federationWith (some providerId)
  own : ∀ result ∈ processResponseMsg cx profile text,
    result.2.federationWith profile.remoteProviderId ≠
        profile.federationWith profile.remoteProviderId →
      (readResponse cx text).node.issuer.bind (·.content) = profile.remoteProviderId ∧
      Status.topLevel (readResponse cx text).node.status = some saml2StatusCodeSuccess ∧
      (readResponse cx text).node.inResponseTo = (requestAbstract profile).bind (·.id)

/-- A response that is accepted is the one to the pending request, of the provider that it was sent
to, unless it changes nothing. -/
def AnswersPending (cx : ManageContext) (profile : Profile) (text : Bytes) : Prop :=
  ∀ issuer request server federation after, Accepted cx profile text issuer →
    profile.request = some (.samlp2ManageNameIdRequest request) →
    profile.server = some server →
    profile.federationWith (some issuer) = some federation →
    completion (server.provider.role == .sp) request federation = some after →
      after = some federation ∨
        (profile.remoteProviderId = some issuer ∧
          (readResponse cx text).node.inResponseTo = request.id)

theorem topLevel_of_checkStatusCode {status : Option Status} (h : checkStatusCode status = .ok) :
    Status.topLevel status = some saml2StatusCodeSuccess := by
  unfold checkStatusCode at h
  unfold Status.topLevel
  split at h
  · cases h
  · rename_i statusCode hstatusCode
    rw [hstatusCode]
    split_ifs at h with hvalue
    exact hvalue

/-- When a response completes its own request only. -/
theorem completesOwn_iff (cx : ManageContext) (profile : Profile) (text : Bytes) :
    CompletesOwn cx profile text ↔ AnswersPending cx profile text := by
  constructor
  · intro h issuer request server federation after haccepted hrequest hserver hfederation hafter
    obtain ⟨signatureStatus, hprocess⟩ := processResponseMsg_of_accepted haccepted hserver
    rw [hrequest] at hprocess
    dsimp only at hprocess
    have hstored : (storeResponse profile (readResponse cx text).node issuer
      signatureStatus).federationWith (some issuer) = some federation := hfederation
    obtain ⟨result, hresult⟩ :=
      Option.isSome_iff_exists.mp (completeRequest_isSome hstored hafter)
    rw [← hprocess] at hresult
    obtain ⟨request', hrequest', -, -, hcompletion⟩ :=
      federationWith_of_accepted haccepted hserver hresult
    cases hrequest.symm.trans hrequest'
    have hchanged : after = result.2.federationWith (some issuer) :=
      Option.some.inj (hafter.symm.trans (hcompletion federation hfederation))
    by_cases hremote : profile.remoteProviderId = some issuer
    · refine or_iff_not_imp_left.mpr fun hne => ⟨hremote, ?_⟩
      have hown := h.own result hresult (by rwa [hremote, hfederation, ← hchanged])
      rw [requestAbstract, hrequest] at hown
      exact hown.2.2
    · have hsame := h.others result hresult issuer fun heq => hremote heq.symm
      exact .inl (hchanged.trans (hsame.trans hfederation))
  · intro h
    by_cases haccepted : ∃ issuer, Accepted cx profile text issuer
    · obtain ⟨issuer, haccepted⟩ := haccepted
      obtain ⟨server, -, hserver, -⟩ := haccepted.known
      refine ⟨fun result hresult providerId hne => ?_, fun result hresult hchanged => ?_⟩
      all_goals
        obtain ⟨request, hrequest, hothers, hnone, hcompletion⟩ :=
          federationWith_of_accepted haccepted hserver hresult
      · by_cases hissuer : providerId = issuer
        · subst hissuer
          cases hfederation : profile.federationWith (some providerId) with
          | none => exact hnone hfederation
          | some federation =>
            exact (h providerId request server federation _ haccepted hrequest hserver hfederation
              (hcompletion federation hfederation)).resolve_right fun hown => hne hown.1.symm
        · exact hothers _ fun heq => hissuer (Option.some.inj heq)
      · have hremote : profile.remoteProviderId = some issuer := by
          by_contra hne
          exact hchanged (hothers _ hne)
        rw [hremote] at hchanged ⊢
        cases hfederation : profile.federationWith (some issuer) with
        | none => exact absurd ((hnone hfederation).trans hfederation.symm) hchanged
        | some federation =>
          obtain ⟨-, hreply⟩ := (h issuer request server federation _ haccepted hrequest hserver
            hfederation (hcompletion federation hfederation)).resolve_left
              fun heq => hchanged (heq.trans hfederation.symm)
          obtain ⟨nameId, hnameId, -, hcontent⟩ := haccepted.issuer_eq
          refine ⟨by rw [hnameId]; exact hcontent,
            topLevel_of_checkStatusCode haccepted.success, ?_⟩
          rw [requestAbstract, hrequest]
          exact hreply
    · have hsame := processResponseMsg_of_not_accepted (not_exists.mp haccepted)
      refine ⟨fun result hresult providerId _ => ?_, fun result hresult hchanged => ?_⟩
      · rw [Profile.federationWith, hsame result hresult]
        rfl
      · rw [Profile.federationWith, hsame result hresult] at hchanged
        exact absurd rfl hchanged

end

/-! ## Someone else's response -/

/-- The request of the profile was started without error. -/
def Pending (cx : ManageContext) (profile : Profile) : Prop :=
  ∃ before remoteProviderId newNameId httpMethod uniqueId,
    initRequest cx before remoteProviderId newNameId httpMethod uniqueId = (.ok, profile)

/-- The response is signed by a provider that the server knows. -/
def SignedByKnown (cx : ManageContext) (profile : Profile) (text : Bytes) : Prop :=
  ∃ server p, profile.server = some server ∧
    server.getProvider ((readResponse cx text).node.issuer.bind (·.content)) = some p ∧
    p.verifyReceived cx.toEnv ((readResponse cx text).received text) = .ok

/-- An identity provider that takes requests by SOAP. -/
def renamingIdp (providerId : String) : Provider where
  providerId := some providerId
  role := .idp
  conformance := .saml20
  publicKey := some "idp.pem"
  signingPublicKeys := [⟨.rsa, "k".toList⟩]
  endpoints := [{
    role := .idp
    kind := "ManageNameIDService"
    binding := saml2MetadataBindingSoap
    url := "https://idp.example/soap" }]

/-- The service provider that knows two of them. -/
def renamingServer : Server :=
  (Server.addProvider (Server.addProvider {
    provider := { providerId := some "https://sp.example", role := .sp, conformance := .saml20 } }
    (renamingIdp "https://idp1.example")).2 (renamingIdp "https://idp2.example")).2

/-- The federation with an identity provider, which calls the principal by `name`. -/
def renamingFederation (providerId name : String) : Federation where
  remoteProviderId := providerId
  localNameIdentifier := some (.saml2NameId { content := some name })

/-- The principal is `alice` for the first identity provider and `bob` for the second one. -/
def renamingProfile : Profile where
  server := some renamingServer
  identity := some ((Identity.addFederation {}
    (renamingFederation "https://idp1.example" "alice")).addFederation
    (renamingFederation "https://idp2.example" "bob"))

def renamingResponseXml : XmlNode :=
  .element (some saml2ProtocolHref) "ManageNameIDResponse" [{ name := "ID", value := "_x" }]
    [.element (some xmlSecDSigNs) "Signature" [] []]

/-- Every message is a response of `issuer`, with a good signature, to the request `_o`. -/
def renamingCx (issuer : String) : ManageContext :=
  { Context.refusing with
    parseMemory := fun _ => some renamingResponseXml
    dsigVerify := fun _ _ => .succeeded [some "#_x"]
    samlp2LogoutResponseInitFromXml := fun r _ => (.castFailed, r)
    foreachOrder := id
    encryptNameId := fun _ _ => none
    buildResponse := fun _ _ _ => .ok
    manageNameIdRequestInitFromXml := fun r _ => (.castFailed, r)
    manageNameIdResponseInitFromXml := fun r _ => (.ok, { r with
      issuer := some { content := some issuer }
      inResponseTo := some "_o"
      status := some { statusCode := some { value := some saml2StatusCodeSuccess } } })
    encryptText := fun _ _ => none }

/-- The service provider has asked the first identity provider to add `alice2`. -/
def renamingPending : Profile :=
  (initRequest (renamingCx "https://idp2.example") renamingProfile "https://idp1.example"
    (some "alice2") .soap "_r").2

/-- The content of the local identifier of a federation. -/
def localContent (profile : Profile) (providerId : String) : Option String :=
  ((profile.federationWith (some providerId)).bind (·.localNameIdentifier)).bind (·.nameContent)

/-- The response of the second identity provider renames its own federation to `alice`. -/
theorem renames_stranger :
    ¬ ∀ (cx : ManageContext) (profile : Profile) (text : Bytes), Pending cx profile →
        SignedByKnown cx profile text → CompletesOwn cx profile text := by
  intro h
  have hpending : Pending (renamingCx "https://idp2.example") renamingPending :=
    ⟨renamingProfile, "https://idp1.example", some "alice2", .soap, "_r", rfl⟩
  have hsigned : SignedByKnown (renamingCx "https://idp2.example") renamingPending "<m>".toList :=
    ⟨renamingServer, renamingIdp "https://idp2.example", rfl, rfl, by decide⟩
  obtain ⟨result, hresult, hrenamed⟩ : ∃ result ∈ processResponseMsg
      (renamingCx "https://idp2.example") renamingPending "<m>".toList,
      localContent result.2 "https://idp2.example" = some "alice" :=
    ⟨_, rfl, by decide⟩
  have hkept := (h _ _ _ hpending hsigned).others result hresult "https://idp2.example" (by decide)
  rw [localContent, hkept] at hrenamed
  revert hrenamed
  decide

end NameIdManagement

end Saml20

end Lasso
