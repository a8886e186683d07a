import Lasso.Profile

/-!
# SAML 2.0 profiles

What the SAML 2.0 profiles share: reading a request and verifying its signature, decrypting a name
identifier, and preparing a response.
-/

namespace Lasso.Saml20

/-- `get_provider` -/
def getProvider (profile : Profile) : Except Rc Provider :=
  match profile.server with
  | none => .error (.profile .missingServer)
  | some server =>
    match server.getProvider profile.remoteProviderId with
    | none => .error (.server .providerNotFound)
    | some provider => .ok provider

/-- The loop that tries the private keys on an encrypted element. -/
def decryptWithKeys (cx : Context) (encrypted : Saml2EncryptedElement) (rc : Rc) :
    List SecKey → Except Rc LassoNode
  | [] => .error rc
  | key :: keys =>
    match cx.decrypt encrypted key with
    | .ok node => .ok node
    | .error rc => decryptWithKeys cx encrypted rc keys

theorem decryptWithKeys_ne_ok {cx : Context} {encrypted : Saml2EncryptedElement} {rc rc' : Rc}
    {keys : List SecKey} (hrc : rc ≠ .ok)
    (h : decryptWithKeys cx encrypted rc keys = .error rc') : rc' ≠ .ok := by
  induction keys generalizing rc with
  | nil =>
    cases h
    exact hrc
  | cons key keys ih =>
    unfold decryptWithKeys at h
    split at h
    · cases h
    · rename_i rc hdecrypt
      exact ih rc.property h

/-- What these attempts leave in the field that they write to if they all fail. Data that decrypts
to an element which no object can be made from clears the field. -/
def decryptOutput (cx : Context) (encrypted : Saml2EncryptedElement) (output : Option LassoNode)
    (keys : List SecKey) : Option LassoNode :=
  keys.foldl (fun output key =>
    match cx.decrypt encrypted key with
    | .ok node => some node
    | .error rc => if rc.val = .xml .objectConstructionFailed then none else output) output

/-- `lasso_server_get_encryption_private_keys` -/
def encryptionPrivateKeys (profile : Profile) : List SecKey :=
  profile.server.elim [] (·.encryptionPrivateKeys)

/-- `lasso_saml20_profile_process_name_identifier_decryption`: the code, the profile, and the new
values of the NameID and EncryptedID fields. -/
def processNameIdentifierDecryption (cx : Context) (profile : Profile)
    (nameId : Option Saml2NameId) (encryptedId : Option Saml2EncryptedElement) :
    Rc × Profile × Option Saml2NameId × Option Saml2EncryptedElement :=
  match nameId, encryptedId with
  | none, some encrypted =>
    match decryptWithKeys cx encrypted (.profile .missingEncryptionPrivateKey)
        (encryptionPrivateKeys profile) with
    | .error rc =>
      let output :=
        decryptOutput cx encrypted profile.nameIdentifier (encryptionPrivateKeys profile)
      (rc, { profile with nameIdentifier := output }, nameId, encryptedId)
    | .ok node =>
      let profile := { profile with nameIdentifier := some node }
      match node with
      -- swap the node contents
      | .saml2NameId n => (.ok, profile, some n, none)
      | _ => (.profile .missingNameIdentifier, profile, nameId, encryptedId)
  | _, _ =>
    (.ok, { profile with nameIdentifier := nameId.map .saml2NameId }, nameId, encryptedId)

theorem processNameIdentifierDecryption_eq (cx : Context) (profile : Profile)
    (nameId : Option Saml2NameId) (encryptedId : Option Saml2EncryptedElement) :
    ∃ nameIdentifier, (processNameIdentifierDecryption cx profile nameId encryptedId).2.1 =
      { profile with nameIdentifier := nameIdentifier } := by
  unfold processNameIdentifierDecryption
  repeat' split
  all_goals exact ⟨_, rfl⟩

/-! ## Requests -/

/-- The binding that a stored request came over, by the format of the message. -/
def requestMethod : MessageFormat → Option HttpMethod
  | .base64 => some .post
  | .soap => some .soap
  | .query => some .redirect
  | .xschemaError | .error | .unknown | .xml => none

section Request

variable {α : Type*} (toNode : α → LassoNode) (abstract : α → Samlp2RequestAbstract)

/-- The profile once the request is stored in it. -/
def storeRequest (cx : Context) (profile : Profile) (m : ParsedMessage α) (text : Bytes)
    (method : HttpMethod) : Profile :=
  { profile with
    signatureStatus := .ok
    httpRequestMethod := method
    request := some (toNode m.node)
    msgRelayState :=
      if m.format = .query then (getRelaystateFromQuery cx.toEnv text).map String.ofList
      else profile.msgRelayState }

/-- `lasso_saml20_profile_process_any_request` -/
def processAnyRequest (cx : Context) (cls : NodeClass α) (requestNode : α) (profile : Profile)
    (requestMsg : Bytes) : Rc × Profile :=
  let profile := { profile with signatureStatus := .ok }
  let m := initFromMessageWithFormat cx.toEnv cls requestNode requestMsg .unknown
  match requestMethod m.format with
  | none =>
    (if m.format = .xml then .profile .unsupportedProfile else .profile .invalidMsg, profile)
  | some method =>
    let profile := storeRequest toNode cx profile m requestMsg method
    match (abstract m.node).issuer with
    | none => (.profile .missingIssuer, profile)
    | some issuer =>
      let profile := { profile with remoteProviderId := issuer.content }
      match getProvider profile with
      | .error rc => (rc, profile)
      | .ok remoteProvider =>
        -- verify the signature at the request level
        (.ok, { profile with
          signatureStatus := remoteProvider.verifyReceived cx.toEnv (m.received requestMsg) })

end Request

/-! ## What a request leaves in the profile -/

section Outcome

variable {α : Type*} {toNode : α → LassoNode} {abstract : α → Samlp2RequestAbstract}

/-- The provider that the server knows as the issuer of a request. -/
def issuerProvider (profile : Profile) (request : Samlp2RequestAbstract) : Option Provider :=
  request.issuer.bind fun issuer => profile.server.bind (·.getProvider issuer.content)

theorem issuerProvider_congr {a b : Profile} (hserver : a.server = b.server)
    (request : Samlp2RequestAbstract) : issuerProvider a request = issuerProvider b request := by
  rw [issuerProvider, issuerProvider, hserver]

/-- The profile after the issuer of a stored request is taken over. -/
def storeIssuer (toNode : α → LassoNode) (cx : Context) (profile : Profile) (m : ParsedMessage α)
    (text : Bytes) (method : HttpMethod) (issuer : Saml2NameId) : Profile :=
  { storeRequest toNode cx profile m text method with remoteProviderId := issuer.content }

/-- The ways in which `processAnyRequest` can end for the parsed message `m`: only the last one
verifies a signature, all others leave the status that no error was found. -/
inductive RequestOutcome (toNode : α → LassoNode) (abstract : α → Samlp2RequestAbstract)
    (cx : Context) (profile : Profile) (m : ParsedMessage α) (text : Bytes)
    (result : Rc × Profile) : Prop where
  | unreadable (hmethod : requestMethod m.format = none) (hrc : result.1 ≠ .ok)
      (hprofile : result.2 = { profile with signatureStatus := .ok })
  | noIssuer (method : HttpMethod) (hmethod : requestMethod m.format = some method)
      (hissuer : (abstract m.node).issuer = none) (hrc : result.1 ≠ .ok)
      (hprofile : result.2 = storeRequest toNode cx profile m text method)
  | unknownIssuer (method : HttpMethod) (hmethod : requestMethod m.format = some method)
      (issuer : Saml2NameId) (hissuer : (abstract m.node).issuer = some issuer)
      (hrc : result.1 ≠ .ok)
      (hprofile : result.2 = storeIssuer toNode cx profile m text method issuer)
      (hprovider : issuerProvider profile (abstract m.node) = none)
  | verified (method : HttpMethod) (hmethod : requestMethod m.format = some method)
      (issuer : Saml2NameId) (hissuer : (abstract m.node).issuer = some issuer) (p : Provider)
      (hrc : result.1 = .ok)
      (hprofile : result.2 = { storeIssuer toNode cx profile m text method issuer with
        signatureStatus := p.verifyReceived cx.toEnv (m.received text) })
      (hprovider : issuerProvider profile (abstract m.node) = some p)

theorem getProvider_eq_ok {profile : Profile} {p : Provider} :
    getProvider profile = .ok p ↔ profile.remoteProvider = some p := by
  unfold getProvider Profile.remoteProvider
  cases profile.server with
  | none => simp
  | some server => cases h : server.getProvider profile.remoteProviderId <;> simp [h]

theorem getProvider_ne_ok {profile : Profile} {rc : Rc} (h : getProvider profile = .error rc) :
    rc ≠ .ok ∧ profile.remoteProvider = none := by
  unfold getProvider at h
  unfold Profile.remoteProvider
  split at h
  · cases h
    simp [*]
  · split at h <;> cases h
    simp [*]

theorem processAnyRequest_outcome (toNode : α → LassoNode) (abstract : α → Samlp2RequestAbstract)
    (cx : Context) (cls : NodeClass α) (requestNode : α)
    (profile : Profile) (text : Bytes) :
    RequestOutcome toNode abstract cx profile
      (initFromMessageWithFormat cx.toEnv cls requestNode text .unknown) text
      (processAnyRequest toNode abstract cx cls requestNode profile text) := by
  set m := initFromMessageWithFormat cx.toEnv cls requestNode text .unknown with hm
  unfold processAnyRequest
  simp only [← hm]
  split
  · rename_i hmethod
    exact .unreadable hmethod (by dsimp only; split_ifs <;> simp) rfl
  · rename_i method hmethod
    split
    · rename_i hissuer
      exact .noIssuer method hmethod hissuer (by simp) rfl
    · rename_i issuer hissuer
      split
      · rename_i rc hprovider
        obtain ⟨hrc, hnone⟩ := getProvider_ne_ok hprovider
        refine .unknownIssuer method hmethod issuer hissuer hrc rfl ?_
        rw [issuerProvider, hissuer]
        exact hnone
      · rename_i p hprovider
        refine .verified method hmethod issuer hissuer p rfl rfl ?_
        rw [issuerProvider, hissuer]
        exact getProvider_eq_ok.mp hprovider

theorem processAnyRequest_server (cx : Context) (cls : NodeClass α) (requestNode : α)
    (profile : Profile) (text : Bytes) :
    (processAnyRequest toNode abstract cx cls requestNode profile text).2.server =
      profile.server := by
  cases processAnyRequest_outcome toNode abstract cx cls requestNode profile text with
  | unreadable _ _ hprofile | noIssuer _ _ _ _ hprofile | unknownIssuer _ _ _ _ _ hprofile
  | verified _ _ _ _ _ _ hprofile =>
    exact (congrArg Profile.server hprofile).trans rfl

end Outcome

/-- `lasso_saml20_profile_check_signature_status` -/
def checkSignatureStatus (profile : Profile) : Rc :=
  match profile.signatureVerifyHint with
  | .maybe | .force => profile.signatureStatus
  | .ignore => .ok

/-! ## Responses -/

/-- Put a status code into a status, which keeps what it had besides. -/
def Status.set (status : Option Status) (code1 : String) (code2 : Option String) : Status :=
  let statusCode := (status.bind (·.statusCode)).getD {}
  { statusCode := some {
      value := some code1
      statusCode := match code2 with
        | some code2 => some (some code2)
        | none => statusCode.statusCode } }

/-- `lasso_saml20_profile_set_response_status` -/
def setResponseStatus (profile : Profile) (code1 : String) (code2 : Option String) :
    Rc × Profile :=
  match profile.response with
  | some (.samlp2Response r) =>
    (.ok, { profile with
      response :=
        some (.samlp2Response { r with status := some (Status.set r.status code1 code2) }) })
  | some (.samlp2LogoutResponse r) =>
    (.ok, { profile with
      response :=
        some (.samlp2LogoutResponse { r with status := some (Status.set r.status code1 code2) }) })
  | some (.samlp2ManageNameIdResponse r) =>
    (.ok, { profile with
      response := some (.samlp2ManageNameIdResponse { r with
        status := some (Status.set r.status code1 code2) }) })
  | some (.samlp2ArtifactResponse r) =>
    (.ok, { profile with
      response := some (.samlp2ArtifactResponse { r with
        status := some (Status.set r.status code1 code2) }) })
  | _ => (.profile .missingResponse, profile)

theorem setResponseStatus_eq (profile : Profile) (code1 : String) (code2 : Option String) :
    ∃ response, (setResponseStatus profile code1 code2).2 =
      { profile with response := response } := by
  unfold setResponseStatus
  split <;> exact ⟨_, rfl⟩

/-- `lasso_saml20_profile_set_response_status_responder` -/
def setResponseStatusResponder (profile : Profile) (code2 : String) : Profile :=
  (setResponseStatus profile saml2StatusCodeResponder (some code2)).2

/-- `lasso_profile_saml20_setup_message_signature` -/
def setupMessageSignature (cx : Context) (profile : Profile) : Rc :=
  if profile.signatureHint = .forbid ∨ (profile.signatureHint = .maybe ∧ cx.signMessages = false)
  then .ok
  else
    match profile.server with
    | none => .profile .missingServer
    | some server => cx.loadSignatureContext server profile.remoteProviderId

/-- The fields of the SAML 2.0 request of the profile. -/
def requestAbstract (profile : Profile) : Option Samlp2RequestAbstract :=
  match profile.request with
  | some (.samlp2AuthnRequest r) => some r.toSamlp2RequestAbstract
  | some (.samlp2LogoutRequest r) => some r.toSamlp2RequestAbstract
  | some (.samlp2ArtifactResolve r) => some r.toSamlp2RequestAbstract
  | some (.samlp2ManageNameIdRequest r) => some r.toSamlp2RequestAbstract
  | some (.samlp2SubjectQuery r) => some r.toSamlp2RequestAbstract
  | some (.samlp2RequestAbstract r) => some r
  | _ => none

/-- `lasso_saml20_profile_init_response` -/
def initResponse (cx : Context) (profile : Profile) (toNode : Samlp2StatusResponse → LassoNode)
    (statusResponse : Samlp2StatusResponse) (statusCode1 : String) (statusCode2 : Option String) :
    Rc × Profile :=
  let statusResponse := { statusResponse with
    issuer := match profile.server with
      | some server => some { content := server.provider.providerId }
      | none => statusResponse.issuer
    inResponseTo := match requestAbstract profile with
      | some request => request.id
      | none => statusResponse.inResponseTo }
  let profile := { profile with response := some (toNode statusResponse) }
  match setupMessageSignature cx profile with
  | .ok => (.ok, (setResponseStatus profile statusCode1 statusCode2).2)
  | rc => (rc, profile)

/-- A response is put into the profile, whatever the code, and nothing else changes. -/
theorem initResponse_eq (cx : Context) (profile : Profile)
    (toNode : Samlp2StatusResponse → LassoNode) (response : Samlp2StatusResponse)
    (statusCode1 : String) (statusCode2 : Option String) :
    ∃ node, (initResponse cx profile toNode response statusCode1 statusCode2).2 =
      { profile with response := node } := by
  unfold initResponse
  extract_lets statusResponse prepared
  split
  · exact setResponseStatus_eq prepared statusCode1 statusCode2
  · exact ⟨_, rfl⟩

end Lasso.Saml20
