import Lasso.Login
import Lasso.Saml20.Profile
import Lasso.Saml20.Provider

/-!
# SAML 2.0 authentication requests at the identity provider

`processAuthnRequestMsg` reads a request, or takes the one that is stored when there is no
message, chooses the protocol profile of the response and looks at the signature status.
-/

namespace Lasso.Saml20

/-- `_lasso_login_must_verify_authn_request_signature` -/
def mustVerifyAuthnRequestSignature (profile : Profile) : Bool :=
  match profile.signatureVerifyHint with
  | .maybe =>
    profile.server.any (wantAuthnRequestSigned ·.provider) ||
      profile.remoteProvider.any authnRequestSigned
  | .ignore => false
  | .force => true

/-- The protocol profile of a binding that the request names. -/
def protocolProfileOfBinding (binding : String) : Rc × LoginProtocolProfile :=
  if binding = saml2MetadataBindingArtifact then (.ok, .brwsArt)
  else if binding = saml2MetadataBindingPost then (.ok, .brwsPost)
  else if binding = saml2MetadataBindingSoap then (.ok, .brwsLecp)
  else if binding = saml2MetadataBindingRedirect then
    (.profile .invalidProtocolprofile, .redirect)
  else if binding = saml2MetadataBindingPaos then (.ok, .brwsLecp)
  else (.profile .invalidProtocolprofile, .none)

/-- The protocol profile of the assertion consumer service with an index, `-1` for the default
one. A service with another binding leaves the profile unset. -/
def protocolProfileOfIndex (remoteProvider : Provider) (serviceIndex : Int) :
    Rc × LoginProtocolProfile :=
  match getAssertionConsumerServiceBinding remoteProvider serviceIndex with
  | none =>
    (if serviceIndex = -1 then .login .noDefaultEndpoint else .profile .invalidProtocolprofile,
      .none)
  | some binding =>
    (.ok,
      if binding = "HTTP-Artifact" then .brwsArt
      else if binding = "HTTP-POST" then .brwsPost
      else if binding = "HTTP-Redirect" then .redirect
      else if binding = "SOAP" then .brwsLecp
      else if binding = "PAOS" then .brwsLecp
      else .none)

/-- Try to find a protocol profile for sending the response; a request that names a URL only gets
the binding of that URL. -/
def findProtocolProfile (remoteProvider : Provider) (request : Samlp2AuthnRequest) :
    Rc × LoginProtocolProfile × Samlp2AuthnRequest :=
  match request.assertionConsumerServiceURL, request.protocolBinding with
  | none, none =>
    let (rc, protocolProfile) :=
      protocolProfileOfIndex remoteProvider request.assertionConsumerServiceIndex
    (rc, protocolProfile, request)
  | none, some binding =>
    let (rc, protocolProfile) := protocolProfileOfBinding binding
    (rc, protocolProfile, request)
  | some url, some binding =>
    if checkAssertionConsumerServiceUrl remoteProvider url binding then
      let (rc, protocolProfile) := protocolProfileOfBinding binding
      (rc, protocolProfile, request)
    -- Sent ACS URL is unknown
    else (.profile .invalidProtocolprofile, .none, request)
  | some url, none =>
    -- Only ACS URL sent, choose the first associated binding
    match getAssertionConsumerServiceBindingByUrl remoteProvider url with
    | none => (.profile .invalidProtocolprofile, .none, request)
    | some binding =>
      let (rc, protocolProfile) := protocolProfileOfBinding binding
      (rc, protocolProfile, { request with protocolBinding := some binding })

/-- The end of `lasso_saml20_login_process_authn_request_msg`: the verdict on the signature, and
the response that reports it. The code of `init_response` is not looked at. -/
def answerAuthnRequest (cx : Context) (login : Login) (response : Samlp2StatusResponse) :
    Rc × Login :=
  let toNode (response : Samlp2StatusResponse) : LassoNode :=
    .samlp2Response { toSamlp2StatusResponse := response }
  if mustVerifyAuthnRequestSignature login.profile ∧ login.profile.signatureStatus ≠ .ok then
    (login.profile.signatureStatus, { login with
      profile := (initResponse cx login.profile toNode response saml2StatusCodeRequester
        (some libStatusCodeInvalidSignature)).2 })
  else
    (.ok, { login with
      profile := (initResponse cx login.profile toNode response saml2StatusCodeSuccess none).2 })

/-- The roles that the two parties of the request play. -/
def setRequestRoles (profile : Profile) : Profile :=
  { profile with
    server := profile.server.map fun server =>
      (server.setProviderRole profile.remoteProviderId .sp).setRole .idp }

/-- `lasso_saml20_login_process_authn_request_msg` on the request stored in the profile. -/
def processAuthnRequest (cx : Context) (login : Login) : Rc × Login :=
  match login.profile.request with
  | none => (.profile .missingRequest, login)
  | some (.samlp2AuthnRequest request) =>
    let response : Samlp2StatusResponse := { inResponseTo := request.id }
    let login := { login with protocolProfile := .none }
    match request.issuer.bind (·.content), login.profile.remoteProvider with
    | none, _ => (.profile .invalidRequest, login)
    | some _, none => (.profile .unknownProvider, login)
    | some _, some remoteProvider =>
      let profile := setRequestRoles login.profile
      if (request.protocolBinding.isSome ∨ request.assertionConsumerServiceURL.isSome) ∧
          request.assertionConsumerServiceIndex ≠ -1 then
        (.profile .invalidRequest, { login with profile })
      else
        let (rc, protocolProfile, request) := findProtocolProfile remoteProvider request
        let login := { login with
          protocolProfile
          profile := { profile with request := some (.samlp2AuthnRequest request) } }
        if rc = .ok then answerAuthnRequest cx login response else (rc, login)
  | some _ => (.profile .invalidMsg, login)

/-- The AuthnRequest that a message is parsed to. -/
def readAuthnRequest (cx : Context) (text : Bytes) : ParsedMessage Samlp2AuthnRequest :=
  initFromMessageWithFormat cx.toEnv
    (saml2NodeClass cx.toEnv cx.samlp2AuthnRequestInitFromXml) {} text .unknown

/-- `lasso_saml20_profile_process_any_request` with an AuthnRequest. -/
def processAnyAuthnRequest (cx : Context) (profile : Profile) (authnRequestMsg : Bytes) :
    Rc × Profile :=
  processAnyRequest .samlp2AuthnRequest (·.toSamlp2RequestAbstract) cx
    (saml2NodeClass cx.toEnv cx.samlp2AuthnRequestInitFromXml) {} profile authnRequestMsg

/-- `lasso_saml20_login_process_authn_request_msg` -/
def processAuthnRequestMsg (cx : Context) (login : Login) (authnRequestMsg : Option Bytes) :
    Rc × Login :=
  match authnRequestMsg with
  | none => processAuthnRequest cx login
  | some authnRequestMsg =>
    let (rc, profile) := processAnyAuthnRequest cx login.profile authnRequestMsg
    if rc = .ok then processAuthnRequest cx { login with profile }
    else (rc, { login with profile })

theorem processAuthnRequestMsg_some (cx : Context) (login : Login) (text : Bytes) :
    processAuthnRequestMsg cx login (some text) =
      if (processAnyAuthnRequest cx login.profile text).1 = .ok then
        processAuthnRequest cx
          { login with profile := (processAnyAuthnRequest cx login.profile text).2 }
      else ((processAnyAuthnRequest cx login.profile text).1,
        { login with profile := (processAnyAuthnRequest cx login.profile text).2 }) := rfl

theorem processAnyAuthnRequest_outcome (cx : Context) (profile : Profile) (text : Bytes) :
    RequestOutcome .samlp2AuthnRequest (·.toSamlp2RequestAbstract) cx profile
      (readAuthnRequest cx text) text (processAnyAuthnRequest cx profile text) :=
  processAnyRequest_outcome _ _ cx _ _ profile text

/-! ## The signature verdict

A call decides on the signature by the status and by `mustVerifyAuthnRequestSignature`; the steps
before the decision change neither. -/

section

variable {cx : Context}

/-- Both profiles lead to the same verdict on the signature. -/
def SameVerdict (a b : Profile) : Prop :=
  a.signatureStatus = b.signatureStatus ∧
    mustVerifyAuthnRequestSignature a = mustVerifyAuthnRequestSignature b

theorem answerAuthnRequest_sameVerdict (cx : Context) (login : Login)
    (response : Samlp2StatusResponse) :
    SameVerdict (answerAuthnRequest cx login response).2.profile login.profile := by
  unfold answerAuthnRequest
  dsimp only
  split_ifs
  all_goals
    obtain ⟨node, hprofile⟩ := initResponse_eq cx login.profile _ response _ _
    rw [hprofile]
    exact ⟨rfl, rfl⟩

theorem answerAuthnRequest_eq_ok {login : Login} {response : Samlp2StatusResponse}
    (h : (answerAuthnRequest cx login response).1 = .ok)
    (hmust : mustVerifyAuthnRequestSignature login.profile = true) :
    login.profile.signatureStatus = .ok := by
  unfold answerAuthnRequest at h
  dsimp only at h
  split_ifs at h with hverdict
  · exact h
  · simpa [hmust] using hverdict

theorem setRequestRoles_sameVerdict (profile : Profile) :
    SameVerdict (setRequestRoles profile) profile := by
  refine ⟨rfl, ?_⟩
  unfold mustVerifyAuthnRequestSignature setRequestRoles Profile.remoteProvider
  cases hserver : profile.server with
  | none => rfl
  | some server =>
    have hlocal : ((server.setProviderRole profile.remoteProviderId .sp).setRole .idp).provider =
        { server.provider with role := .idp } := by
      unfold Server.setProviderRole
      split <;> rfl
    have hremote : ((server.getProvider profile.remoteProviderId).map fun p =>
        { p with role := .sp }).any authnRequestSigned =
        (server.getProvider profile.remoteProviderId).any authnRequestSigned := by
      cases server.getProvider profile.remoteProviderId <;> rfl
    simp only [Option.map_some, Option.bind_some, Option.any_some, Server.getProvider_setRole,
      Server.getProvider_setProviderRole, if_true, hlocal, hremote]
    rfl

/-- The calls keep the verdict, and return zero only for a good one. -/
theorem processAuthnRequest_spec (cx : Context) (login : Login) :
    SameVerdict (processAuthnRequest cx login).2.profile login.profile ∧
      ((processAuthnRequest cx login).1 = .ok →
        mustVerifyAuthnRequestSignature login.profile = true →
          login.profile.signatureStatus = .ok) := by
  unfold processAuthnRequest
  split
  · exact ⟨⟨rfl, rfl⟩, by simp⟩
  · dsimp only
    split
    · exact ⟨⟨rfl, rfl⟩, by simp⟩
    · exact ⟨⟨rfl, rfl⟩, by simp⟩
    · obtain ⟨hstatus, hmust⟩ := setRequestRoles_sameVerdict login.profile
      split_ifs
      · exact ⟨⟨hstatus, hmust⟩, by simp⟩
      · refine ⟨?_, fun h hverify => ?_⟩
        · obtain ⟨hstatus', hmust'⟩ := answerAuthnRequest_sameVerdict cx _ _
          exact ⟨hstatus'.trans hstatus, hmust'.trans hmust⟩
        · have hgood := answerAuthnRequest_eq_ok h (hmust.trans hverify)
          exact hstatus.symm.trans hgood
      · exact ⟨⟨hstatus, hmust⟩, by simp [*]⟩
  · exact ⟨⟨rfl, rfl⟩, by simp⟩

end

end Lasso.Saml20
