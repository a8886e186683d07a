import Lasso.IdFf.Defederation
import Lasso.Saml20.AuthnRequest
import Lasso.Saml20.RedirectTransport
import Lasso.Saml20.RequestBinding

/-!
# SAML 2.0 authentication requests at the service provider

A request is initialised for an identity provider, filled in by the application, and written into a
message. The signature is attached to the request when it is initialised, and taken off again when
the message is built if the metadata of the two providers do not ask for it.

## Main definitions

* `RequestingLogin.initAuthnRequest` — `lasso_login_init_authn_request`.
* `RequestingLogin.buildAuthnRequestMsg` — `lasso_login_build_authn_request_msg`.
-/

namespace Lasso.Saml20

/-- What a service provider rests on. -/
structure AuthnRequestContext extends MessageContext, DeflateEnv where
  /-- the context that `lasso_server_get_signature_context_for_provider_by_name` finds -/
  signatureContext : Server → Option String → SignatureContext
  /-- the text of a request, with its Destination and the template of its signature -/
  writeAuthnRequest : Samlp2AuthnRequest → Option String → SignatureContext → CString
  /-- `lasso_node_export_to_base64` and `lasso_node_export_to_soap` of such a request -/
  exportAuthnRequest : HttpMethod → Samlp2AuthnRequest → Option String → SignatureContext →
    Option String
  /-- `lasso_profile_saml20_build_paos_request_msg`, given the URL for the response -/
  buildPaosRequest : Profile → Samlp2AuthnRequest → SignatureContext → Option String →
    Rc × Option String

/-- `LASSO_SIGNATURE_CONTEXT_NONE` -/
def noSignature : SignatureContext := { signatureMethod := .none, signatureKey := none }

/-- A `LassoLogin` at the service provider: the Destination and the signature context of its
request, and the last message. -/
structure RequestingLogin extends Login where
  httpMethod : HttpMethod := .any
  destination : Option String := none
  signature : SignatureContext := noSignature
  msgUrl : Option String := none
  msgBody : Option String := none

/-- The context that `lasso_profile_saml20_setup_message_signature` attaches to a request. -/
def attachedSignature (cx : AuthnRequestContext) (profile : Profile) : SignatureContext :=
  if profile.signatureHint = .forbid ∨ (profile.signatureHint = .maybe ∧ cx.signMessages = false)
  then noSignature
  else
    match profile.server with
    | none => noSignature
    | some server =>
      if cx.loadSignatureContext server profile.remoteProviderId = .ok then
        cx.signatureContext server profile.remoteProviderId
      else noSignature

/-- `_lasso_login_must_sign` -/
def mustSign (profile : Profile) : Bool :=
  match profile.signatureHint with
  | .maybe =>
    profile.server.any (authnRequestSigned ·.provider) ||
      profile.remoteProvider.any wantAuthnRequestSigned
  | .force => true
  | .forbid => false

/-- `get_url` -/
def getUrl (p : Provider) (service binding : String) : Option String :=
  p.getMetadataOne (service ++ " " ++ binding)

namespace RequestingLogin

variable (cx : AuthnRequestContext)

/-! ## Initialisation -/

/-- The NameIDPolicy of a new request: the format that the service provider prefers. -/
def defaultNameIdPolicy (profile : Profile) : Samlp2NameIdPolicy where
  format := some <| (profile.server.bind
    (·.provider.getMetadataOneForRole .sp "NameIDFormat")).getD saml2NameIdentifierFormatTransient

/-- `lasso_saml20_login_init_authn_request`, given the identifier of the request. The profile has no
request yet. -/
def initSaml20AuthnRequest (login : RequestingLogin) (uniqueId : String) (httpMethod : HttpMethod) :
    Rc × RequestingLogin :=
  let (rc, profile, request) := initProfileRequest cx.toLogoutContext login.profile
    login.profile.remoteProviderId false
    (fun request => .samlp2AuthnRequest { toSamlp2RequestAbstract := request }) uniqueId httpMethod
    .singleSignOn
  let login := { login with
    profile
    destination := none
    signature := if profile.request.isSome then attachedSignature cx profile else noSignature }
  if rc ≠ .ok then (rc, login)
  else
    (.ok, { login with
      httpMethod := profile.httpRequestMethod
      requestId := request.id
      profile := { profile with
        request := some (.samlp2AuthnRequest {
          toSamlp2RequestAbstract := request
          nameIdPolicy := some (defaultNameIdPolicy profile) }) } })

/-- `lasso_login_init_authn_request` for a SAML 2.0 server. With PAOS there is no remote
provider. -/
def initAuthnRequest (login : RequestingLogin) (remoteProviderId : Option String)
    (uniqueId : String) (httpMethod : HttpMethod) : Rc × RequestingLogin :=
  match login.profile.server with
  | none => (.profile .missingServer, login)
  | some server =>
    let server := server.setRole .sp
    let login := { login with
      profile := { login.profile with
        server := some server, remoteProviderId := none, request := none } }
    if httpMethod = .paos then login.initSaml20AuthnRequest cx uniqueId httpMethod
    else
      match remoteProviderId.or (server.firstProviderIdByRole cx.foreachOrder .idp) with
      | none => (.profile .missingRemoteProviderid, login)
      | some remoteProviderId =>
        match server.getProvider (some remoteProviderId) with
        | none =>
          (.server .providerNotFound, { login with
            profile := { login.profile with remoteProviderId := some remoteProviderId } })
        | some _ =>
          let login := { login with
            profile := { login.profile with
              remoteProviderId := some remoteProviderId
              server := some (server.setProviderRole (some remoteProviderId) .idp) } }
          login.initSaml20AuthnRequest cx uniqueId httpMethod

/-! ## The message -/

/-- The request as it goes into a query. -/
def queryMessage (login : RequestingLogin) (request : Samlp2AuthnRequest) : QueryMessage :=
  deflatedMessage cx.toDeflateEnv false
    (cx.writeAuthnRequest request login.destination login.signature)

/-- `lasso_saml20_profile_build_http_redirect` for a request -/
def buildHttpRedirect (login : RequestingLogin) (request : Samlp2AuthnRequest) (url : String) :
    Asserted (Rc × RequestingLogin) :=
  let context := login.signature
  -- if the message is signed, the signature goes from the message to the query
  let login := { login with
    signature := if cx.okSignatureMethod context.signatureMethod then noSignature else context }
  match Lasso.exportToQuery cx.toSigningEnv (login.queryMessage cx request)
      (login.profile.msgRelayState.map fun relayState => toCString relayState.toList) context with
  | .aborted => .aborted
  | .returns (rc, query) =>
    if rc ≠ .ok then .returns (rc, login)
    else
      .returns (.ok, { login with
        msgUrl := query.map fun query => concatUrlQuery url (String.ofList query)
        msgBody := none })

/-- A message whose body is the request, and the code for a request that cannot be written. -/
def storeBody (login : RequestingLogin) (msgBody : Option String) : Rc × RequestingLogin :=
  (if msgBody.isNone then .profile .buildingMessageFailed else .ok, { login with msgBody })

/-- `lasso_profile_saml20_build_artifact_msg` for a request of a login, which keeps the artifact -/
def buildArtifact (login : RequestingLogin) (request : Samlp2AuthnRequest) (url : String)
    (get : Bool) : Rc × RequestingLogin :=
  let (rc, message) := buildArtifactMsg cx.toMessageContext login.profile.server
    login.profile.msgRelayState (.samlp2AuthnRequest request) url get
  let profile := message.store login.profile
  (rc, { login with
    profile := profile.toProfile
    assertionArtifact := profile.artifact.or login.assertionArtifact
    msgUrl := profile.msgUrl
    msgBody := profile.msgBody })

/-- The builder for the method of the login, given the Destination. -/
def buildByMethod (login : RequestingLogin) (request : Samlp2AuthnRequest) (url : String) :
    Asserted (Rc × RequestingLogin) :=
  match login.httpMethod with
  | .soap | .post =>
    .returns (storeBody { login with msgUrl := some url }
      (cx.exportAuthnRequest login.httpMethod request login.destination login.signature))
  | .redirect => login.buildHttpRedirect cx request url
  | .artifactGet => .returns (login.buildArtifact cx request url true)
  | .artifactPost => .returns (login.buildArtifact cx request url false)
  | _ => .returns (.profile .invalidHttpMethod, login)

/-- `lasso_saml20_profile_build_request_msg` for a request of a login. With PAOS the URL is the one
for the response, and the request gets no Destination. -/
def buildRequestMsg (login : RequestingLogin) (request : Samlp2AuthnRequest)
    (url : Option String) : Asserted (Rc × RequestingLogin) :=
  let login := { login with msgUrl := none, msgBody := none }
  let made : Except Rc (Option String) :=
    match url with
    | some url => .ok (some url)
    | none =>
      (getProvider login.profile).map
        (getUrl · "SingleSignOnService" (httpMethodToBinding login.httpMethod))
  match made with
  | .error rc => .returns (rc, login)
  | .ok url =>
    if login.httpMethod = .paos then
      let (rc, msgBody) := cx.buildPaosRequest login.profile request login.signature url
      .returns (rc, { login with destination := none, msgBody })
    else
      match url with
      | none => .returns (.profile .unknownProfileUrl, login)
      | some url => buildByMethod cx { login with destination := some url } request url

/-- The URL at which the service provider wants the response of an enhanced client: the one of the
request, which must be one of its own, or the one of its metadata. -/
def paosConsumerUrl (login : RequestingLogin) (request : Samlp2AuthnRequest) :
    Except Rc (Option String) :=
  match request.assertionConsumerServiceURL with
  | some url =>
    if login.profile.server.any fun server =>
        checkAssertionConsumerServiceUrl server.provider url saml2MetadataBindingPaos
    then .ok (some url)
    else .error (.profile .invalidRequest)
  | none =>
    .ok (login.profile.server.bind fun server =>
      getAssertionConsumerServiceUrlByBinding server.provider saml2MetadataBindingPaos)

/-- `lasso_saml20_login_build_authn_request_msg` -/
def buildSaml20AuthnRequestMsg (login : RequestingLogin) : Asserted (Rc × RequestingLogin) :=
  match login.profile.request with
  | some (.samlp2AuthnRequest request) =>
    let login : RequestingLogin := { login with
      signature := if mustSign login.profile then login.signature else noSignature }
    -- support old way of doing PAOS
    let login : RequestingLogin := { login with
      httpMethod :=
        if login.httpMethod = .soap ∧ request.protocolBinding = some saml2MetadataBindingPaos
        then .paos else login.httpMethod }
    if login.httpMethod = .paos then
      match login.paosConsumerUrl request with
      | .error rc => .returns (rc, login)
      | .ok url =>
        let request := { request with assertionConsumerServiceURL := url }
        let login := { login with
          profile := { login.profile with request := some (.samlp2AuthnRequest request) } }
        login.buildRequestMsg cx request url
    else login.buildRequestMsg cx request none
  | _ => .returns (.profile .invalidRequest, login)

/-- `lasso_login_build_authn_request_msg` for a SAML 2.0 server -/
def buildAuthnRequestMsg (login : RequestingLogin) : Asserted (Rc × RequestingLogin) :=
  let login := { login with msgUrl := none, msgBody := none }
  if login.httpMethod = .paos then login.buildSaml20AuthnRequestMsg cx
  else if login.profile.remoteProviderId.isNone then
    .returns (.profile .missingRemoteProviderid, login)
  else if login.profile.remoteProvider.isNone then .returns (.server .providerNotFound, login)
  else login.buildSaml20AuthnRequestMsg cx

end RequestingLogin

end Lasso.Saml20
