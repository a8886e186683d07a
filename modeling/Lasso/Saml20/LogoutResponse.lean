import Lasso.Saml20.Logout
import Lasso.Session.ProviderIds

/-!
# SAML 2.0 logout at the identity provider

After the request of a service provider is validated, the identity provider asks the others with
requests of its own, reads their responses, and answers the first one last.

## Main definitions

* `Logout.initRequest` — a request to another provider.
* `Logout.processResponseMsg` — its response.
* `Logout.restoreInitialState`, `Logout.buildResponseMsg` — the answer to the first provider.
-/

namespace Lasso

/-- What the further functions of a logout rest on besides. -/
structure LogoutContext extends Context where
  /-- `init_from_xml` of `LassoSamlp2LogoutResponse` -/
  samlp2LogoutResponseInitFromXml :
    Samlp2StatusResponse → Option XmlNode → Rc × Samlp2StatusResponse
  /-- the order in which `g_hash_table_foreach` visits the keys of a table -/
  foreachOrder : List String → List String
  /-- `lasso_node_encrypt` of a NameID with the key of a provider -/
  encryptNameId : Provider → Saml2NameId → Option Saml2EncryptedElement
  /-- the function that writes the response of a profile into a message, by the method -/
  buildResponse : HttpMethod → Profile → Option String → Rc

/-- `LASSO_IS_SAMLP2_STATUS_RESPONSE` -/
def LassoNode.isSamlp2StatusResponse : LassoNode → Bool
  | .samlp2Response _ | .samlp2LogoutResponse _ | .samlp2ManageNameIdResponse _
  | .samlp2ArtifactResponse _ => true
  | _ => false

/-- The NameID in an assertion: `_lasso_saml_assertion_get_name_id` and
`_lasso_saml2_assertion_get_name_id`. -/
def LassoNode.assertionNameId : LassoNode → Option LassoNode
  | .samlAssertion a =>
    (a.authenticationStatement.bind (·.nameIdentifier)).map .samlNameIdentifier
  | .saml2Assertion a => a.nameId.map .saml2NameId
  | _ => none

/-- `lasso_session_is_empty` -/
def Session.isEmpty (s : Session) : Bool :=
  s.assertions.keys.isEmpty && s.status.keys.isEmpty && s.assertionsById.keys.isEmpty &&
    s.nidAndSessionIndexes.keys.isEmpty

/-- `lasso_provider_get_sp_name_qualifier` -/
def Provider.spNameQualifier (p : Provider) : Option String := p.affiliationId.or p.providerId

/-- `lasso_profile_get_nameIdentifier` -/
def Profile.getNameIdentifier (profile : Profile) : Option LassoNode :=
  match profile.remoteProviderId with
  | none => none
  | some remoteProviderId =>
    -- for transient federations, we must look at assertions, no federation object exists
    ((profile.session.bind (·.getAssertion remoteProviderId)).bind (·.assertionNameId)).or <|
      (profile.identity.bind fun identity =>
        (profile.remoteProvider.bind (·.spNameQualifier)).bind fun qualifier =>
          identity.federations.lookup qualifier).bind fun federation =>
        federation.remoteNameIdentifier.or federation.localNameIdentifier

namespace Saml20

/-! ## Methods -/

/-- `binding_uri_to_http_method` -/
def bindingUriToHttpMethod (uri : String) : HttpMethod :=
  if uri = saml2MetadataBindingSoap then .soap
  else if uri = saml2MetadataBindingRedirect then .redirect
  else if uri = saml2MetadataBindingPost then .post
  else if uri = saml2MetadataBindingArtifact then .artifactGet
  else if uri = saml2MetadataBindingPaos then .paos
  else .none

/-- `http_method_kind` is `SYNCHRONOUS` -/
def isSynchronous : HttpMethod → Bool
  | .get | .post | .redirect | .artifactGet | .artifactPost => true
  | _ => false

/-- `has_synchronous_methods`, of a service other than single sign-on -/
def hasSynchronousMethods (p : Provider) (kind : String) : Bool :=
  p.endpoints.any fun e => e.kind == kind && isSynchronous (bindingUriToHttpMethod e.binding)

/-- The loop of `lasso_saml20_provider_get_first_http_method`; the method of the last endpoint that
was looked at is returned even if it was passed over. -/
def firstHttpMethod (p : Provider) (kind : String) (result : HttpMethod) :
    List EndpointType → HttpMethod
  | [] => result
  | e :: es =>
    if e.kind = kind then
      let result := bindingUriToHttpMethod e.binding
      if isSynchronous result && !hasSynchronousMethods p kind then
        firstHttpMethod p kind result es
      else if result ≠ .none then result
      else firstHttpMethod p kind result es
    else firstHttpMethod p kind result es

/-- `lasso_saml20_provider_get_first_http_method` -/
def getFirstHttpMethod (p remoteProvider : Provider) (kind : String) : HttpMethod :=
  firstHttpMethod p kind .none remoteProvider.endpoints

/-- `lasso_saml20_provider_accept_http_method` -/
def acceptHttpMethod (remoteProvider : Provider) (kind : String) (httpMethod : HttpMethod) :
    Bool :=
  remoteProvider.endpoints.any fun e =>
    e.role == remoteProvider.role && e.kind == kind &&
      bindingUriToHttpMethod e.binding == httpMethod

/-- `http_method_to_binding` -/
def httpMethodToBinding : HttpMethod → String
  | .post => "HTTP-POST"
  | .redirect => "HTTP-Redirect"
  | .soap => "SOAP"
  | .artifactGet | .artifactPost => "HTTP-Artifact"
  | .paos => "PAOS"
  | _ => ""

/-! ## Requests -/

/-- The last part of `lasso_saml20_profile_init_request`: the fields of the request and its
signature. The code is `rc` unless the signature cannot be set up. -/
def setupRequest (cx : Context) (profile : Profile) (server : Server)
    (toNode : Samlp2RequestAbstract → LassoNode) (uniqueId : String) (httpMethod : HttpMethod)
    (rc : Rc) : Rc × Profile × Samlp2RequestAbstract :=
  let request : Samlp2RequestAbstract :=
    { id := some uniqueId, issuer := some { content := server.provider.providerId } }
  let profile :=
    { profile with httpRequestMethod := httpMethod, request := some (toNode request) }
  match setupMessageSignature cx profile with
  | .ok => (rc, profile, request)
  | rc => (rc, profile, request)

/-- `lasso_saml20_profile_init_request` for a provider that is not taken from the session; the
identifier of the request is given. -/
def initRequest (cx : LogoutContext) (profile : Profile) (remoteProviderId : Option String)
    (toNode : Samlp2RequestAbstract → LassoNode) (uniqueId : String) (httpMethod : HttpMethod)
    (kind : String) : Rc × Profile × Samlp2RequestAbstract :=
  if httpMethod ∈ [.none, .idpInitiated, .get] then (.profile .invalidHttpMethod, profile, {})
  else
    match profile.server with
    | none => (.profile .missingServer, profile, {})
    | some server =>
      if httpMethod = .paos then
        setupRequest cx.toContext profile server toNode uniqueId httpMethod .ok
      else
        match remoteProviderId.or (cx.foreachOrder server.providers.keys).head? with
        | none => (.profile .cannotFindAProvider, profile, {})
        | some remoteProviderId =>
          let profile := { profile with remoteProviderId := some remoteProviderId }
          match getProvider profile with
          | .error rc => (rc, profile, {})
          | .ok remoteProvider =>
            -- set the name identifier
            let profile := { profile with
              nameIdentifier := match profile.getNameIdentifier with
                | some (.saml2NameId nameId) => some (.saml2NameId nameId)
                | _ => profile.nameIdentifier }
            let httpMethod :=
              if httpMethod = .any then getFirstHttpMethod server.provider remoteProvider kind
              else httpMethod
            if httpMethod = .none then (.profile .unsupportedProfile, profile, {})
            else
              -- a method that is not accepted does not stop the function
              setupRequest cx.toContext profile server toNode uniqueId httpMethod
                (if acceptHttpMethod remoteProvider kind httpMethod then .ok
                  else .profile .unsupportedProfile)

/-! ## Responses -/

/-- `get_response_url` -/
def getResponseUrl (p : Provider) (service binding : String) : Option String :=
  (p.getMetadataOne (service ++ " " ++ binding ++ " ResponseLocation")).or
    (p.getMetadataOne (service ++ " " ++ binding))

/-- `lasso_saml20_profile_build_response_msg`, without a given URL -/
def buildResponseMsg (cx : LogoutContext) (profile : Profile) (service : String)
    (method : HttpMethod) : Rc :=
  match getProvider profile with
  | .error rc => rc
  | .ok provider =>
    if !profile.response.any (·.isSamlp2StatusResponse) then .profile .missingResponse
    else
      let url :=
        if method = .soap then none
        else getResponseUrl provider service (httpMethodToBinding method)
      match method with
      | .post | .redirect | .artifactGet | .artifactPost =>
        if url.isNone then .profile .unknownProfileUrl else cx.buildResponse method profile url
      | .soap => cx.buildResponse method profile url
      | .paos => if url.isNone then .profile .unknownProfileUrl else .profile .unsupportedProfile
      | _ => .profile .unsupportedProfile

/-- `_lasso_saml20_is_valid_issuer` -/
def isValidIssuer (issuer : Saml2NameId) : Bool :=
  issuer.format.all (· == saml2NameIdentifierFormatEntity)

/-- The check of the status codes of a response. -/
def checkStatusCode (status : Option Status) : Rc :=
  match status.bind (·.statusCode) with
  | none => .profile .missingStatusCode
  | some statusCode =>
    if statusCode.value = some saml2StatusCodeSuccess then .ok
    else if Status.secondLevel status = some saml2StatusCodeRequestDenied then
      .profile .requestDenied
    else .profile .statusNotSuccess

/-- `lasso_saml20_profile_process_any_response` -/
def processAnyResponse (toNode : Samlp2StatusResponse → LassoNode) (cx : Context)
    (cls : NodeClass Samlp2StatusResponse) (statusResponse : Samlp2StatusResponse)
    (profile : Profile) (responseMsg : Bytes) : Rc × Profile :=
  let profile := { profile with signatureStatus := .ok }
  let m := initFromMessageWithFormat cx.toEnv cls statusResponse responseMsg .unknown
  match requestMethod m.format with
  | none =>
    (if m.format = .xml then .profile .unsupportedProfile else .profile .invalidMsg, profile)
  | some _ =>
    let profile := { profile with response := some (toNode m.node) }
    match profile.server with
    | none => (.profile .missingServer, profile)
    | some server =>
      match m.node.issuer.filter isValidIssuer with
      | none =>
        (.server .providerNotFound, { profile with signatureStatus := .server .providerNotFound })
      | some issuer =>
        let profile := { profile with remoteProviderId := issuer.content }
        match server.getProvider issuer.content with
        | none =>
          (.server .providerNotFound,
            { profile with signatureStatus := .server .providerNotFound })
        | some remoteProvider =>
          -- verify the signature at the message level
          let profile := { profile with
            signatureStatus := remoteProvider.verifyReceived cx.toEnv (m.received responseMsg) }
          match checkStatusCode m.node.status with
          | .ok =>
            (if profile.signatureVerifyHint ≠ .ignore ∧ profile.signatureStatus ≠ .ok then
                .profile .cannotVerifySignature
              else .ok, profile)
          | rc => (rc, profile)

namespace Logout

/-! ## Asking another provider -/

/-- `lasso_saml20_logout_init_request` -/
def initRequest (cx : LogoutContext) (logout : Logout) (remoteProvider : Provider)
    (httpMethod : HttpMethod) (uniqueId : String) : Rc × Logout :=
  let (rc, profile, request) := Saml20.initRequest cx logout.profile remoteProvider.providerId
    (fun request => .samlp2LogoutRequest { toSamlp2RequestAbstract := request }) uniqueId
    httpMethod "SingleLogoutService"
  if rc ≠ .ok then (rc, { logout with profile })
  else
    let session := (profile.session.filter (!·.isEmpty)).getD {}
    -- take the first
    match (session.getNameIds (profile.remoteProviderId.getD "")).head? with
    | some (.saml2NameId nameId) =>
      let store (r : Samlp2LogoutRequest) : Logout :=
        { logout with profile := { profile with request := some (.samlp2LogoutRequest r) } }
      let logoutRequest : Samlp2LogoutRequest :=
        { toSamlp2RequestAbstract := request, nameId := some nameId }
      let indexes := session.getSessionIndexes (remoteProvider.providerId.getD "")
        (some (.saml2NameId nameId))
      if remoteProvider.encryptionMode = .nameId then
        match cx.encryptNameId remoteProvider nameId with
        | none => (.ds .encryptionFailed, store logoutRequest)
        | some encryptedId =>
          let encrypted := { logoutRequest with nameId := none, encryptedId }
          (.ok, store (encrypted.setSessionIndexes indexes))
      else (.ok, store (logoutRequest.setSessionIndexes indexes))
    | _ => (.profile .missingAssertion, { logout with profile })

/-- The provider to ask: the given one, or else the first one of the session, which may list its
providers for that. -/
def providerToAsk (cx : LogoutContext) (session : Session) :
    Option String → Option String × Session
  | some remoteProviderId => (some remoteProviderId, session)
  | none => session.getProviderIndex cx.foreachOrder 0

/-- `lasso_logout_init_request` in a SAML 2.0 profile -/
def initRequestById (cx : LogoutContext) (logout : Logout) (remoteProviderId : Option String)
    (httpMethod : HttpMethod) (uniqueId : String) : Rc × Logout :=
  match logout.profile.session.filter (!·.isEmpty) with
  | none => (.profile .sessionNotFound, logout)
  | some session =>
    let (remoteProviderId, session) := providerToAsk cx session remoteProviderId
    let profile := { logout.profile with remoteProviderId, session := some session }
    let logout := { logout with profile }
    if remoteProviderId.isNone then (.profile .missingRemoteProviderid, logout)
    else
      match profile.remoteProvider with
      | none => (.server .providerNotFound, logout)
      | some remoteProvider => initRequest cx logout remoteProvider httpMethod uniqueId

/-! ## The response of another provider -/

/-- The LogoutResponse that a message is parsed to. -/
def readLogoutResponse (cx : LogoutContext) (text : Bytes) :
    ParsedMessage Samlp2StatusResponse :=
  initFromMessageWithFormat cx.toEnv
    (saml2NodeClass cx.toEnv cx.samlp2LogoutResponseInitFromXml) {} text .unknown

/-- `lasso_saml20_logout_restore_initial_state` -/
def restoreInitialState (env : Env) (logout : Logout) : Logout :=
  match logout.initialRemoteProviderId with
  | none => logout
  | some remoteProviderId =>
    let profile := { logout.profile with
      remoteProviderId := some remoteProviderId
      request := logout.initialRequest
      response := logout.initialResponse }
    let logout := { logout with
      profile
      initialRemoteProviderId := none
      initialRequest := none
      initialResponse := none }
    -- if some of the logout failed, set a partial logout status code
    if logout.partialLogout ∨ profile.session.any (0 < ·.countAssertions env) then
      { logout with
        partialLogout := false
        profile := (setResponseStatus profile saml2StatusCodeSuccess
          (some saml2StatusCodePartialLogout)).2 }
    else logout

/-- The finer error for a status that is not Success. -/
def finerError (status : Option Status) : Rc :=
  let value := Status.secondLevel status
  if value = some saml2StatusCodePartialLogout then .logout .partialLogout
  else if value = some saml2StatusCodeRequestDenied then .logout .requestDenied
  else if value = some saml2StatusCodeUnknownPrincipal then .logout .unknownPrincipal
  else .profile .statusNotSuccess

/-- `lasso_saml20_logout_process_response_msg` -/
def processResponseMsg (cx : LogoutContext) (logout : Logout) (responseMsg : Bytes) :
    Rc × Logout :=
  let (rc, profile) := processAnyResponse .samlp2LogoutResponse cx.toContext
    (saml2NodeClass cx.toEnv cx.samlp2LogoutResponseInitFromXml) {} logout.profile responseMsg
  let logout := { logout with profile }
  let rc :=
    if rc ≠ .ok then rc
    -- only if asked we report, otherwise we do not care
    else if profile.signatureStatus ≠ .ok ∧ profile.signatureVerifyHint = .force then
      profile.signatureStatus
    else if profile.remoteProvider.isNone then .server .providerNotFound
    else .ok
  let (rc, logout) : Rc × Logout :=
    if rc = .profile .statusNotSuccess then
      (finerError (readLogoutResponse cx responseMsg).node.status,
        { logout with partialLogout := true })
    else (rc, logout)
  if profile.session.any (·.countAssertions cx.toEnv = 0) then
    (rc, restoreInitialState cx.toEnv logout)
  else (rc, logout)

/-! ## The answer to the first provider -/

/-- `lasso_saml20_logout_build_response_msg` -/
def buildResponseMsg (cx : LogoutContext) (logout : Logout) : Rc × Logout :=
  -- SP initiated logout
  let logout := restoreInitialState cx.toEnv logout
  let (rc, profile) : Rc × Profile :=
    if logout.profile.response.any (·.isSamlp2StatusResponse) then
      (setupMessageSignature cx.toContext logout.profile, logout.profile)
    -- no response set here means request denied
    else if checkSignatureStatus logout.profile ≠ .ok then
      initResponse cx.toContext logout.profile .samlp2LogoutResponse {} saml2StatusCodeRequester
        (some libStatusCodeInvalidSignature)
    else
      initResponse cx.toContext logout.profile .samlp2LogoutResponse {} saml2StatusCodeResponder
        (some saml2StatusCodeRequestDenied)
  let logout := { logout with profile }
  if rc ≠ .ok then (rc, logout)
  else
    (Saml20.buildResponseMsg cx profile "SingleLogoutService" logout.initialHttpRequestMethod,
      logout)

end Logout

end Saml20

end Lasso
