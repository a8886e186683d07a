import Lasso.Saml20.AuthnRequestExchange
import Lasso.Saml20.ConsumerUrl
import Lasso.Saml20.Ecp
import Lasso.Saml20.Response

/-!
# Single sign-on through an enhanced client

The service provider writes its AuthnRequest into a PAOS message, the client takes it to an identity
provider, and the Response of that provider comes back through the client. The client compares the
two URLs that the providers have taken from their metadata, each on its own.

## Main definitions

* `exportToPaosRequestFull` — the PAOS message of the service provider.
* `buildEcpResponseMsg` — the message of the identity provider for the client.
* `PaosLogin.processPaosResponseMsg` — what the service provider does with the message that comes
  back.
* `Carried` — the text of an envelope is read as that envelope.

## Main results

* `paos_delivered` — when the client sends the Response back, and what the service provider gets.
-/

namespace Lasso.Saml20

open Search

/-! ## The texts of envelopes -/

/-- An element in an envelope is read as the object of its class. -/
def SoapNode.reread : SoapNode → SoapNode
  | .miscTextNode xmlnode =>
    if xmlnode.isElementNode "AuthnRequest" saml2ProtocolHref then .samlp2AuthnRequest xmlnode
    else if xmlnode.isElementNode "Response" saml2ProtocolHref then .samlp2Response xmlnode
    else .other
  | node => node

/-- The `refToMessageID` of a `paos:Response`. -/
def SoapNode.asPaosResponse : SoapNode → Option (Option String)
  | .paosResponse refToMessageId => some refToMessageId
  | _ => none

def SoapEnvelope.reread (envelope : SoapEnvelope) : SoapEnvelope where
  header := envelope.header.map (·.map SoapNode.reread)
  body := envelope.body.map (·.map SoapNode.reread)

/-- The text of the envelope is read as the envelope. -/
def Carried (cx : EcpContext) (write : SoapEnvelope → String) (envelope : SoapEnvelope) : Prop :=
  cx.soapEnvelopeNewFromMessage (write envelope) = some envelope.reread

/-! ## The message of the service provider -/

/-- What the application has set for a PAOS message, and the identifier that
`lasso_paos_request_new` makes if there is none. -/
structure PaosSettings where
  messageId : Option String := none
  idpList : Option Samlp2IdpList := none
  providerName : Option String := none
  uniqueId : String

/-- The identifier that the message gets. -/
def PaosSettings.sentId (settings : PaosSettings) : String :=
  settings.messageId.getD settings.uniqueId

/-- `lasso_node_export_to_paos_request_full` -/
def exportToPaosRequestFull (node : XmlNode) (issuer responseConsumerUrl : Option String)
    (settings : PaosSettings) (relayState : Option String) (isPassive : Bool) :
    Option SoapEnvelope :=
  match issuer, responseConsumerUrl with
  | some issuer, some responseConsumerUrl =>
    some <| .exportToSoapWithHeaders (.miscTextNode node) <|
      [.paosRequest {
          responseConsumerUrl := some responseConsumerUrl
          messageId := some settings.sentId },
        .ecpRequest {
          issuer := some { content := some issuer }
          providerName := settings.providerName
          isPassive
          idpList := settings.idpList }] ++ relayState.toList.map .ecpRelayState
  | _, _ => none

/-- What the service provider rests on for a PAOS message. -/
structure PaosContext extends AuthnRequestContext where
  settings : PaosSettings
  /-- the element of a request, with the template of its signature -/
  requestNode : Samlp2AuthnRequest → SignatureContext → XmlNode
  /-- the text of an envelope -/
  write : SoapEnvelope → String

namespace PaosContext

variable (px : PaosContext)

/-- The envelope of `lasso_profile_saml20_build_paos_request_msg`. -/
def envelope (profile : Profile) (request : Samlp2AuthnRequest) (signature : SignatureContext)
    (url : Option String) : Option SoapEnvelope :=
  exportToPaosRequestFull (px.requestNode request signature)
    (profile.server.bind (·.provider.providerId)) url px.settings profile.msgRelayState
    request.isPassive

/-- `lasso_profile_saml20_build_paos_request_msg` -/
def buildPaosRequestMsg (profile : Profile) (request : Samlp2AuthnRequest)
    (signature : SignatureContext) (url : Option String) : Rc × Option String :=
  match px.envelope profile request signature url with
  | none => (.profile .buildingMessageFailed, none)
  | some envelope => (.ok, some (px.write envelope))

/-- The service provider with this message for PAOS. -/
def context : AuthnRequestContext :=
  { px.toAuthnRequestContext with buildPaosRequest := px.buildPaosRequestMsg }

end PaosContext

/-! ## The message of the identity provider -/

/-- `lasso_saml20_login_build_response_msg` for a client: the code, and the message if there is a
URL. `responseNode` is the element of the response, given its Destination, which is the Recipient
of its assertion also. -/
def buildEcpResponseMsg (cx : Context) (responseNode : Option LassoNode → Option String → XmlNode)
    (profile : Profile) : Rc × Option SoapEnvelope :=
  if setupMessageSignature cx profile ≠ .ok then (setupMessageSignature cx profile, none)
  else
    match profile.remoteProvider with
    | none => (.server .providerNotFound, none)
    | some remoteProvider =>
      let url := getAssertionConsumerServiceUrlByBinding remoteProvider saml2MetadataBindingPaos
      (.ok, url.map fun assertionConsumerUrl =>
        .exportToSoapWithHeaders (.miscTextNode (responseNode profile.response url))
          [.ecpResponse assertionConsumerUrl])

/-! ## The service provider again -/

/-- `LASSO_SAMLP2_STATUS_RESPONSE` -/
def asStatusResponse : LassoNode → Option Samlp2StatusResponse
  | .samlp2Response response => some response.toSamlp2StatusResponse
  | .samlp2LogoutResponse response | .samlp2ManageNameIdResponse response => some response
  | .samlp2ArtifactResponse response => some response.toSamlp2StatusResponse
  | _ => none

/-- A login with the identifier of its PAOS messages. -/
structure PaosLogin extends Login where
  messageId : Option String := none

/-- What the service provider reads a PAOS response with. -/
structure PaosReadContext extends Context where
  /-- `lasso_soap_envelope_new_from_message` -/
  soapEnvelopeNewFromMessage : String → Option SoapEnvelope
  /-- the object in a SOAP body -/
  bodyObject : SoapNode → LassoNode

/-- `lasso_saml20_profile_process_soap_response_with_headers`: the code, the profile, and the header
that it hands out. -/
def processSoapResponseWithHeaders (rx : PaosReadContext) (profile : Profile)
    (responseMsg : String) : Rc × Profile × Option (List SoapNode) :=
  let profile := { profile with signatureStatus := .ok }
  match rx.soapEnvelopeNewFromMessage responseMsg with
  | none => (.profile .invalidSoapMsg, profile, none)
  | some envelope =>
    match envelope.body with
    | none => (.soap .missingBody, profile, none)
    | some [] => (.soap .missingBody, { profile with response := none }, none)
    | some (node :: _) =>
      let profile := { profile with response := some (rx.bodyObject node) }
      match asStatusResponse (rx.bodyObject node) with
      | none => (.profile .invalidMsg, profile, envelope.header)
      | some response =>
        match profile.server with
        | none => (.profile .missingServer, profile, envelope.header)
        | some server =>
          match response.issuer with
          | none => (.profile .missingIssuer, profile, envelope.header)
          | some issuer =>
            let profile := { profile with remoteProviderId := issuer.content }
            match server.getProvider issuer.content with
            | none => (.server .providerNotFound, profile, envelope.header)
            | some remoteProvider =>
              let rc := remoteProvider.verifySignature rx.toEnv (some responseMsg.toList)
                (some "ID") .soap
              (if profile.signatureVerifyHint = .ignore then .ok else rc,
                { profile with signatureStatus := rc }, envelope.header)

/-- The assignments from the header of a PAOS response. -/
def PaosLogin.readHeader (login : PaosLogin) (header : List SoapNode) : PaosLogin :=
  { login with
    profile := { login.profile with
      msgRelayState := (header.findSome? (·.asEcpRelayState)).or login.profile.msgRelayState }
    messageId := (header.findSome? (·.asPaosResponse)).getD login.messageId }

/-- `lasso_saml20_login_process_paos_response_msg` -/
def PaosLogin.processPaosResponseMsg (rx : PaosReadContext) (login : PaosLogin)
    (msg : Option String) : Rc × PaosLogin :=
  match msg with
  | none => (.param .invalidValue, login)
  | some msg =>
    let (rc, profile, header) := processSoapResponseWithHeaders rx login.profile msg
    let login := { login with profile }
    if rc ≠ .ok ∧ rc ≠ .ds .signatureNotFound then (rc, login)
    else
      let login := login.readHeader (header.getD [])
      let (rc, accepted) := processResponseStatusAndAssertion rx.toContext login.toLogin
      (rc, { login with toLogin := accepted })

/-! ## The request -/

/-- The URL is that of a PAOS assertion consumer service of the service provider itself. -/
def OwnPaosUrl (profile : Profile) (url : String) : Prop :=
  ∃ server, profile.server = some server ∧
    checkAssertionConsumerServiceUrl server.provider url saml2MetadataBindingPaos = true

section

variable {px : PaosContext} {login sent : RequestingLogin} {request : Samlp2AuthnRequest}
  {url : String}

theorem paosConsumerUrl_ne_ok {rc : Rc} (h : login.paosConsumerUrl request = .error rc) :
    rc ≠ .ok := by
  unfold RequestingLogin.paosConsumerUrl at h
  split at h
  · split_ifs at h
    cases h
    simp
  · cases h

theorem ownPaosUrl_of_paosConsumerUrl (h : login.paosConsumerUrl request = .ok (some url)) :
    OwnPaosUrl login.profile url := by
  unfold RequestingLogin.paosConsumerUrl at h
  cases hserver : login.profile.server with
  | none =>
    cases hnamed : request.assertionConsumerServiceURL <;> simp [hnamed, hserver] at h
  | some server =>
    refine ⟨server, hserver, ?_⟩
    cases hnamed : request.assertionConsumerServiceURL with
    | some named =>
      simp only [hnamed, hserver, Option.any_some] at h
      split_ifs at h with hown
      obtain rfl : named = url := by simpa using h
      exact hown
    | none =>
      simp only [hnamed, hserver, Option.bind_some, Except.ok.injEq] at h
      obtain ⟨endpoint, hmem, hservice, hurl, hbinding⟩ :=
        getAssertionConsumerServiceUrlByBinding_eq_some h
      simp only [isAssertionConsumerService, Bool.and_eq_true] at hservice
      refine List.any_eq_true.mpr ⟨endpoint, hmem, ?_⟩
      simp [beq_iff_eq.mp hservice.1, hurl, hbinding]

theorem httpMethod_of_buildByMethod {cx : AuthnRequestContext} {rc : Rc}
    (h : login.buildByMethod cx request url = .returns (rc, sent)) :
    sent.httpMethod = login.httpMethod := by
  unfold RequestingLogin.buildByMethod at h
  split at h
  · cases h
    rfl
  · cases h
    rfl
  · unfold RequestingLogin.buildHttpRedirect at h
    dsimp only at h
    split at h
    · cases h
    · split_ifs at h <;> cases h <;> rfl
  · cases h
    rfl
  · cases h
    rfl
  · cases h
    rfl

theorem httpMethod_of_buildRequestMsg {cx : AuthnRequestContext} {rc : Rc} {url : Option String}
    (hmethod : login.httpMethod ≠ .paos)
    (h : login.buildRequestMsg cx request url = .returns (rc, sent)) :
    sent.httpMethod = login.httpMethod := by
  unfold RequestingLogin.buildRequestMsg at h
  dsimp only at h
  split at h
  · cases h
    rfl
  · rw [if_neg hmethod] at h
    split at h
    · cases h
      rfl
    · exact (httpMethod_of_buildByMethod h).trans rfl

/-- With PAOS the profile stays as it is, and a given URL goes into the message. -/
theorem buildRequestMsg_paos {url : Option String} (hmethod : login.httpMethod = .paos)
    (h : login.buildRequestMsg px.context request url = .returns (.ok, sent)) :
    sent.profile = login.profile ∧ sent.signature = login.signature ∧
      ∀ consumer ∈ url, ∃ envelope,
        px.envelope login.profile request login.signature consumer = some envelope ∧
          sent.msgBody = some (px.write envelope) := by
  unfold RequestingLogin.buildRequestMsg at h
  dsimp only at h
  split at h
  case h_1 rc hmade =>
    cases url with
    | some url => simp at hmade
    | none =>
      cases hprovider : getProvider login.profile with
      | ok p => simp [hprovider, Except.map] at hmade
      | error rc' =>
        simp only [hprovider, Except.map, Except.error.injEq] at hmade
        simp only [Asserted.returns.injEq, Prod.mk.injEq] at h
        exact absurd h.1 (hmade ▸ (getProvider_ne_ok hprovider).1)
  case h_2 url' hmade =>
    rw [if_pos hmethod] at h
    simp only [Asserted.returns.injEq, Prod.mk.injEq] at h
    obtain ⟨hrc, rfl⟩ := h
    refine ⟨rfl, rfl, ?_⟩
    rintro consumer rfl
    obtain rfl : some consumer = url' := by simpa using hmade
    change (px.buildPaosRequestMsg login.profile request login.signature (some consumer)).1 = .ok
      at hrc
    change ∃ envelope, _ ∧ (px.buildPaosRequestMsg login.profile request login.signature
      (some consumer)).2 = some (px.write envelope)
    unfold PaosContext.buildPaosRequestMsg at hrc ⊢
    cases henvelope : px.envelope login.profile request login.signature (some consumer) with
    | none => simp [henvelope] at hrc
    | some envelope => exact ⟨envelope, rfl, rfl⟩

/-- What is written is the request of a login whose method is not PAOS, or a request for PAOS that
names the consumer of the login. -/
theorem buildSaml20AuthnRequestMsg_cases {cx : AuthnRequestContext}
    (h : login.buildSaml20AuthnRequestMsg cx = .returns (.ok, sent)) :
    (∃ (prepared : RequestingLogin) (request : Samlp2AuthnRequest), prepared.httpMethod ≠ .paos ∧
      prepared.buildRequestMsg cx request none = .returns (.ok, sent)) ∨
    ∃ (prepared : RequestingLogin) (request : Samlp2AuthnRequest) (url : Option String),
      prepared.httpMethod = .paos ∧ prepared.profile.request = some (.samlp2AuthnRequest request) ∧
        request.assertionConsumerServiceURL = url ∧
        (∀ consumer ∈ url, OwnPaosUrl prepared.profile consumer) ∧
        prepared.buildRequestMsg cx request url = .returns (.ok, sent) := by
  unfold RequestingLogin.buildSaml20AuthnRequestMsg at h
  split at h
  case h_2 => simp at h
  case h_1 request _ =>
    extract_lets signed prepared at h
    split_ifs at h with hpaos
    · cases hconsumer : prepared.paosConsumerUrl request with
      | error rc =>
        simp only [hconsumer, Asserted.returns.injEq, Prod.mk.injEq] at h
        exact absurd h.1 (paosConsumerUrl_ne_ok hconsumer)
      | ok url =>
        simp only [hconsumer] at h
        have hown : ∀ consumer ∈ url, OwnPaosUrl prepared.profile consumer :=
          fun consumer hmem => ownPaosUrl_of_paosConsumerUrl (hmem ▸ hconsumer)
        let named : Samlp2AuthnRequest := { request with assertionConsumerServiceURL := url }
        exact .inr ⟨{ prepared with profile :=
            { prepared.profile with request := some (.samlp2AuthnRequest named) } },
          named, url, hpaos, rfl, rfl, hown, h⟩
    · exact .inl ⟨prepared, request, hpaos, h⟩

/-- A PAOS message that names a consumer was written for that consumer. -/
theorem paos_sent (hbuilt : login.buildAuthnRequestMsg px.context = .returns (.ok, sent))
    (hmethod : sent.httpMethod = .paos)
    (hrequest : sent.profile.request = some (.samlp2AuthnRequest request))
    (hurl : request.assertionConsumerServiceURL = some url) :
    OwnPaosUrl sent.profile url ∧
      ∃ envelope, px.envelope sent.profile request sent.signature url = some envelope ∧
        sent.msgBody = some (px.write envelope) := by
  have hsaml : ∃ login : RequestingLogin,
      login.buildSaml20AuthnRequestMsg px.context = .returns (.ok, sent) := by
    unfold RequestingLogin.buildAuthnRequestMsg at hbuilt
    dsimp only at hbuilt
    split_ifs at hbuilt
    · exact ⟨_, hbuilt⟩
    · simp at hbuilt
    · simp at hbuilt
    · exact ⟨_, hbuilt⟩
  obtain ⟨login, hsaml⟩ := hsaml
  rcases buildSaml20AuthnRequestMsg_cases hsaml with ⟨prepared, request', hother, hmsg⟩ |
    ⟨prepared, request', url', hpaos, hprepared, hnamed, hown, hmsg⟩
  · exact absurd ((httpMethod_of_buildRequestMsg hother hmsg).symm.trans hmethod) hother
  · obtain ⟨hprofile, hsignature, hbody⟩ := buildRequestMsg_paos hpaos hmsg
    rw [hprofile, hprepared] at hrequest
    obtain rfl : request' = request := by simpa using hrequest
    obtain rfl : url' = some url := hnamed.symm.trans hurl
    rw [hprofile, hsignature]
    exact ⟨hown url rfl, hbody url rfl⟩

/-! ## The client -/

variable {ecx : EcpContext} {envelope : SoapEnvelope}

/-- What the PAOS message asks the client for. -/
theorem relayOrder_of_envelope {profile : Profile} {signature : SignatureContext}
    (henvelope : px.envelope profile request signature url = some envelope)
    (hnode : (px.requestNode request signature).isElementNode "AuthnRequest" saml2ProtocolHref
      = true)
    (hcarried : Carried ecx px.write envelope) :
    ecx.relayOrder (px.write envelope) =
      some ⟨url, some px.settings.sentId, profile.msgRelayState⟩ := by
  unfold PaosContext.envelope exportToPaosRequestFull at henvelope
  cases hissuer : profile.server.bind (·.provider.providerId) with
  | none => simp [hissuer] at henvelope
  | some issuer =>
    simp only [hissuer, Option.some.injEq] at henvelope
    subst henvelope
    unfold EcpContext.relayOrder
    rw [hcarried]
    cases hrelay : profile.msgRelayState with
    | none =>
      simp [SoapEnvelope.reread, SoapEnvelope.exportToSoapWithHeaders, SoapNode.reread, hnode,
        SoapNode.asPaosRequest, SoapNode.asEcpRequest, SoapNode.asEcpRelayState]
    | some relayState =>
      simp [SoapEnvelope.reread, SoapEnvelope.exportToSoapWithHeaders, SoapNode.reread, hnode,
        SoapNode.asPaosRequest, SoapNode.asEcpRequest, SoapNode.asEcpRelayState]

/-- The client after a PAOS message and responses from wherever. -/
def Ecp.afterResponses (ecx : EcpContext) (client : Ecp) (msgs : List (Option String)) : Ecp :=
  msgs.foldl (fun client msg => (client.processResponseMsg ecx msg).2) client

theorem Ecp.kept_afterResponses (client : Ecp) (msgs : List (Option String)) :
    (client.afterResponses ecx msgs).kept = client.kept := by
  induction msgs generalizing client with
  | nil => rfl
  | cons msg msgs ih => exact (ih _).trans (client.processResponseMsg_cases ecx msg).1

theorem reread_response {node : XmlNode}
    (hnode : node.isElementNode "Response" saml2ProtocolHref = true) :
    (SoapNode.miscTextNode node).reread = .samlp2Response node := by
  obtain ⟨attrs, children, rfl⟩ := XmlNode.isElementNode_iff.mp hnode
  simp [SoapNode.reread, XmlNode.isElementNode]

/-- A response of an identity provider is sent back exactly to the consumer that was kept. -/
theorem Ecp.processResponseMsg_carried {client : Ecp} {node : XmlNode} {consumer : String}
    (hnode : node.isElementNode "Response" saml2ProtocolHref = true)
    (henvelope : envelope = .exportToSoapWithHeaders (.miscTextNode node) [.ecpResponse consumer])
    (hcarried : Carried ecx px.write envelope) :
    ((client.processResponseMsg ecx (px.write envelope)).1 = .ok ↔
      client.responseConsumerUrl = some consumer) ∧
    (client.responseConsumerUrl = some consumer →
      (client.processResponseMsg ecx (px.write envelope)).2.msgUrl = some consumer ∧
      (client.processResponseMsg ecx (px.write envelope)).2.msgBody =
        some (.exportToSoapWithHeaders (.miscTextNode node)
          (.paosResponse client.messageId :: client.relaystate.toList.map .ecpRelayState))) ∧
    (client.responseConsumerUrl ≠ some consumer →
      ∀ sent ∈ (client.processResponseMsg ecx (px.write envelope)).2.msgBody,
        sent.holdsSamlResponse = false) := by
  have hread : Ecp.readResponseMsg ecx (px.write envelope) = .ok (consumer, node) := by
    have hreread : envelope.reread =
        { header := some [.ecpResponse consumer], body := some [.samlp2Response node] } := by
      rw [henvelope, ← reread_response hnode]
      rfl
    unfold Ecp.readResponseMsg
    rw [hcarried, hreread]
    rfl
  unfold Ecp.processResponseMsg
  simp only [hread]
  by_cases hsame : client.responseConsumerUrl = some consumer
  · simp [hsame]
  · simp [hsame, Ecp.fail, SoapEnvelope.holdsSamlResponse, SoapEnvelope.exportToSoap,
      SoapNode.isSamlResponse]

/-! ## The service provider again -/

/-- The object is a status response of a provider that the service provider knows, and the code for
the signature of the message does not keep the service provider from it. -/
structure Admits (rx : PaosReadContext) (profile : Profile) (object : LassoNode) (text : String)
    (issuer : Option String) (rc : Rc) : Prop where
  issued : ∃ response name, asStatusResponse object = some response ∧
    response.issuer = some name ∧ name.content = issuer
  verified : ∃ server remoteProvider, profile.server = some server ∧
    server.getProvider issuer = some remoteProvider ∧
    remoteProvider.verifySignature rx.toEnv (some text.toList) (some "ID") .soap = rc
  admitted : profile.signatureVerifyHint = .ignore ∨ rc = .ok ∨ rc = .ds .signatureNotFound

/-- The login with the object as its response, and with what came in the header. -/
def PaosLogin.received (login : PaosLogin) (object : LassoNode) (issuer : Option String) (rc : Rc)
    (relayState messageId : Option String) : PaosLogin :=
  { login with
    profile := { login.profile with
      response := some object
      remoteProviderId := issuer
      signatureStatus := rc
      msgRelayState := relayState.or login.profile.msgRelayState }
    messageId }

/-- The rest of `lasso_saml20_login_process_paos_response_msg`. -/
def PaosLogin.judge (rx : PaosReadContext) (login : PaosLogin) : Rc × PaosLogin :=
  ((processResponseStatusAndAssertion rx.toContext login.toLogin).1,
    { login with toLogin := (processResponseStatusAndAssertion rx.toContext login.toLogin).2 })

/-- The message that the client sends back. -/
def relayedEnvelope (node : XmlNode) (messageId relayState : Option String) : SoapEnvelope :=
  .exportToSoapWithHeaders (.miscTextNode node)
    (.paosResponse messageId :: relayState.toList.map .ecpRelayState)

/-- The service provider judges the Response that the client relays. -/
theorem processPaosResponseMsg_carried {rx : PaosReadContext} {back : PaosLogin} {node : XmlNode}
    {messageId relayState issuer : Option String} {text : String} {rc : Rc}
    (hnode : node.isElementNode "Response" saml2ProtocolHref = true)
    (hcarried : rx.soapEnvelopeNewFromMessage text =
      some (relayedEnvelope node messageId relayState).reread)
    (hadmits : Admits rx back.profile (rx.bodyObject (.samlp2Response node)) text issuer rc) :
    back.processPaosResponseMsg rx text =
      (back.received (rx.bodyObject (.samlp2Response node)) issuer rc relayState messageId).judge
        rx := by
  obtain ⟨response, name, hobject, hissuer, rfl⟩ := hadmits.issued
  obtain ⟨server, remoteProvider, hserver, hprovider, hverify⟩ := hadmits.verified
  have hreread : (relayedEnvelope node messageId relayState).reread = {
      header := some (.paosResponse messageId :: relayState.toList.map .ecpRelayState)
      body := some [.samlp2Response node] } := by
    rw [← reread_response hnode]
    cases relayState <;> rfl
  have hprocess : processSoapResponseWithHeaders rx back.profile text =
      (if back.profile.signatureVerifyHint = .ignore then .ok else rc,
        { back.profile with
          response := some (rx.bodyObject (.samlp2Response node))
          remoteProviderId := name.content
          signatureStatus := rc },
        some (.paosResponse messageId :: relayState.toList.map .ecpRelayState)) := by
    simp [processSoapResponseWithHeaders, hcarried, hreread, hobject, hserver, hissuer, hprovider,
      hverify]
  have hcode : ¬ ((if back.profile.signatureVerifyHint = .ignore then Rc.ok else rc) ≠ .ok ∧
      (if back.profile.signatureVerifyHint = .ignore then Rc.ok else rc) ≠
        .ds .signatureNotFound) := by
    rcases hadmits.admitted with hhint | hrc | hrc <;> simp_all
  unfold PaosLogin.processPaosResponseMsg
  simp only [hprocess, if_neg hcode]
  cases relayState <;> rfl

/-! ## The exchange -/

/-- The message of an identity provider names the consumer that it finds first. -/
theorem buildEcpResponseMsg_eq_ok {idpCx : Context} {idp : Profile} {answer : SoapEnvelope}
    {responseNode : Option LassoNode → Option String → XmlNode}
    (h : buildEcpResponseMsg idpCx responseNode idp = (.ok, some answer)) :
    ∃ consumer, idp.remoteProvider.bind
        (getAssertionConsumerServiceUrlByBinding · saml2MetadataBindingPaos) = some consumer ∧
      answer = .exportToSoapWithHeaders (.miscTextNode (responseNode idp.response (some consumer)))
        [.ecpResponse consumer] := by
  unfold buildEcpResponseMsg at h
  split_ifs at h with hsetup
  · simp at h
  · cases hprovider : idp.remoteProvider with
    | none => simp [hprovider] at h
    | some p =>
      simp only [hprovider, Prod.mk.injEq, true_and] at h
      obtain ⟨consumer, hconsumer, rfl⟩ := Option.map_eq_some_iff.mp h
      exact ⟨consumer, hconsumer, by rw [hconsumer]⟩

end

/-- One exchange: a service provider has built a PAOS message, and an identity provider a message
for the client. -/
structure PaosExchange (px : PaosContext) (ecx : EcpContext) where
  login : RequestingLogin
  sent : RequestingLogin
  request : Samlp2AuthnRequest
  url : String
  built : login.buildAuthnRequestMsg px.context = .returns (.ok, sent)
  method : sent.httpMethod = .paos
  requested : sent.profile.request = some (.samlp2AuthnRequest request)
  named : request.assertionConsumerServiceURL = some url
  isRequest : (px.requestNode request sent.signature).isElementNode "AuthnRequest"
    saml2ProtocolHref = true
  sentCarried : ∀ envelope ∈ px.envelope sent.profile request sent.signature url,
    Carried ecx px.write envelope
  idpCx : Context
  idp : Profile
  responseNode : Option LassoNode → Option String → XmlNode
  answer : SoapEnvelope
  answered : buildEcpResponseMsg idpCx responseNode idp = (.ok, some answer)
  isResponse : ∀ object url, (responseNode object url).isElementNode "Response" saml2ProtocolHref
    = true
  answerCarried : Carried ecx px.write answer

namespace PaosExchange

variable {px : PaosContext} {ecx : EcpContext} (x : PaosExchange px ecx)

/-- The first PAOS consumer that the identity provider finds for the service provider. -/
def idpConsumer : Option String :=
  x.idp.remoteProvider.bind (getAssertionConsumerServiceUrlByBinding · saml2MetadataBindingPaos)

/-- The Response, written for the consumer of the service provider. -/
def response : XmlNode := x.responseNode x.idp.response (some x.url)

/-- What a client comes to that takes the PAOS message, whatever it has done before, and is sent
other responses before that of the identity provider. -/
def back (client : Ecp) (others : List (Option String)) : Rc × Ecp :=
  let client := (client.processAuthnRequestMsg ecx x.sent.msgBody).2.afterResponses ecx others
  client.processResponseMsg ecx (px.write x.answer)

/-- A service provider that reads the envelope judges the Response in it, with these values. -/
def Judges (rx : PaosReadContext) (node : XmlNode) (relayState messageId : Option String)
    (envelope : SoapEnvelope) : Prop :=
  ∀ (receiver : PaosLogin) (issuer : Option String) (rc : Rc) (text : String),
    rx.soapEnvelopeNewFromMessage text = some envelope.reread →
    Admits rx receiver.profile (rx.bodyObject (.samlp2Response node)) text issuer rc →
    receiver.processPaosResponseMsg rx text =
      (receiver.received (rx.bodyObject (.samlp2Response node)) issuer rc relayState
        messageId).judge rx

/-- What the client has kept when the answer comes. -/
theorem kept_before_back (client : Ecp) (others : List (Option String)) :
    (client.processAuthnRequestMsg ecx x.sent.msgBody).1 = .ok ∧
      ((client.processAuthnRequestMsg ecx x.sent.msgBody).2.afterResponses ecx others).kept =
        ⟨some x.url, some px.settings.sentId,
          x.sent.profile.msgRelayState.or client.relaystate⟩ := by
  obtain ⟨-, envelope, henvelope, hbody⟩ := paos_sent x.built x.method x.requested x.named
  have horder := relayOrder_of_envelope henvelope x.isRequest (x.sentCarried envelope henvelope)
  rw [Ecp.kept_afterResponses, hbody]
  rcases client.processAuthnRequestMsg_cases ecx (some (px.write envelope)) with
    ⟨hnone, -, -⟩ | ⟨order, horder', hrc, hkept⟩
  · rw [Option.bind_some, horder] at hnone
    cases hnone
  · obtain rfl := Option.some.inj (horder'.symm.trans horder)
    exact ⟨hrc, hkept⟩

/-- The PAOS message of a service provider names a PAOS consumer of its own, and the client takes it
whatever the client has done before. The client sends the Response of the identity provider back,
with whatever it was sent in between, exactly if the first PAOS consumer that the identity provider
finds for the service provider is that one. It then goes to that consumer, and the service provider
judges it with the identifier that it sent and its own RelayState, if it sent one; otherwise no
Response leaves the client. -/
theorem paos_delivered (client : Ecp) (others : List (Option String)) :
    OwnPaosUrl x.sent.profile x.url ∧
    (client.processAuthnRequestMsg ecx x.sent.msgBody).1 = .ok ∧
    ((x.back client others).1 = .ok ↔ x.idpConsumer = some x.url) ∧
    ((x.back client others).1 = .ok → (x.back client others).2.msgUrl = some x.url ∧
      ∃ envelope, (x.back client others).2.msgBody = some envelope ∧
        ∀ rx, Judges rx x.response (x.sent.profile.msgRelayState.or client.relaystate)
          (some px.settings.sentId) envelope) ∧
    ((x.back client others).1 ≠ .ok →
      ∀ envelope ∈ (x.back client others).2.msgBody, envelope.holdsSamlResponse = false) := by
  obtain ⟨hrc, hkept⟩ := x.kept_before_back client others
  obtain ⟨consumer, hconsumer, hanswer⟩ := buildEcpResponseMsg_eq_ok x.answered
  obtain ⟨hiff, hsent, hrefused⟩ := @Ecp.processResponseMsg_carried px ecx x.answer
    ((client.processAuthnRequestMsg ecx x.sent.msgBody).2.afterResponses ecx others) _ consumer
    (x.isResponse x.idp.response (some consumer)) hanswer x.answerCarried
  simp only [Ecp.kept, Kept.mk.injEq] at hkept
  obtain ⟨hurl, hid, hrelay⟩ := hkept
  have hsame : (x.back client others).1 = .ok ↔ consumer = x.url := by
    rw [back, hiff, hurl, Option.some.injEq, eq_comm]
  refine ⟨(paos_sent x.built x.method x.requested x.named).1, hrc, ?_, fun hok => ?_,
    fun herror => ?_⟩
  · rw [hsame, idpConsumer, hconsumer, Option.some.injEq]
  · obtain rfl := hsame.mp hok
    obtain ⟨hmsgUrl, hmsgBody⟩ := hsent hurl
    rw [hid, hrelay] at hmsgBody
    exact ⟨hmsgUrl, _, hmsgBody, fun rx receiver issuer rc text hcarried hadmits =>
      processPaosResponseMsg_carried (x.isResponse _ _) hcarried hadmits⟩
  · refine hrefused fun hkept => herror (hsame.mpr ?_)
    exact Option.some.inj (hkept.symm.trans hurl)

/-! ### One exchange -/

/-- A service provider with two PAOS consumers. -/
def paosProvider : Provider where
  providerId := some "sp"
  role := .sp
  conformance := .saml20
  endpoints := ["https://sp/paos", "https://sp/other"].map fun url => {
    role := .sp, kind := "AssertionConsumerService", binding := saml2MetadataBindingPaos, url }

def paosAuthnRequest : XmlNode := .element (some saml2ProtocolHref) "AuthnRequest" [] []

def paosResponse : XmlNode := .element (some saml2ProtocolHref) "Response" [] []

/-- The texts of the two messages. -/
def paosText (envelope : SoapEnvelope) : String :=
  if (envelope.header.getD []).any (·.asEcpResponse.isSome) then "answer" else "request"

def roundPx : PaosContext where
  toAuthnRequestContext := deliveryCx
  settings := { uniqueId := "_m" }
  requestNode _ _ := paosAuthnRequest
  write := paosText

/-- The service provider, before and after it has built its message. -/
def roundLogin : RequestingLogin where
  profile := {
    server := some { provider := paosProvider }
    request := some (.samlp2AuthnRequest {})
    msgRelayState := some "state" }
  httpMethod := .paos

def roundRequest : Samlp2AuthnRequest := { assertionConsumerServiceURL := some "https://sp/paos" }

def roundSent : RequestingLogin :=
  { roundLogin with
    profile := { roundLogin.profile with request := some (.samlp2AuthnRequest roundRequest) }
    msgBody := some "request" }

def roundRequestEnvelope : SoapEnvelope :=
  .exportToSoapWithHeaders (.miscTextNode paosAuthnRequest)
    [.paosRequest { responseConsumerUrl := some "https://sp/paos", messageId := some "_m" },
      .ecpRequest { issuer := some { content := some "sp" } }, .ecpRelayState "state"]

def roundAnswer : SoapEnvelope :=
  .exportToSoapWithHeaders (.miscTextNode paosResponse) [.ecpResponse "https://sp/paos"]

def roundEcx : EcpContext where
  soapEnvelopeNewFromMessage text :=
    some (if text = "request" then roundRequestEnvelope.reread else roundAnswer.reread)
  strerror _ := ""
  foreachOrder keys := keys

def roundIdp : Profile where
  server := some (Server.addProvider { provider := wantingIdp } paosProvider).2
  remoteProviderId := some "sp"

theorem roundLogin_built :
    roundLogin.buildAuthnRequestMsg roundPx.context = .returns (.ok, roundSent) := rfl

theorem roundSent_carried : ∀ envelope ∈ roundPx.envelope roundSent.profile roundRequest
    roundSent.signature "https://sp/paos", Carried roundEcx roundPx.write envelope := by
  intro envelope henvelope
  cases henvelope
  rfl

theorem roundIdp_answered : buildEcpResponseMsg deliveryCx.toContext (fun _ _ => paosResponse)
    roundIdp = (.ok, some roundAnswer) := rfl

theorem roundAnswer_carried : Carried roundEcx roundPx.write roundAnswer := rfl

def oneRound : PaosExchange roundPx roundEcx where
  login := roundLogin
  sent := roundSent
  request := roundRequest
  url := "https://sp/paos"
  built := roundLogin_built
  method := rfl
  requested := rfl
  named := rfl
  isRequest := rfl
  sentCarried := roundSent_carried
  idpCx := deliveryCx.toContext
  idp := roundIdp
  responseNode _ _ := paosResponse
  answer := roundAnswer
  answered := roundIdp_answered
  isResponse _ _ := rfl
  answerCarried := roundAnswer_carried

/-- Another response in between makes no difference. -/
theorem round_delivered :
    (oneRound.back { server := { provider := wantingIdp } } [none]).1 = .ok :=
  ((oneRound.paos_delivered _ _).2.2.1).mpr rfl

end PaosExchange

end Lasso.Saml20
