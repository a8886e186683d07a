import Lasso.Saml20.Artifact
import Lasso.Saml20.ArtifactCodec
import Lasso.Saml20.LoginResponse

/-!
# An artifact from its issue to the message behind it

The browser brings the service provider an artifact. The service provider asks the provider that
issued it, and gets the message that is kept there under the artifact.

## Main definitions

* `resolveArtifact` — the exchange.
* `ArtifactResolved` — what must hold for the message to arrive.

## Main results

* `resolveArtifact_eq_ok` — the exchange succeeds exactly then, and with this message.
-/

namespace Lasso.Saml20

/-! ## The exchange -/

/-- What the service provider rests on. -/
structure ResolvingContext extends ArtifactContext, LoginContext

/-- What the two providers rest on, and the texts that they send. -/
structure ArtifactExchange where
  sp : ResolvingContext
  idp : Context
  /-- the messages that the application of the identity provider keeps under its artifacts -/
  stored : String → Option Bytes
  /-- the text that a request is sent as; its Destination is left out -/
  sendResolve : Samlp2ArtifactResolve → Bytes
  /-- the text that a response is sent as -/
  sendResponse : Samlp2ArtifactResponse → Bytes
  /-- the object that the element inside a response is read as -/
  openNode : XmlNode → Option LassoNode

/-- The identity provider answers a request. The application looks for the message under the
artifact that was read. -/
def answerArtifactResolve (x : ArtifactExchange) (login : Login) (requestMsg : Bytes) :
    Rc × Login :=
  let read := Login.processRequestMsg x.idp login requestMsg
  if read.1 ≠ .ok then read
  else
    Login.buildResponseMsg x.idp { read.2 with
      profile := { read.2.profile with
        artifactMessage := read.2.assertionArtifact.bind x.stored } }

/-- The service provider with the message that it gets for an artifact. The last step is the first
one of `lasso_saml20_login_process_response_msg`. -/
def resolveArtifact (x : ArtifactExchange) (profile : Profile) (idp : Login) (uniqueId : String)
    (msg : Bytes) (method : HttpMethod) : Rc × Profile :=
  let asked := initArtifactResolve x.sp.toArtifactContext profile uniqueId .idp msg method
  if asked.1 ≠ .ok then asked
  else
    match asked.2.request with
    | some (.samlp2ArtifactResolve request) =>
      let answered := answerArtifactResolve x idp (x.sendResolve request)
      if answered.1 ≠ .ok then (answered.1, asked.2)
      else
        match answered.2.profile.response with
        | some (.samlp2ArtifactResponse response) =>
          processArtifactResponse x.sp.toLoginContext asked.2 (x.sendResponse response)
        | _ => (.undefined, asked.2)
    | _ => (.undefined, asked.2)

/-! ## When the message arrives -/

/-- The request for the message behind an artifact. -/
def resolveRequest (server : Server) (uniqueId artifact : String) : Samlp2ArtifactResolve where
  id := some uniqueId
  issuer := some { content := server.provider.providerId }
  artifact := some artifact

/-- The response with a message. -/
def messageResponse (server : Server) (uniqueId : String) (node : XmlNode) :
    Samlp2ArtifactResponse where
  issuer := some { content := server.provider.providerId }
  inResponseTo := some uniqueId
  status := some (Status.set none saml2StatusCodeSuccess none)
  any := some ⟨some node⟩

/-- The response of the identity provider to a request. -/
def artifactAnswer (cx : Context) (server : Server) (uniqueId : String) (message : Option Bytes) :
    Samlp2ArtifactResponse :=
  let node := message.bind cx.parseMemory
  let code2 :=
    if message.isSome ∧ node = none then some privateStatusCodeFailedToRestoreArtifact else none
  { issuer := some { content := server.provider.providerId }
    inResponseTo := some uniqueId
    status := some (Status.set none
      (if code2.isSome then saml2StatusCodeResponder else saml2StatusCodeSuccess) code2)
    any := node.map fun node => ⟨some node⟩ }

/-- The request and the response of the exchange are read as they were sent, the response with the
object that its element is read as. -/
structure ArtifactExchange.Carries (x : ArtifactExchange) (server idpServer : Server)
    (uniqueId artifact : String) : Prop where
  resolve : x.idp.newFromSoap (x.sendResolve (resolveRequest server uniqueId artifact)) =
    some (.samlp2ArtifactResolve (resolveRequest server uniqueId artifact))
  response : ∀ response,
    response = artifactAnswer x.idp idpServer uniqueId (x.stored artifact) →
      NameIdManagement.isRead
        (readArtifactResponse x.sp.toLoginContext (x.sendResponse response)).format = true ∧
      (readArtifactResponse x.sp.toLoginContext (x.sendResponse response)).node =
        { toSamlp2StatusResponse := response.toSamlp2StatusResponse
          any := (response.any.bind (·.xmlContent)).bind x.openNode }

/-- The service provider can ask for the message: the issuer has an endpoint with the index, and the
request can be signed. -/
structure CanResolve (x : ArtifactExchange) (profile : Profile) (p : Provider) (providerId : String)
    (index : Nat) : Prop where
  endpoint : (getEndpointUrl p .idp artifactResolutionService [] false false index).isSome
  signs : setupMessageSignature x.sp.toContext
    { profile with remoteProviderId := some providerId } = .ok

/-- The identity provider answers: it knows the requester, which has signed the text, and can sign
its response. -/
structure CanAnswer (x : ArtifactExchange) (idp : Profile) (server : Server)
    (requesterId : Option String) (text : Bytes) : Prop where
  requester : ∃ requester, server.getProvider requesterId = some requester ∧
    (idp.signatureVerifyHint = .ignore ∨
      requester.verifySignature x.idp.toEnv (some text) (some "ID") .soap = .ok)
  signs : setupMessageSignature x.idp { idp with remoteProviderId := requesterId } = .ok

/-- The message that is kept under an artifact. -/
structure KeepsMessage (x : ArtifactExchange) (artifact : String) (node : XmlNode)
    (message : LassoNode) : Prop where
  parsed : (x.stored artifact).bind x.idp.parseMemory = some node
  read : x.openNode node = some message
  kind : message.isSamlp2RequestAbstract = true ∨ message.isSamlp2StatusResponse = true

/-- The profile has the message, as the request or as the response that is to be processed. -/
def Obtains (profile : Profile) (message : LassoNode) : Prop :=
  if message.isSamlp2RequestAbstract then profile.request = some message
  else profile.response = some message

/-! ## The request -/

section

variable {x : ArtifactExchange} {profile : Profile} {idp : Login} {server : Server} {p : Provider}
  {providerId uniqueId : String} {index : Nat} {handle : MessageHandle} {artifact : CString}
  {msgRelayState : Option CString} {method : HttpMethod} {msg : Bytes}

/-- The artifact names its issuer, and is the one that is asked for. -/
theorem initArtifactResolve_issued {cx : ArtifactContext} (hcx : cx.Documented)
    (hserver : profile.server = some server)
    (hlookup : server.providers.lookup providerId = some p) (hid : p.providerId = some providerId)
    (hdistinct : ∀ key ∈ server.providers,
      cx.digest .sha1 key.toList = cx.digest .sha1 providerId.toList → key = providerId)
    (hne : providerId ≠ "") (hindex : getArtifactResolutionServiceIndex p = some index)
    (hrange : index < 128 ∨ 65408 ≤ index) (hissued : buildArtifact cx p handle = some artifact)
    (hsent : artifactMsg artifact msgRelayState method = some msg) :
    initArtifactResolve cx profile uniqueId .idp msg method =
      if (getEndpointUrl p .idp artifactResolutionService [] false false index).isNone then
        (.profile .endpointIndexNotFound, { profile with remoteProviderId := some providerId })
      else
        (setupMessageSignature cx.toContext { profile with remoteProviderId := some providerId },
          { profile with
            remoteProviderId := some providerId
            request := some (.samlp2ArtifactResolve
              (resolveRequest server uniqueId (String.ofList artifact.val))) }) := by
  have hsent' : sentArtifact cx p handle msgRelayState method = some msg := by
    simp [sentArtifact, hissued, hsent]
  obtain ⟨b64, bytes, hread, htarget⟩ :=
    (readsBack_iff hcx hlookup hid hdistinct hindex hsent').mpr ⟨hne, hrange⟩
  obtain rfl : artifact.val = b64 :=
    Except.ok.inj ((artifactB64_artifactMsg hcx hsent).symm.trans (readArtifact_eq_ok.mp hread).1)
  unfold initArtifactResolve
  simp only [hread, hserver, htarget, ArtifactTarget.url, Option.bind_some]
  split
  · rfl
  · simp only [setupMessageSignature]
    rfl

/-! ## The answer -/

theorem setupMessageSignature_congr {cx : Context} {a b : Profile}
    (hhint : a.signatureHint = b.signatureHint) (hserver : a.server = b.server)
    (hremote : a.remoteProviderId = b.remoteProviderId) :
    setupMessageSignature cx a = setupMessageSignature cx b := by
  simp [setupMessageSignature, hhint, hserver, hremote]

/-- The answer to a request, and whether it can be signed. -/
theorem buildArtifactResponse_request {cx : Context} {request : Samlp2ArtifactResolve}
    (hserver : profile.server = some server)
    (hrequest : profile.request = some (.samlp2ArtifactResolve request))
    (hid : request.id = some uniqueId) :
    (buildArtifactResponse cx profile).1 = setupMessageSignature cx profile ∧
      (buildArtifactResponse cx profile).2.response =
        some (.samlp2ArtifactResponse
          (artifactAnswer cx server uniqueId profile.artifactMessage)) := by
  have habstract : requestAbstract profile = some request.toSamlp2RequestAbstract := by
    simp [requestAbstract, hrequest]
  constructor
  · obtain ⟨response, hresponse⟩ := buildArtifactResponse_eq cx profile
    have hsetup : (buildArtifactResponse cx profile).1 =
        setupMessageSignature cx (buildArtifactResponse cx profile).2 := by
      simp only [buildArtifactResponse, habstract]
    rw [hsetup, hresponse]
    exact setupMessageSignature_congr rfl rfl rfl
  · simp only [buildArtifactResponse, habstract, artifactAnswer]
    cases hmessage : profile.artifactMessage with
    | none => simp [setResponseStatus, hserver, hid]
    | some content =>
      cases hnode : cx.parseMemory content <;>
        simp [setResponseStatus, hserver, hid, hnode]

/-- The identity provider reads the request of the service provider. -/
theorem processRequestMsg_resolve {cx : Context} {text : Bytes} {request : Samlp2ArtifactResolve}
    {requesterId : Option String}
    (hread : cx.newFromSoap text = some (.samlp2ArtifactResolve request))
    (hissuer : request.issuer = some { content := requesterId })
    (hserver : idp.profile.server = some server) :
    ((Login.processRequestMsg cx idp text).1 = .ok ↔
      ∃ requester, server.getProvider requesterId = some requester ∧
        (idp.profile.signatureVerifyHint = .ignore ∨
          requester.verifySignature cx.toEnv (some text) (some "ID") .soap = .ok)) ∧
    ((Login.processRequestMsg cx idp text).1 = .ok →
      (Login.processRequestMsg cx idp text).2.assertionArtifact = request.artifact ∧
      ∃ status, (Login.processRequestMsg cx idp text).2.profile = { idp.profile with
        request := some (.samlp2ArtifactResolve request)
        artifact := request.artifact
        remoteProviderId := requesterId
        signatureStatus := status }) := by
  cases hrequester : server.getProvider requesterId with
  | none =>
    simp [Login.processRequestMsg, processArtifactResolve, hread, hissuer, Profile.remoteProvider,
      hserver, hrequester]
  | some requester =>
    cases hhint : idp.profile.signatureVerifyHint <;>
      by_cases hverify : requester.verifySignature cx.toEnv (some text) (some "ID") .soap = .ok <;>
      simp [Login.processRequestMsg, processArtifactResolve, hread, hissuer, Profile.remoteProvider,
        hserver, hrequester, hhint, checkSignatureStatus, hverify]

/-- The identity provider answers if it can, with what is kept under the artifact. -/
theorem answerArtifactResolve_spec {text : Bytes} {request : Samlp2ArtifactResolve}
    {requesterId : Option String}
    (hread : x.idp.newFromSoap text = some (.samlp2ArtifactResolve request))
    (hid : request.id = some uniqueId) (hissuer : request.issuer = some { content := requesterId })
    (hserver : idp.profile.server = some server) :
    ((answerArtifactResolve x idp text).1 = .ok ↔
      CanAnswer x idp.profile server requesterId text) ∧
    ((answerArtifactResolve x idp text).1 = .ok →
      (answerArtifactResolve x idp text).2.profile.response = some (.samlp2ArtifactResponse
        (artifactAnswer x.idp server uniqueId (request.artifact.bind x.stored)))) := by
  obtain ⟨hok, hkeeps⟩ := processRequestMsg_resolve hread hissuer hserver
  unfold answerArtifactResolve
  by_cases hrc : (Login.processRequestMsg x.idp idp text).1 = .ok
  · obtain ⟨hartifact, status, hprofile⟩ := hkeeps hrc
    obtain ⟨hsign, hresponse⟩ := @buildArtifactResponse_request { idp.profile with
        request := some (.samlp2ArtifactResolve request)
        artifact := request.artifact
        artifactMessage := request.artifact.bind x.stored
        remoteProviderId := requesterId
        signatureStatus := status } server uniqueId x.idp request hserver rfl hid
    have hcongr : setupMessageSignature x.idp { idp.profile with
          request := some (.samlp2ArtifactResolve request)
          artifact := request.artifact
          artifactMessage := request.artifact.bind x.stored
          remoteProviderId := requesterId
          signatureStatus := status } =
        setupMessageSignature x.idp { idp.profile with remoteProviderId := requesterId } :=
      setupMessageSignature_congr rfl rfl rfl
    simp only [hrc, ne_eq, not_true_eq_false, if_false, hartifact, hprofile, Login.buildResponseMsg,
      hsign, hcongr]
    exact ⟨⟨fun h => ⟨hok.mp hrc, h⟩, fun h => h.signs⟩, fun _ => hresponse⟩
  · rw [if_pos hrc]
    exact ⟨⟨fun h => absurd h hrc, fun h => absurd (hok.mpr h.requester) hrc⟩,
      fun h => absurd h hrc⟩

/-! ## The response -/

/-- A response of a known issuer is received if its status is Success and its signature is good. -/
theorem receiveResponse_known {toNode : Samlp2StatusResponse → LassoNode} {cx : Context}
    {m : ParsedMessage Samlp2StatusResponse} {text : Bytes} (hserver : profile.server = some server)
    (hissuer : m.node.issuer = some { content := some providerId })
    (hp : server.getProvider (some providerId) = some p) :
    ((receiveResponse toNode cx m profile text).1 = .ok ↔
      checkStatusCode m.node.status = .ok ∧ (profile.signatureVerifyHint = .ignore ∨
        p.verifyReceived cx.toEnv (m.received text) = .ok)) ∧
    (receiveResponse toNode cx m profile text).2 = { profile with
      response := some (toNode m.node)
      remoteProviderId := some providerId
      signatureStatus := p.verifyReceived cx.toEnv (m.received text) } := by
  have hvalid : isValidIssuer { content := some providerId } = true := rfl
  simp only [receiveResponse, hserver, hissuer, Option.filter_some, hvalid, if_true, hp]
  split
  · rename_i hok
    simp only [hok, true_and, and_true]
    split_ifs with hrefused
    · simpa using hrefused
    · simpa [Classical.or_iff_not_imp_left] using hrefused
  · rename_i hfailed
    exact ⟨⟨fun h => absurd h hfailed, fun h => absurd h.1 hfailed⟩, rfl⟩

/-- The service provider takes the message out of a response of the issuer. -/
theorem processArtifactResponse_read {cx : LoginContext} {text : Bytes} {any : Option LassoNode}
    {response : Samlp2StatusResponse}
    (hformat : NameIdManagement.isRead (readArtifactResponse cx text).format = true)
    (hnode : (readArtifactResponse cx text).node = { toSamlp2StatusResponse := response, any })
    (hserver : profile.server = some server)
    (hissuer : response.issuer = some { content := some providerId })
    (hp : server.getProvider (some providerId) = some p) :
    ((processArtifactResponse cx profile text).1 = .ok ↔
      (checkStatusCode response.status = .ok ∧
        (profile.signatureVerifyHint = .ignore ∨ p.verifyReceived cx.toEnv
          ((readArtifactResponse cx text).received text) = .ok)) ∧
      ∃ message, any = some message ∧
        (message.isSamlp2RequestAbstract = true ∨ message.isSamlp2StatusResponse = true)) ∧
    ((processArtifactResponse cx profile text).1 = .ok → ∀ message, any = some message →
      Obtains (processArtifactResponse cx profile text).2 message) := by
  obtain ⟨hok, hkeeps⟩ := @receiveResponse_known { profile with signatureStatus := .ok } server p
    providerId (fun response => .samlp2ArtifactResponse { toSamlp2StatusResponse := response })
    cx.toContext ((readArtifactResponse cx text).map (·.toSamlp2StatusResponse)) text hserver
    (by simp [ParsedMessage.map, hnode, hissuer]) hp
  simp only [ParsedMessage.map, hnode] at hok hkeeps
  unfold processArtifactResponse
  simp only [hformat, if_true, ParsedMessage.map, hnode]
  split_ifs with hrefused hmissing
  · exact ⟨⟨fun h => absurd h hrefused, fun h => absurd (hok.mpr h.1) hrefused⟩,
      fun h => absurd h hrefused⟩
  · rw [hkeeps] at hmissing
    cases hmissing
  · have hgood : checkStatusCode response.status = .ok ∧
        (profile.signatureVerifyHint = .ignore ∨ p.verifyReceived cx.toEnv
          ((readArtifactResponse cx text).received text) = .ok) := hok.mp (not_not.mp hrefused)
    cases any with
    | none => simp
    | some message =>
      by_cases hrequest : message.isSamlp2RequestAbstract = true
      · simpa [hrequest, Obtains] using hgood
      · by_cases hresponse : message.isSamlp2StatusResponse = true
        · simpa [hrequest, hresponse, Obtains] using hgood
        · simp [hrequest, hresponse]

/-- A response is a success with content exactly if it has a message. -/
theorem artifactAnswer_success {cx : Context} {message : Option Bytes} :
    (checkStatusCode (artifactAnswer cx server uniqueId message).status = .ok ∧
      ∃ misc, (artifactAnswer cx server uniqueId message).any = some misc) ↔
    ∃ node, message.bind cx.parseMemory = some node := by
  cases hnode : message.bind cx.parseMemory <;>
    simp [artifactAnswer, hnode, checkStatusCode, Status.set]

theorem artifactAnswer_eq {cx : Context} {message : Option Bytes} {node : XmlNode}
    (hnode : message.bind cx.parseMemory = some node) :
    artifactAnswer cx server uniqueId message = messageResponse server uniqueId node := by
  simp [artifactAnswer, messageResponse, hnode]

end

/-- All that must hold for a message to arrive. -/
structure ArtifactResolved (x : ArtifactExchange) (profile : Profile) (idp : Login)
    (server idpServer : Server) (p : Provider) (providerId uniqueId : String) (index : Nat)
    (artifact : String) (message : LassoNode) : Prop where
  asked : CanResolve x profile p providerId index
  answered : CanAnswer x idp.profile idpServer server.provider.providerId
    (x.sendResolve (resolveRequest server uniqueId artifact))
  received : ∃ node, KeepsMessage x artifact node message ∧
    (profile.signatureVerifyHint = .ignore ∨ p.verifyReceived x.sp.toEnv
      ((readArtifactResponse x.sp.toLoginContext
        (x.sendResponse (messageResponse idpServer uniqueId node))).received
        (x.sendResponse (messageResponse idpServer uniqueId node))) = .ok)

/-- The service provider gets the message of an answer, if there is one. -/
theorem processArtifactResponse_answer {x : ArtifactExchange} {profile : Profile}
    {server idpServer : Server} {p : Provider} {providerId uniqueId artifact : String}
    (hcarries : x.Carries server idpServer uniqueId artifact)
    (hserver : profile.server = some server)
    (hown : idpServer.provider.providerId = some providerId)
    (hp : server.getProvider (some providerId) = some p) {response : Samlp2ArtifactResponse}
    (hresponse : response = artifactAnswer x.idp idpServer uniqueId (x.stored artifact)) :
    ((processArtifactResponse x.sp.toLoginContext profile (x.sendResponse response)).1 = .ok ↔
      ∃ message node, KeepsMessage x artifact node message ∧
        (profile.signatureVerifyHint = .ignore ∨ p.verifyReceived x.sp.toEnv
          ((readArtifactResponse x.sp.toLoginContext
            (x.sendResponse (messageResponse idpServer uniqueId node))).received
            (x.sendResponse (messageResponse idpServer uniqueId node))) = .ok)) ∧
    ((processArtifactResponse x.sp.toLoginContext profile (x.sendResponse response)).1 = .ok →
      ∀ message node, KeepsMessage x artifact node message →
        Obtains (processArtifactResponse x.sp.toLoginContext profile
          (x.sendResponse response)).2 message) := by
  obtain ⟨hformat, hnode⟩ := hcarries.response response hresponse
  obtain ⟨hok, hobtains⟩ := processArtifactResponse_read hformat hnode hserver
    (by simp [hresponse, artifactAnswer, hown]) hp
  have hany {node : XmlNode} (hnode : (x.stored artifact).bind x.idp.parseMemory = some node) :
      response = messageResponse idpServer uniqueId node ∧
        (response.any.bind (·.xmlContent)).bind x.openNode = x.openNode node := by
    rw [hresponse, artifactAnswer_eq hnode]
    exact ⟨rfl, rfl⟩
  refine ⟨hok.trans ⟨?_, ?_⟩, fun h message node hkeeps => ?_⟩
  · rintro ⟨⟨hstatus, hverified⟩, message, hmessage, hkind⟩
    obtain ⟨misc, hmisc⟩ : ∃ misc, response.any = some misc := by
      cases hnone : response.any with
      | none => simp [hnone] at hmessage
      | some misc => exact ⟨misc, rfl⟩
    subst hresponse
    obtain ⟨node, hnode⟩ := artifactAnswer_success.mp ⟨hstatus, misc, hmisc⟩
    obtain ⟨hsame, hopened⟩ := hany hnode
    exact ⟨message, node, ⟨hnode, hopened.symm.trans hmessage, hkind⟩, hsame ▸ hverified⟩
  · rintro ⟨message, node, hkeeps, hverified⟩
    obtain ⟨hsame, hopened⟩ := hany hkeeps.parsed
    subst hresponse
    refine ⟨⟨(artifactAnswer_success.mpr ⟨node, hkeeps.parsed⟩).1, ?_⟩, message,
      hopened.trans hkeeps.read, hkeeps.kind⟩
    rw [hsame]
    exact hverified
  · exact hobtains h message ((hany hkeeps.parsed).2.trans hkeeps.read)

/-- The artifact of the identity provider with its endpoint at index 7. -/
def keptArtifact : CString :=
  (artifactCx usedStack).base64Encode
    (artifactBytes 7 (sha1OfIdp "idp".toList) messageHandle)

def keptRequest : Samlp2ArtifactResolve :=
  resolveRequest (artifactServer 7) "id" (String.ofList keptArtifact.val)

def keptResponder : Login where
  profile := {
    server := some {
      provider := artifactIdp 7
      providers := AList.singleton "sp" { providerId := some "sp" } }
    signatureHint := .forbid
    signatureVerifyHint := .ignore }

def keptRequester : Profile where
  server := some (artifactServer 7)
  signatureHint := .forbid
  signatureVerifyHint := .ignore

def keptNode : XmlNode := .element (some saml2ProtocolHref) "Response" [] []

/-- Every document holds a request for the artifact, and every text is a response with what is kept
under it. -/
def keptExchange : ArtifactExchange where
  sp := { artifactCx usedStack with
    parseMemory := fun _ => some keptNode
    samlp2ResponseInitFromXml := fun response _ => (.ok, response)
    samlp2ArtifactResponseInitFromXml := fun _ _ => (.ok, {
      issuer := some { content := some "idp" }
      inResponseTo := some "id"
      status := some (Status.set none saml2StatusCodeSuccess none)
      any := some (.samlp2Response {}) }) }
  idp := { Context.refusing with
    parseMemory := fun _ => some (.element (some soapEnvHref) "Envelope" []
      [.element (some soapEnvHref) "Body" [] [keptNode]])
    newFromXmlNode := fun _ => some (.samlp2ArtifactResolve keptRequest) }
  stored _ := some "<".toList
  sendResolve _ := "<".toList
  sendResponse _ := "<".toList
  openNode _ := some (.samlp2Response {})

theorem keptExchange_documented : keptExchange.sp.toArtifactContext.Documented :=
  have h := artifactCx_documented usedStack
  ⟨unescapes_percentDecode rfl, h.sha1_length, h.sha1_bytes, h.decodes, h.written, h.visitsAll⟩

theorem keptExchange_carries : keptExchange.Carries (artifactServer 7)
    { provider := artifactIdp 7
      providers := AList.singleton "sp" { providerId := some "sp" } } "id"
    (String.ofList keptArtifact.val) where
  resolve := rfl
  response := by
    rintro _ rfl
    exact ⟨by decide +kernel, rfl⟩

end Lasso.Saml20
