import Lasso.IdFf.ProtocolProfile
import Lasso.Library.Run
import Lasso.Library.Tables
import Lasso.Messages.Saml2

/-!
# The ECP client

An enhanced client takes the AuthnRequest of a service provider out of its PAOS message, sends it to
an identity provider, and sends the Response back to where the request asked for. What it needs for
that from the request is kept in the `LassoEcp` between the two calls.

A message is the SOAP envelope object that it is parsed to or written from, so `msgBody` holds the
envelope whose text the source stores there.

## Main definitions

* `Ecp.processAuthnRequestMsg`, `Ecp.processResponseMsg` — the two calls.
* `RelayOrder` — what a request asks the client to send back, in terms of the message alone.
* `Client` — a client together with the order of the last request that it processed.
* `Client.Fresh`, `Client.FaithfulResponse` — the calls that do not use anything stale, and what is
  expected of a call with a response.

## Main results

* `Client.relays_of_reaches` — a client that is only used afresh relays what it was asked to.
-/

namespace Lasso

/-- `lasso_server_get_filtered_provider_list`. Asking a provider for the method may set the role of
the local provider. -/
def Server.getFilteredProviderList (foreachOrder : List String → List String) (s : Server)
    (role : ProviderRole) (protocolType : MdProtocolType) (httpMethod : HttpMethod) :
    List String × Server :=
  (Tables.entriesIn (foreachOrder s.providers.keys) s.providers).foldl
    (fun (providerList, s) (_, remoteProvider) =>
      if remoteProvider.role = role then
        let (accepted, s) := s.acceptHttpMethod remoteProvider protocolType httpMethod false
        (providerList ++ if accepted then remoteProvider.providerId.toList else [], s)
      else (providerList, s))
    ([], s)

/-- `lasso_server_get_endpoint_url_by_id` -/
def Server.getEndpointUrlById (s : Server) (providerId : Option String)
    (endpointDescription : String) : Option String :=
  (s.getProvider providerId).bind (·.getMetadataOne endpointDescription)

namespace Saml20

/-! ## The messages -/

/-- `LassoPaosRequest` -/
structure PaosRequest where
  responseConsumerUrl : Option String
  messageId : Option String := none

/-- `LassoSamlp2IDPEntry` -/
structure Samlp2IdpEntry where
  providerId : Option String
  name : Option String := none
  loc : Option String := none

/-- `LassoSamlp2IDPList` -/
structure Samlp2IdpList where
  idpEntry : List Samlp2IdpEntry := []
  getComplete : Option String := none

/-- `LassoEcpRequest` -/
structure EcpRequest where
  issuer : Option Saml2NameId := none
  providerName : Option String := none
  isPassive : Bool := false
  idpList : Option Samlp2IdpList := none

/-- The objects in the header and the body of an envelope. An `ecp:Response` without its URL and an
`ecp:RelayState` without a value are refused when they are parsed. -/
inductive SoapNode where
  | paosRequest (request : PaosRequest)
  | paosResponse (refToMessageId : Option String)
  | ecpRequest (request : EcpRequest)
  | ecpResponse (assertionConsumerServiceUrl : String)
  | ecpRelayState (relayState : String)
  | samlp2AuthnRequest (originalXmlnode : XmlNode)
  | samlp2Response (originalXmlnode : XmlNode)
  | soapFault (faultcode faultstring : String)
  /-- `LassoMiscTextNode`, with an element that is written as it is -/
  | miscTextNode (xmlnode : XmlNode)
  | other

/-- `LassoSoapEnvelope` -/
structure SoapEnvelope where
  header : Option (List SoapNode) := none
  body : Option (List SoapNode)

namespace SoapNode

/-- The node is, or is written as, a SAML response. -/
def isSamlResponse : SoapNode → Bool
  | samlp2Response _ => true
  | miscTextNode xmlnode => xmlnode.isElementNode "Response" saml2ProtocolHref
  | _ => false

def asPaosRequest : SoapNode → Option PaosRequest
  | paosRequest request => some request
  | _ => none

def asEcpRequest : SoapNode → Option EcpRequest
  | ecpRequest request => some request
  | _ => none

def asEcpRelayState : SoapNode → Option String
  | ecpRelayState relayState => some relayState
  | _ => none

def asEcpResponse : SoapNode → Option String
  | ecpResponse assertionConsumerServiceUrl => some assertionConsumerServiceUrl
  | _ => none

end SoapNode

namespace SoapEnvelope

/-- The first node of the body. -/
def bodyNode (envelope : SoapEnvelope) : Except Rc SoapNode :=
  match envelope.body with
  | some (node :: _) => .ok node
  | _ => .error (.soap .missingBody)

/-- The blocks of a header that is not empty. -/
def headerBlocks (envelope : SoapEnvelope) : Except Rc (List SoapNode) :=
  match envelope.header with
  | some (block :: blocks) => .ok (block :: blocks)
  | _ => .error (.soap .missingHeader)

/-- `lasso_node_export_to_soap` -/
def exportToSoap (node : SoapNode) : SoapEnvelope := { body := some [node] }

/-- `lasso_node_export_to_soap_with_headers` -/
def exportToSoapWithHeaders (node : SoapNode) (headers : List SoapNode) : SoapEnvelope :=
  { header := some headers, body := some [node] }

/-- A SAML response is in the body. -/
def holdsSamlResponse (envelope : SoapEnvelope) : Bool :=
  (envelope.body.getD []).any (·.isSamlResponse)

end SoapEnvelope

/-! ## The client -/

/-- What the client uses of the libraries. -/
structure EcpContext where
  /-- `lasso_soap_envelope_new_from_message` -/
  soapEnvelopeNewFromMessage : String → Option SoapEnvelope
  /-- `lasso_strerror` -/
  strerror : Rc → String
  /-- the order in which `g_hash_table_foreach` comes to the keys of a table -/
  foreachOrder : List String → List String

/-- `LassoEcp` -/
structure Ecp where
  server : Server
  msgUrl : Option String := none
  msgBody : Option SoapEnvelope := none
  assertionConsumerUrl : Option String := none
  messageId : Option String := none
  responseConsumerUrl : Option String := none
  relaystate : Option String := none
  issuer : Option Saml2NameId := none
  providerName : Option String := none
  isPassive : Bool := false
  spIdpList : Option Samlp2IdpList := none
  knownSpProvidedIdpEntriesSupportingEcp : List Samlp2IdpEntry := []
  knownIdpEntityIdsSupportingEcp : List String := []

namespace Ecp

/-- `lasso_ecp_has_sp_idplist` -/
def hasSpIdplist (ecp : Ecp) : Bool := ecp.spIdpList.any (·.idpEntry ≠ [])

/-- `lasso_ecp_is_idp_entry_known_idp_supporting_ecp` -/
def isIdpEntryKnownIdpSupportingEcp (ecp : Ecp) (idpEntry : Samlp2IdpEntry) : Bool :=
  ecp.knownIdpEntityIdsSupportingEcp.any fun entityId => some entityId == idpEntry.providerId

/-- `lasso_ecp_set_known_sp_provided_idp_entries_supporting_ecp` -/
def setKnownSpProvidedIdpEntriesSupportingEcp (ecp : Ecp) : Ecp :=
  { ecp with knownSpProvidedIdpEntriesSupportingEcp :=
      ((ecp.spIdpList.map (·.idpEntry)).getD []).filter ecp.isIdpEntryKnownIdpSupportingEcp }

/-- `lasso_ecp_get_endpoint_url_by_entity_id` -/
def getEndpointUrlByEntityId (ecp : Ecp) (entityId : String) : Option String :=
  ecp.server.getEndpointUrlById (some entityId) "SingleSignOnService SOAP"

/-- `lasso_ecp_process_sp_idp_list` -/
def processSpIdpList (ecp : Ecp) (spIdpList : Option Samlp2IdpList) : Ecp :=
  let ecp := { ecp with spIdpList }.setKnownSpProvidedIdpEntriesSupportingEcp
  let spProvided :=
    if ecp.hasSpIdplist then
      ecp.knownSpProvidedIdpEntriesSupportingEcp.head?.bind (·.providerId)
    else none
  let providerId := spProvided.or ecp.knownIdpEntityIdsSupportingEcp.head?
  { ecp with msgUrl := providerId.bind ecp.getEndpointUrlByEntityId }

/-! ### The request of the service provider -/

/-- The blocks that the loop over the header of a request has come across. -/
structure RequestBlocks where
  paosRequest : Option PaosRequest := none
  ecpRequest : Option EcpRequest := none
  ecpRelaystate : Option String := none

namespace RequestBlocks

def complete (found : RequestBlocks) : Bool :=
  found.ecpRelaystate.isSome && found.ecpRequest.isSome && found.paosRequest.isSome

/-- A block is taken if it is the first of its kind. -/
def take (found : RequestBlocks) : SoapNode → RequestBlocks
  | .paosRequest request => { found with paosRequest := found.paosRequest.or (some request) }
  | .ecpRequest request => { found with ecpRequest := found.ecpRequest.or (some request) }
  | .ecpRelayState state => { found with ecpRelaystate := found.ecpRelaystate.or (some state) }
  | _ => found

/-- The loop over `header->Other`. -/
def scan (found : RequestBlocks) : List SoapNode → RequestBlocks
  | [] => found
  | block :: blocks =>
    if (found.take block).complete then found.take block else (found.take block).scan blocks

end RequestBlocks

/-- What `lasso_ecp_process_authn_request_msg` uses of a message. -/
structure AuthnRequestMsg where
  responseConsumerUrl : String
  messageId : Option String
  relayState : Option String
  ecpRequest : EcpRequest
  authnRequest : XmlNode

/-- The checks of `lasso_ecp_process_authn_request_msg`, all of which come before the first
assignment. -/
def readAuthnRequestMsg (cx : EcpContext) (msg : String) : Except Rc AuthnRequestMsg := do
  let some envelope := cx.soapEnvelopeNewFromMessage msg | .error (.profile .invalidSoapMsg)
  let .samlp2AuthnRequest authnRequest ← envelope.bodyNode | .error (.ecp .missingAuthnRequest)
  let blocks ← envelope.headerBlocks
  let found := RequestBlocks.scan {} blocks
  let some paosRequest := found.paosRequest | .error (.paos .missingRequest)
  let some ecpRequest := found.ecpRequest | .error (.ecp .missingRequest)
  let some responseConsumerUrl := paosRequest.responseConsumerUrl
    | .error (.paos .missingResponseConsumerUrl)
  return {
    responseConsumerUrl
    messageId := paosRequest.messageId
    relayState := found.ecpRelaystate
    ecpRequest
    authnRequest }

/-- `lasso_ecp_process_authn_request_msg` -/
def processAuthnRequestMsg (cx : EcpContext) (ecp : Ecp) (authnRequestMsg : Option String) :
    Rc × Ecp :=
  match authnRequestMsg with
  | none => (.param .invalidValue, ecp)
  | some authnRequestMsg =>
    match readAuthnRequestMsg cx authnRequestMsg with
    | .error rc => (rc, ecp)
    | .ok msg =>
      let (known, server) := ecp.server.getFilteredProviderList cx.foreachOrder .idp .singleSignOn
        .soap
      let ecp := { ecp with
        responseConsumerUrl := some msg.responseConsumerUrl
        -- what the request does not have stays as it is
        messageId := msg.messageId.or ecp.messageId
        relaystate := msg.relayState.or ecp.relaystate
        issuer := msg.ecpRequest.issuer
        providerName := msg.ecpRequest.providerName
        isPassive := msg.ecpRequest.isPassive
        msgBody := some (.exportToSoap (.miscTextNode msg.authnRequest))
        server
        knownIdpEntityIdsSupportingEcp := known }
      (.ok, ecp.processSpIdpList msg.ecpRequest.idpList)

/-! ### The response of the identity provider -/

/-- The checks of `lasso_ecp_process_response_msg` on the message: the URL of the `ecp:Response` and
the SAML response. -/
def readResponseMsg (cx : EcpContext) (msg : String) : Except Rc (String × XmlNode) := do
  let some envelope := cx.soapEnvelopeNewFromMessage msg | .error (.profile .invalidSoapMsg)
  let .samlp2Response response ← envelope.bodyNode | .error (.ecp .missingSamlResponse)
  let blocks ← envelope.headerBlocks
  let some url := blocks.findSome? (·.asEcpResponse) | .error (.ecp .missingResponse)
  return (url, response)

/-- The end of `lasso_ecp_process_response_msg` for a code that is not zero. -/
def fail (cx : EcpContext) (ecp : Ecp) (rc : Rc) : Rc × Ecp :=
  (rc, { ecp with msgBody := some (.exportToSoap (.soapFault "s:Client" (cx.strerror rc))) })

/-- `lasso_ecp_process_response_msg` -/
def processResponseMsg (cx : EcpContext) (ecp : Ecp) (responseMsg : Option String) : Rc × Ecp :=
  match responseMsg with
  | none => (.param .invalidValue, ecp)
  | some responseMsg =>
    match readResponseMsg cx responseMsg with
    | .error rc => ecp.fail cx rc
    | .ok (assertionConsumerServiceUrl, response) =>
      let ecp := { ecp with assertionConsumerUrl := some assertionConsumerServiceUrl }
      if ecp.responseConsumerUrl ≠ some assertionConsumerServiceUrl then
        ecp.fail cx (.ecp .assertionConsumerUrlMismatch)
      else
        let headers := .paosResponse ecp.messageId :: ecp.relaystate.toList.map .ecpRelayState
        (.ok, { ecp with
          msgBody := some (.exportToSoapWithHeaders (.miscTextNode response) headers)
          msgUrl := ecp.responseConsumerUrl })

end Ecp

/-! ## What a request asks for -/

/-- What a request asks the client to send back, and where to. -/
structure RelayOrder where
  responseConsumerUrl : String
  messageId : Option String
  relayState : Option String

/-- The header blocks that answer the request. -/
def RelayOrder.paosHeaders (order : RelayOrder) : List SoapNode :=
  .paosResponse order.messageId :: order.relayState.toList.map .ecpRelayState

namespace EcpContext

/-- What a message asks for: nothing, if it is not an authn request over PAOS. -/
def relayOrder (cx : EcpContext) (msg : String) : Option RelayOrder := do
  let envelope ← cx.soapEnvelopeNewFromMessage msg
  let .samlp2AuthnRequest _ ← envelope.body.bind (·.head?) | none
  let blocks ← envelope.header
  let paosRequest ← blocks.findSome? (·.asPaosRequest)
  let _ ← blocks.findSome? (·.asEcpRequest)
  let responseConsumerUrl ← paosRequest.responseConsumerUrl
  return {
    responseConsumerUrl
    messageId := paosRequest.messageId
    relayState := blocks.findSome? (·.asEcpRelayState) }

/-- The AssertionConsumerServiceURL of the response of an identity provider. -/
def assertionConsumerServiceUrl (cx : EcpContext) (msg : String) : Option String := do
  let envelope ← cx.soapEnvelopeNewFromMessage msg
  let blocks ← envelope.header
  blocks.findSome? (·.asEcpResponse)

end EcpContext

/-- What the client keeps of a request for the answer. -/
structure Kept where
  responseConsumerUrl : Option String
  messageId : Option String
  relaystate : Option String
deriving DecidableEq

def Ecp.kept (ecp : Ecp) : Kept := ⟨ecp.responseConsumerUrl, ecp.messageId, ecp.relaystate⟩

/-- What there is to keep of the last request. -/
def Kept.ofLast (last : Option RelayOrder) : Kept :=
  ⟨last.map (·.responseConsumerUrl), last.bind (·.messageId), last.bind (·.relayState)⟩

namespace Ecp

theorem RequestBlocks.take_of_complete {found : RequestBlocks} (h : found.complete = true)
    (block : SoapNode) : found.take block = found := by
  obtain ⟨paosRequest, ecpRequest, ecpRelaystate⟩ := found
  simp only [complete, Bool.and_eq_true, Option.isSome_iff_exists] at h
  obtain ⟨⟨⟨state, rfl⟩, ecpRequest, rfl⟩, paosRequest, rfl⟩ := h
  cases block <;> rfl

/-- Stopping early makes no difference. -/
theorem RequestBlocks.scan_eq_foldl (found : RequestBlocks) (blocks : List SoapNode) :
    found.scan blocks = blocks.foldl take found := by
  induction blocks generalizing found with
  | nil => rfl
  | cons block blocks ih =>
    rw [List.foldl_cons, ← ih]
    by_cases h : (found.take block).complete = true
    · have hrest : ∀ blocks, (found.take block).scan blocks = found.take block := by
        intro blocks
        cases blocks with
        | nil => rfl
        | cons block' blocks => simp [scan, take_of_complete h, h]
      rw [scan, if_pos h, hrest]
    · rw [scan, if_neg h]

/-- The loop takes the first block of each kind. -/
theorem RequestBlocks.scan_eq (found : RequestBlocks) (blocks : List SoapNode) :
    found.scan blocks = {
      paosRequest := found.paosRequest.or (blocks.findSome? (·.asPaosRequest))
      ecpRequest := found.ecpRequest.or (blocks.findSome? (·.asEcpRequest))
      ecpRelaystate := found.ecpRelaystate.or (blocks.findSome? (·.asEcpRelayState)) } := by
  rw [scan_eq_foldl]
  induction blocks generalizing found with
  | nil => simp
  | cons block blocks ih =>
    rw [List.foldl_cons, ih]
    cases block <;>
      simp [take, SoapNode.asPaosRequest, SoapNode.asEcpRequest,
        SoapNode.asEcpRelayState]

theorem bodyNode_eq_error {envelope : SoapEnvelope} (h : envelope.body.bind (·.head?) = none) :
    envelope.bodyNode = .error (.soap .missingBody) := by
  unfold SoapEnvelope.bodyNode
  cases hbody : envelope.body with
  | none => rfl
  | some nodes =>
    cases nodes with
    | nil => rfl
    | cons node nodes => simp [hbody] at h

theorem bodyNode_eq_ok {envelope : SoapEnvelope} {node : SoapNode}
    (h : envelope.body.bind (·.head?) = some node) : envelope.bodyNode = .ok node := by
  unfold SoapEnvelope.bodyNode
  cases hbody : envelope.body with
  | none => simp [hbody] at h
  | some nodes =>
    cases nodes with
    | nil => simp [hbody] at h
    | cons node' nodes => simpa [hbody] using h

/-- A message passes the checks exactly if it asks for something. -/
theorem readAuthnRequestMsg_cases (cx : EcpContext) (msg : String) :
    (∃ rc, readAuthnRequestMsg cx msg = .error rc ∧ rc ≠ .ok ∧ cx.relayOrder msg = none) ∨
      ∃ request, readAuthnRequestMsg cx msg = .ok request ∧ cx.relayOrder msg =
        some ⟨request.responseConsumerUrl, request.messageId, request.relayState⟩ := by
  unfold EcpContext.relayOrder readAuthnRequestMsg
  cases cx.soapEnvelopeNewFromMessage msg with
  | none => exact .inl ⟨_, rfl, by simp, rfl⟩
  | some envelope =>
    dsimp only [bind, Option.bind_some]
    cases hnode : envelope.body.bind (·.head?) with
    | none =>
      rw [bodyNode_eq_error hnode]
      exact .inl ⟨_, rfl, by simp, rfl⟩
    | some node =>
      rw [bodyNode_eq_ok hnode]
      cases node with
      | samlp2AuthnRequest authnRequest =>
        unfold SoapEnvelope.headerBlocks
        rcases envelope.header with _ | _ | ⟨block, blocks⟩
        · exact .inl ⟨_, rfl, by simp, rfl⟩
        · exact .inl ⟨_, rfl, by simp, rfl⟩
        · dsimp only [Except.bind, Option.bind_some]
          rw [RequestBlocks.scan_eq]
          simp only [Option.none_or]
          cases (block :: blocks).findSome? (·.asPaosRequest) with
          | none => exact .inl ⟨_, rfl, by simp, rfl⟩
          | some paosRequest =>
            cases (block :: blocks).findSome? (·.asEcpRequest) with
            | none => exact .inl ⟨_, rfl, by simp, rfl⟩
            | some ecpRequest =>
              dsimp only [Option.bind_some]
              cases paosRequest.responseConsumerUrl with
              | none => exact .inl ⟨_, rfl, by simp, rfl⟩
              | some url => exact .inr ⟨_, rfl, rfl⟩
      | _ => exact .inl ⟨_, rfl, by simp, rfl⟩

/-- A response passes the checks only with an `ecp:Response`. -/
theorem readResponseMsg_cases (cx : EcpContext) (msg : String) :
    (∃ rc, readResponseMsg cx msg = .error rc ∧ rc ≠ .ok) ∨
      ∃ url response, readResponseMsg cx msg = .ok (url, response) ∧
        cx.assertionConsumerServiceUrl msg = some url := by
  unfold EcpContext.assertionConsumerServiceUrl readResponseMsg
  cases cx.soapEnvelopeNewFromMessage msg with
  | none => exact .inl ⟨_, rfl, by simp⟩
  | some envelope =>
    dsimp only [bind, Option.bind_some]
    cases hnode : envelope.body.bind (·.head?) with
    | none =>
      rw [bodyNode_eq_error hnode]
      exact .inl ⟨_, rfl, by simp⟩
    | some node =>
      rw [bodyNode_eq_ok hnode]
      cases node with
      | samlp2Response response =>
        unfold SoapEnvelope.headerBlocks
        rcases envelope.header with _ | _ | ⟨block, blocks⟩
        · exact .inl ⟨_, rfl, by simp⟩
        · exact .inl ⟨_, rfl, by simp⟩
        · dsimp only [Except.bind, Option.bind_some]
          cases (block :: blocks).findSome? (·.asEcpResponse) with
          | none => exact .inl ⟨_, rfl, by simp⟩
          | some url => exact .inr ⟨_, _, rfl, rfl⟩
      | _ => exact .inl ⟨_, rfl, by simp⟩

@[simp] theorem kept_processSpIdpList (ecp : Ecp) (spIdpList : Option Samlp2IdpList) :
    (ecp.processSpIdpList spIdpList).kept = ecp.kept := rfl

/-- A request that is processed overwrites what it has; any other changes nothing. -/
theorem processAuthnRequestMsg_cases (cx : EcpContext) (ecp : Ecp) (msg : Option String) :
    (msg.bind cx.relayOrder = none ∧ (ecp.processAuthnRequestMsg cx msg).1 ≠ .ok ∧
      (ecp.processAuthnRequestMsg cx msg).2 = ecp) ∨
    ∃ order, msg.bind cx.relayOrder = some order ∧ (ecp.processAuthnRequestMsg cx msg).1 = .ok ∧
      (ecp.processAuthnRequestMsg cx msg).2.kept = ⟨some order.responseConsumerUrl,
        order.messageId.or ecp.messageId, order.relayState.or ecp.relaystate⟩ := by
  cases msg with
  | none => exact .inl ⟨rfl, by simp [processAuthnRequestMsg], rfl⟩
  | some msg =>
    unfold processAuthnRequestMsg
    rcases readAuthnRequestMsg_cases cx msg with ⟨rc, hread, hrc, horder⟩ | ⟨_, hread, horder⟩
    · simp only [hread]
      exact .inl ⟨horder, hrc, trivial⟩
    · simp only [hread]
      exact .inr ⟨_, horder, trivial, rfl⟩

/-- A response is refused with a fault, or answers with what was kept to the URL that was kept. -/
theorem processResponseMsg_cases (cx : EcpContext) (ecp : Ecp) (msg : Option String) :
    (ecp.processResponseMsg cx msg).2.kept = ecp.kept ∧
    ((msg = none ∧ ecp.processResponseMsg cx msg = (.param .invalidValue, ecp)) ∨
    (msg ≠ none ∧ (ecp.processResponseMsg cx msg).1 ≠ .ok ∧ ∃ code text,
      (ecp.processResponseMsg cx msg).2.msgBody =
        some (.exportToSoap (.soapFault code text))) ∨
    ∃ url response, msg.bind cx.assertionConsumerServiceUrl = some url ∧
      ecp.responseConsumerUrl = some url ∧ (ecp.processResponseMsg cx msg).1 = .ok ∧
      (ecp.processResponseMsg cx msg).2.msgUrl = some url ∧
      (ecp.processResponseMsg cx msg).2.msgBody =
        some (.exportToSoapWithHeaders (.miscTextNode response)
          (.paosResponse ecp.messageId :: ecp.relaystate.toList.map .ecpRelayState))) := by
  cases msg with
  | none => exact ⟨rfl, .inl ⟨rfl, rfl⟩⟩
  | some msg =>
    unfold processResponseMsg
    rcases readResponseMsg_cases cx msg with ⟨rc, hread, hrc⟩ | ⟨url, response, hread, hurl⟩
    · simp only [hread]
      exact ⟨rfl, .inr (.inl ⟨by simp, hrc, _, _, rfl⟩)⟩
    · simp only [hread]
      split_ifs with hsame
      · exact ⟨rfl, .inr (.inl ⟨by simp, by simp [fail], _, _, rfl⟩)⟩
      · have hkept : ecp.responseConsumerUrl = some url := by simpa using hsame
        exact ⟨rfl, .inr (.inr ⟨url, response, hurl, hkept, rfl, hkept, rfl⟩)⟩

end Ecp

/-! ## Runs -/

/-- A client, and what the last request that it processed asks for. -/
structure Client where
  ecp : Ecp
  last : Option RelayOrder := none

/-- A call on the client. -/
inductive EcpCall where
  | authnRequest (msg : Option String)
  | response (msg : Option String)

namespace Client

/-- `lasso_ecp_new` -/
def new (server : Server) : Client := { ecp := { server } }

def step (cx : EcpContext) (client : Client) : EcpCall → Client
  | .authnRequest msg =>
    let (rc, ecp) := client.ecp.processAuthnRequestMsg cx msg
    { ecp, last := if rc = .ok then msg.bind cx.relayOrder else client.last }
  | .response msg => { client with ecp := (client.ecp.processResponseMsg cx msg).2 }

/-- The call leaves nothing behind that is out of date: a request has whatever an earlier one had,
and a missing response is not passed after a SAML response was accepted. -/
def Fresh (cx : EcpContext) (client : Client) : EcpCall → Prop
  | .authnRequest msg => ∀ order ∈ msg.bind cx.relayOrder,
    (order.messageId = none → client.ecp.messageId = none) ∧
      (order.relayState = none → client.ecp.relaystate = none)
  | .response msg => msg = none →
    ∀ envelope ∈ client.ecp.msgBody, envelope.holdsSamlResponse = false

/-- The call answers the last request with the headers that it asks for, at the URL that it and the
response name, or it leaves no SAML response to be sent. -/
structure FaithfulResponse (cx : EcpContext) (client : Client) (msg : Option String) : Prop where
  relayed : (client.ecp.processResponseMsg cx msg).1 = .ok →
    ∃ order envelope, client.last = some order ∧
      (client.ecp.processResponseMsg cx msg).2.msgBody = some envelope ∧
      envelope.header = some order.paosHeaders ∧
      (client.ecp.processResponseMsg cx msg).2.msgUrl = some order.responseConsumerUrl ∧
      msg.bind cx.assertionConsumerServiceUrl = some order.responseConsumerUrl
  refused : (client.ecp.processResponseMsg cx msg).1 ≠ .ok →
    ∀ envelope ∈ (client.ecp.processResponseMsg cx msg).2.msgBody,
      envelope.holdsSamlResponse = false

section

variable {cx : EcpContext} {client : Client} {server : Server} {msg : Option String}

/-- The client has exactly what the last request asks for. -/
def UpToDate (client : Client) : Prop := client.ecp.kept = .ofLast client.last

theorem upToDate_iff : client.UpToDate ↔
    client.ecp.responseConsumerUrl = client.last.map (·.responseConsumerUrl) ∧
      client.ecp.messageId = client.last.bind (·.messageId) ∧
      client.ecp.relaystate = client.last.bind (·.relayState) := by
  simp [UpToDate, Ecp.kept, Kept.ofLast]

theorem or_eq_left_iff {α : Type*} {a b : Option α} : a.or b = a ↔ (a = none → b = none) := by
  cases a <;> simp

/-- Processing a request brings the client up to date exactly if nothing older stays. -/
theorem upToDate_step_authnRequest_iff {order : RelayOrder} 
    (horder : msg.bind cx.relayOrder = order) : (client.step cx (.authnRequest msg)).UpToDate ↔
      client.Fresh cx (.authnRequest msg) := by
  rcases client.ecp.processAuthnRequestMsg_cases cx msg with
    ⟨hnone, -, -⟩ | ⟨order', horder', hrc, hkept⟩
  · rw [hnone] at horder
    cases horder
  · obtain rfl := Option.some.inj (horder'.symm.trans horder)
    simp [UpToDate, step, Fresh, hrc, hkept, horder', Kept.ofLast, or_eq_left_iff]

theorem upToDate_step_authnRequest (h : client.UpToDate)
    (hfresh : client.Fresh cx (.authnRequest msg)) :
    (client.step cx (.authnRequest msg)).UpToDate := by
  rcases client.ecp.processAuthnRequestMsg_cases cx msg with
    ⟨-, hrc, hsame⟩ | ⟨order, horder, -, -⟩
  · unfold UpToDate step
    simp only [if_neg hrc, hsame]
    exact h
  · exact (upToDate_step_authnRequest_iff horder).mpr hfresh

theorem upToDate_step_response (h : client.UpToDate) :
    (client.step cx (.response msg)).UpToDate :=
  (client.ecp.processResponseMsg_cases cx msg).1.trans h

theorem upToDate_of_reaches
    (h : Run.Reaches (step cx) (Fresh cx) (· = new server) client) : client.UpToDate := by
  refine h.invariant (fun _ hstart => ?_) fun client call hinv hfresh => ?_
  · subst hstart
    rfl
  · cases call with
    | authnRequest msg => exact upToDate_step_authnRequest hinv hfresh
    | response msg => exact upToDate_step_response hinv

/-- A client that is up to date leaves no SAML response behind an error, unless there was no
message. -/
theorem faithfulResponse_iff (h : client.UpToDate) :
    client.FaithfulResponse cx msg ↔ client.Fresh cx (.response msg) := by
  obtain ⟨-, ⟨rfl, hresult⟩ | ⟨hmsg, hrc, code, text, hbody⟩ |
    ⟨url, response, hurl, hconsumer, hrc, hmsgUrl, hbody⟩⟩ :=
    client.ecp.processResponseMsg_cases cx msg
  · constructor
    · intro hfaithful _
      simpa [hresult] using hfaithful.refused
    · intro hfresh
      exact ⟨by simp [hresult], by simpa [hresult] using hfresh rfl⟩
  · refine iff_of_true ⟨fun hok => absurd hok hrc, fun _ envelope henvelope => ?_⟩
      fun hnone => absurd hnone hmsg
    obtain rfl := Option.some.inj (hbody.symm.trans henvelope)
    rfl
  · refine iff_of_true ⟨fun _ => ?_, fun herror => absurd hrc herror⟩ ?_
    · obtain ⟨hlastUrl, hmessageId, hrelaystate⟩ := upToDate_iff.mp h
      obtain ⟨order, hlast, rfl⟩ := Option.map_eq_some_iff.mp (hlastUrl.symm.trans hconsumer)
      refine ⟨order, _, hlast, hbody, ?_, hmsgUrl, hurl⟩
      rw [hlast, Option.bind_some] at hmessageId hrelaystate
      rw [hmessageId, hrelaystate]
      rfl
    · rintro rfl
      cases hurl

/-- An answer that is right has what the client kept. -/
theorem upToDate_of_faithfulResponse (h : client.FaithfulResponse cx msg)
    (hrc : (client.ecp.processResponseMsg cx msg).1 = .ok) : client.UpToDate := by
  obtain ⟨order, envelope, hlast, henvelope, hheader, -, hurl⟩ := h.relayed hrc
  obtain ⟨-, ⟨-, hresult⟩ | ⟨-, herror, -⟩ | ⟨url, response, hurl', hconsumer, -, -, hbody⟩⟩ :=
    client.ecp.processResponseMsg_cases cx msg
  · cases (congrArg Prod.fst hresult).symm.trans hrc
  · exact absurd hrc herror
  · obtain rfl := Option.some.inj (hurl'.symm.trans hurl)
    obtain rfl := Option.some.inj (hbody.symm.trans henvelope)
    obtain ⟨hmessageId, hrelaystate⟩ := List.cons.inj (Option.some.inj hheader)
    rw [upToDate_iff, hlast]
    refine ⟨hconsumer, SoapNode.paosResponse.inj hmessageId, ?_⟩
    have hlist : client.ecp.relaystate.toList = order.relayState.toList :=
      List.map_injective_iff.mpr (fun _ _ h => SoapNode.ecpRelayState.inj h) hrelaystate
    simpa using congrArg List.head? hlist

end

/-- On every run of calls that leave nothing out of date, a call with a response does what is
expected of it exactly if it does not leave anything out of date either. After a request that does,
no response is answered with what that request asks for. -/
theorem relays_iff_fresh (cx : EcpContext) (server : Server) (client : Client)
    (h : Run.Reaches (step cx) (Fresh cx) (· = new server) client) :
    (∀ msg, client.FaithfulResponse cx msg ↔ client.Fresh cx (.response msg)) ∧
    ∀ request, ¬ client.Fresh cx (.authnRequest request) → ∀ response,
      ((client.step cx (.authnRequest request)).ecp.processResponseMsg cx response).1 = .ok →
      ¬ (client.step cx (.authnRequest request)).FaithfulResponse cx response := by
  refine ⟨fun msg => faithfulResponse_iff (upToDate_of_reaches h), ?_⟩
  intro request hstale response hrc hfaithful
  refine hstale fun order horder => ?_
  have huptodate := upToDate_of_faithfulResponse hfaithful hrc
  exact (upToDate_step_authnRequest_iff horder).mp huptodate order horder

/-! ### Two requests -/

/-- A PAOS message with an authn request. -/
def requestEnvelope (messageId relayState : Option String) : SoapEnvelope where
  header := some <|
    [.paosRequest { responseConsumerUrl := some "https://sp.example/paos", messageId },
      .ecpRequest {}] ++ relayState.toList.map .ecpRelayState
  body := some [.samlp2AuthnRequest (.element (some saml2ProtocolHref) "AuthnRequest" [] [])]

/-- Two requests and a response to them. -/
def relayCx : EcpContext where
  soapEnvelopeNewFromMessage
    | "first" => some (requestEnvelope (some "_1") (some "state"))
    | "second" => some (requestEnvelope none none)
    | "response" => some {
        header := some [.ecpResponse "https://sp.example/paos"]
        body := some [.samlp2Response (.element (some saml2ProtocolHref) "Response" [] [])] }
    | _ => none
  strerror _ := ""
  foreachOrder keys := keys

def relayServer : Server where
  provider := { providerId := some "https://ecp.example/metadata" }

theorem relays_first :
    ((new relayServer).step relayCx (.authnRequest (some "first"))).FaithfulResponse relayCx
      (some "response") := by
  have hreaches : Run.Reaches (step relayCx) (Fresh relayCx) (· = new relayServer)
      ((new relayServer).step relayCx (.authnRequest (some "first"))) := by
    refine .next _ (.start rfl) fun order horder => ?_
    exact ⟨fun _ => rfl, fun _ => rfl⟩
  exact ((relays_iff_fresh relayCx relayServer _ hreaches).1 _).mpr fun h => by cases h

/-- The second request has no message ID and no RelayState; the ones of the first are sent. -/
theorem second_relayed_as_first :
    ¬ ∀ (cx : EcpContext) (server : Server) (calls : List EcpCall) (msg : Option String),
      (calls.foldl (step cx) (new server)).FaithfulResponse cx msg := by
  intro h
  obtain ⟨order, envelope, hlast, hbody, hheader, -, -⟩ := (h relayCx relayServer
    [.authnRequest (some "first"), .authnRequest (some "second")] (some "response")).relayed rfl
  cases hlast
  cases hbody
  cases hheader

end Client

end Saml20

end Lasso
