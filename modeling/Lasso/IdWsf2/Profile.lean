import Lasso.ErrorFamily
import Lasso.IdWsf.SoapExchange
import Lasso.IdWsf2.EndpointReference
import Lasso.Profile

/-!
# The messages of an ID-WSF 2.0 service

A consumer sends a request to the endpoint of a reference, with the token of the reference in a
security header. The functions of `profile.c` follow null pointers in a few places: where they do,
there is no result.

## Main definitions

* `WsfProfile.initRequest`, `buildRequestMsg`, `processResponseMsg` — at the consumer.
* `WsfProfile.processRequestMsg`, `initResponse`, `buildResponseMsg` — at the service.
-/

namespace Lasso.IdWsf2

open IdWsf.Soap (securityMechIdIsBearerAuthentication securityMechIdIsSamlAuthentication)

/-! ## Messages -/

/-- What stands in a `wsse:Security` header. -/
inductive SecurityNode where
  | saml2Assertion (token : SecurityAssertion)
  | miscText (xmlnode : XmlNode)
  | other

/-- What stands in a `sb2:TargetIdentity` header. -/
inductive TargetNode where
  | nameId (nameId : Saml2NameId)
  | encrypted (encrypted : Saml2EncryptedElement)
  | other

/-- What stands in a SOAP header. The message identifier is an address with the name `MessageID`. -/
inductive HeaderNode where
  | sender (providerId : Option String)
  | messageId (content : Option String)
  | relatesTo (content : Option String)
  | security (any : List SecurityNode)
  | targetIdentity (any : List TargetNode)
  | other

/-- What stands in the detail of a SOAP fault. -/
inductive DetailNode where
  | redirectRequest (redirectUrl : Option String)
  | other

/-- `LassoSoapFault`, with the nodes of its `LassoSoapDetail`. -/
structure SoapFault where
  faultcode : Option String := none
  faultstring : Option String := none
  detail : Option (List DetailNode) := none

/-- What stands in a SOAP body. -/
inductive BodyNode (ν : Type) where
  | soapFault (fault : SoapFault)
  | content (node : ν)

/-- `LassoSoapEnvelope`, with the nodes of its header and of its body. -/
structure SoapEnvelope (ν : Type) where
  header : Option (List HeaderNode) := none
  body : Option (List (BodyNode ν)) := none

/-- `LassoIdWsf2Profile`, with texts of type `τ` -/
structure WsfProfile (ν τ : Type) where
  server : Option Server := none
  epr : Option WsAddrEndpointReference := none
  request : Option (BodyNode ν) := none
  response : Option (BodyNode ν) := none
  soapEnvelopeRequest : Option (SoapEnvelope ν) := none
  soapEnvelopeResponse : Option (SoapEnvelope ν) := none
  nameIdentifier : Option Saml2NameId := none
  remoteProviderId : Option String := none
  msgUrl : Option String := none
  msgBody : Option τ := none

/-- `LASSO_IDWSF2_DISCOVERY_ERROR_*` -/
inductive DiscoveryError where
  | failed
  | forbidden
  | duplicate
  | logicalDuplicate
  | noResults
  | notFound
deriving DecidableEq

/-- The codes of these profiles beside the common ones. -/
inductive WsfProfileError where
  | unsupportedSecurityMechanism
  | missingSenderId
  | invalidAssertionConditions
  | unknownIssuer
  | issuerIsNotAnIdp
  | invalidAssertion
  | unimplemented
  | redirectRequest
  | soapFault
  | unknownStatusCode
  | discovery (e : DiscoveryError)
deriving DecidableEq

/-- What these functions rest on. -/
structure WsfContext (ν τ : Type) extends Context where
  /-- `lasso_soap_envelope_new_from_message` -/
  readEnvelope : τ → Option (SoapEnvelope ν)
  /-- `lasso_node_export_to_xml` of an envelope -/
  writeEnvelope : SoapEnvelope ν → Option τ
  /-- `private_data->roles` -/
  roles : Provider → Int
  /-- the fault that `_add_fault_for_rc` makes for a code -/
  faultForRc : FamilyRc WsfProfileError → SoapFault

/-! ## Tokens of a reference -/

def EprMetadata.asSecurityContext : EprMetadata → Option IdWsf2DiscoSecurityContext
  | securityContext context => some context
  | _ => none

namespace WsAddrEndpointReference

/-- `lasso_wsa_endpoint_reference_get_idwsf2_security_context_for_security_mechanism` with a
predicate only, so that no context can be created -/
def getSecurityContext (epr : WsAddrEndpointReference) (secMechPredicate : Option String → Bool) :
    Option IdWsf2DiscoSecurityContext :=
  epr.metadata.bind fun any => (any.filterMap (·.asSecurityContext)).find? fun context =>
    context.securityMechId.any (secMechPredicate <| some ·)

/-- The loop over the tokens of a context. A reference to a token elsewhere ends it. -/
def tokenByUsage (usage : String) : List IdWsf2SecToken → Option TokenNode
  | [] => none
  | token :: tokens =>
    if token.usage = some usage then
      match token.any with
      | some node => some node
      | none => if token.ref.isSome then none else tokenByUsage usage tokens
    else tokenByUsage usage tokens

/-- `lasso_wsa_endpoint_reference_get_token_by_usage`, if it ends: the source reads the tokens of
the context without looking whether there is one. -/
def getTokenByUsage (epr : WsAddrEndpointReference) (secMechPredicate : Option String → Bool)
    (usage : String) : Option (Option TokenNode) :=
  (epr.getSecurityContext secMechPredicate).map fun context => tokenByUsage usage context.token

/-- `lasso_wsa_endpoint_reference_get_security_token` -/
def getSecurityToken (epr : WsAddrEndpointReference) (secMechPredicate : Option String → Bool) :
    Option (Option TokenNode) :=
  epr.getTokenByUsage secMechPredicate secTokenUsageSecurityToken

end WsAddrEndpointReference

/-! ## Envelopes -/

namespace HeaderNode

def asSender : HeaderNode → Option (Option String)
  | sender providerId => some providerId
  | _ => none

def asMessageId : HeaderNode → Option (Option String)
  | messageId content => some content
  | _ => none

def asSecurity : HeaderNode → Option (List SecurityNode)
  | security any => some any
  | _ => none

def asTargetIdentity : HeaderNode → Option (List TargetNode)
  | targetIdentity any => some any
  | _ => none

end HeaderNode

namespace SoapEnvelope

variable {ν : Type}

/-- The first header of a kind. -/
def getHeader {α : Type} (kind : HeaderNode → Option α) (envelope : SoapEnvelope ν) : Option α :=
  envelope.header.bind (·.findSome? kind)

/-- `lasso_soap_envelope_sb2_get_provider_id` -/
def getProviderId (envelope : SoapEnvelope ν) : Option String :=
  (envelope.getHeader HeaderNode.asSender).join

/-- The content of `lasso_soap_envelope_get_message_id`. -/
def getMessageId (envelope : SoapEnvelope ν) : Option String :=
  (envelope.getHeader HeaderNode.asMessageId).join

/-- Put a token into the first security header, or into a new one. -/
def addToSecurityHeader (token : SecurityNode) : List HeaderNode → List HeaderNode
  | [] => [.security [token]]
  | .security any :: header => .security (any ++ [token]) :: header
  | node :: header => node :: addToSecurityHeader token header

/-- `lasso_soap_envelope_add_security_token` -/
def addSecurityToken (envelope : SoapEnvelope ν) (token : SecurityNode) : SoapEnvelope ν :=
  { envelope with header := envelope.header.map (addToSecurityHeader token) }

/-- `lasso_soap_envelope_add_to_body` -/
def addToBody (envelope : SoapEnvelope ν) (node : BodyNode ν) : SoapEnvelope ν :=
  { envelope with body := envelope.body.map (· ++ [node]) }

end SoapEnvelope

/-- `lasso_idwsf2_profile_build_soap_envelope`, with the identifier that it draws -/
def buildSoapEnvelope {ν : Type} (messageId : String) (refToMessageId providerId : Option String) :
    SoapEnvelope ν where
  header := some ((providerId.toList.map fun providerId => .sender (some providerId)) ++
    [.messageId (some messageId)] ++
    refToMessageId.toList.map fun messageId => .relatesTo (some messageId))
  body := some []

namespace WsfProfile

variable {ν τ : Type}

/-- `ProviderID` of the server -/
def providerId (profile : WsfProfile ν τ) : Option String :=
  profile.server.bind (·.provider.providerId)

/-- `_add_fault_for_rc`, if it ends -/
def addFaultForRc (cx : WsfContext ν τ) (profile : WsfProfile ν τ) (rc : FamilyRc WsfProfileError) :
    Option (WsfProfile ν τ) :=
  if rc = .ok then some profile
  else do
    let envelope ← profile.soapEnvelopeResponse
    let _ ← envelope.header
    let envelope := { envelope with header := some [] }
    return { profile with
      soapEnvelopeResponse := some (envelope.addToBody (.soapFault (cx.faultForRc rc))) }

/-! ## Requests -/

/-- `lasso_idwsf2_profile_init_request` -/
def initRequest (profile : WsfProfile ν τ) (messageId : String) :
    FamilyRc WsfProfileError × WsfProfile ν τ :=
  if profile.epr.any fun epr =>
      (epr.getSecurityContext securityMechIdIsBearerAuthentication).isNone then
    (.own .unsupportedSecurityMechanism, profile)
  else
    (.ok, { profile with
      soapEnvelopeRequest := some (buildSoapEnvelope messageId none profile.providerId)
      request := none })

/-- Put the bearer token of the reference into the request, as it was received. -/
def attachBearerToken (profile : WsfProfile ν τ) (epr : WsAddrEndpointReference) :
    Option (FamilyRc WsfProfileError × WsfProfile ν τ) :=
  (epr.getSecurityToken securityMechIdIsBearerAuthentication).map fun securityToken =>
    match securityToken with
    | none => (.ok, profile)
    | some securityToken =>
      match securityToken.originalXmlnode with
      | none => ((Rc.profile .buildingRequestFailed : FamilyRc WsfProfileError), profile)
      | some xmlnode =>
        (.ok, { profile with
          soapEnvelopeRequest := profile.soapEnvelopeRequest.map
            (·.addSecurityToken (.miscText xmlnode)) })

/-- The SOAP binding of a request to the endpoint of a reference. -/
def bindToEpr (profile : WsfProfile ν τ) (securityMechId : Option String) :
    Option (FamilyRc WsfProfileError × WsfProfile ν τ) :=
  match profile.epr with
  | none => some (.ok, profile)
  | some epr =>
    let profile := { profile with msgUrl := epr.address.or profile.msgUrl }
    if securityMechId.isNone || securityMechIdIsBearerAuthentication securityMechId then
      profile.attachBearerToken epr
    else some (.ok, profile)

/-- `lasso_idwsf2_profile_build_request_msg` -/
def buildRequestMsg (cx : WsfContext ν τ) (profile : WsfProfile ν τ)
    (securityMechId : Option String) : Option (FamilyRc WsfProfileError × WsfProfile ν τ) :=
  (profile.bindToEpr securityMechId).map fun (rc, profile) =>
    if rc ≠ .ok then (rc, profile)
    else
      let text := profile.soapEnvelopeRequest.bind cx.writeEnvelope
      let rc := if text.isSome then Rc.ok else .profile .buildingRequestFailed
      (rc, { profile with msgBody := text })

/-- `lasso_idwsf2_profile_process_request_msg` of a message that is not empty. The response refers
to the request. -/
def processRequestMsg (cx : WsfContext ν τ) (profile : WsfProfile ν τ) (message : τ)
    (messageId : String) : Option (FamilyRc WsfProfileError × WsfProfile ν τ) :=
  -- clean some fields
  let profile := { profile with
    nameIdentifier := none
    remoteProviderId := none
    msgBody := none
    soapEnvelopeResponse := none
    response := none }
  match cx.readEnvelope message with
  | none =>
    some ((Rc.profile .invalidMsg : FamilyRc WsfProfileError),
      { profile with soapEnvelopeRequest := none })
  | some envelope =>
    let request := envelope.body.bind (·.head?)
    let rc : FamilyRc WsfProfileError := if request.isSome then .ok else Rc.soap .missingBody
    let profile := { profile with
      soapEnvelopeRequest := some envelope
      request := request.or profile.request
      soapEnvelopeResponse := profile.server.map fun (server : Server) =>
        buildSoapEnvelope messageId envelope.getMessageId server.provider.providerId }
    (profile.addFaultForRc cx rc).map fun profile => (rc, profile)

/-! ## Responses -/

/-- `lasso_idwsf2_profile_init_response` -/
def initResponse (profile : WsfProfile ν τ) (messageId : String) : WsfProfile ν τ :=
  { profile with
    soapEnvelopeResponse := some (buildSoapEnvelope messageId
      (profile.soapEnvelopeRequest.bind (·.getMessageId)) profile.providerId)
    response := none }

/-- `lasso_idwsf2_profile_init_soap_fault_response` -/
def initSoapFaultResponse (profile : WsfProfile ν τ) (messageId faultcode : String)
    (faultstring : Option String) (details : List DetailNode) : WsfProfile ν τ :=
  let profile := profile.initResponse messageId
  let fault : BodyNode ν := .soapFault {
    faultcode := some faultcode
    faultstring := faultstring
    detail := if details = [] then none else some details }
  { profile with
    response := some fault
    soapEnvelopeResponse := profile.soapEnvelopeResponse.map (·.addToBody fault) }

/-- `lasso_idwsf2_profile_build_response_msg` -/
def buildResponseMsg (cx : WsfContext ν τ) (profile : WsfProfile ν τ) :
    FamilyRc WsfProfileError × WsfProfile ν τ :=
  match profile.soapEnvelopeResponse with
  | none => ((Rc.profile .missingResponse : FamilyRc WsfProfileError), profile)
  | some envelope =>
    let text := cx.writeEnvelope envelope
    let rc := if text.isSome then Rc.ok else .profile .buildingResponseFailed
    (rc, { profile with msgBody := text })

/-- What a SOAP fault in a response asks for. One without details is taken for a response. -/
def signalSoapFault (profile : WsfProfile ν τ) : FamilyRc WsfProfileError × WsfProfile ν τ :=
  match profile.response with
  | some (.soapFault { detail := some details, .. }) =>
    match details.findSome? fun node =>
      match node with
      | .redirectRequest url => some url
      | .other => none with
    | some url => (.own .redirectRequest, { profile with msgUrl := url })
    | none => (.own .soapFault, profile)
  | _ => (.ok, profile)

/-- `lasso_idwsf2_profile_process_response_msg` of a message that is not empty -/
def processResponseMsg (cx : WsfContext ν τ) (profile : WsfProfile ν τ) (message : τ) :
    FamilyRc WsfProfileError × WsfProfile ν τ :=
  let envelope := cx.readEnvelope message
  let profile := { profile with soapEnvelopeResponse := envelope }
  match envelope with
  | none => ((Rc.profile .invalidResponse : FamilyRc WsfProfileError), profile)
  | some envelope =>
    match envelope.body with
    | none => ((Rc.soap .missingBody : FamilyRc WsfProfileError), profile)
    | some body =>
      match body.head? with
      | none => ((Rc.profile .missingResponse : FamilyRc WsfProfileError), profile)
      | some response => { profile with response := some response }.signalSoapFault

end WsfProfile

end Lasso.IdWsf2
