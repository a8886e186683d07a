import Lasso.ErrorFamily
import Lasso.Server

/-!
# The SOAP messages of an ID-WSF 1.0 service

A request carries a correlation header with a message identifier, and the response to it refers to
that identifier. The functions of `wsf_profile.c` follow null pointers in a few places: where they
do, there is no result.

## Main definitions

* `WsfProfile.initSoapRequest`, `buildSoapRequestMsg`, `processSoapResponseMsg` — at the client.
* `WsfProfile.processSoapRequestMsg`, `initSoapResponse`, `buildSoapResponseMsg` — at the service.
-/

namespace Lasso.IdWsf.Soap

/-! ## Messages -/

/-- `LassoSoapBindingCorrelation` -/
structure SoapBindingCorrelation where
  messageId : Option String
  refToMessageId : Option String := none
  timestamp : Option String := none
deriving DecidableEq

/-- `LassoSoapBindingProvider` -/
structure SoapBindingProvider where
  providerId : Option String
  id : Option String := none
deriving DecidableEq

/-- What stands in a SOAP header. -/
inductive HeaderNode (ν : Type) where
  | correlation (c : SoapBindingCorrelation)
  | provider (p : SoapBindingProvider)
  | other (node : ν)

/-- `LassoSoapHeader` -/
structure SoapHeader (ν : Type) where
  other : List (HeaderNode ν) := []

/-- What stands in the detail of a SOAP fault. -/
inductive DetailNode (ν : Type) where
  | redirectRequest (redirectUrl : Option String)
  | other (node : ν)

/-- `LassoSoapFault`, with the nodes of its `LassoSoapDetail`. -/
structure SoapFault (ν : Type) where
  faultcode : Option String := none
  faultstring : Option String := none
  detail : Option (List (DetailNode ν)) := none

/-- What stands in a SOAP body. -/
inductive BodyNode (ν : Type) where
  | soapFault (fault : SoapFault ν)
  | other (node : ν)

/-- `LassoSoapBody` -/
structure SoapBody (ν : Type) where
  any : List (BodyNode ν) := []
  id : Option String := none

/-- `LassoSoapEnvelope` -/
structure SoapEnvelope (ν : Type) where
  header : Option (SoapHeader ν) := none
  body : Option (SoapBody ν) := none

/-- `LassoDiscoDescription`, with its endpoint. -/
structure DiscoDescription where
  endpoint : Option String

/-- `LassoWsfProfile` -/
structure WsfProfile (ν : Type) where
  server : Option Server := none
  request : Option (BodyNode ν) := none
  response : Option (BodyNode ν) := none
  soapEnvelopeRequest : Option (SoapEnvelope ν) := none
  soapEnvelopeResponse : Option (SoapEnvelope ν) := none
  msgUrl : Option String := none
  msgBody : Option Bytes := none
  securityMechId : Option String := none
  description : Option DiscoDescription := none
  remoteProviderId : Option String := none
  soapFault : Option (SoapFault ν) := none

/-- The codes of this profile beside the common ones. -/
inductive WsfProfileError where
  | missingCorrelation
  | unsupportedSecurityMechanism
  | invalidOrMissingReferenceToMessageId
  | soapFault
  | missingEndpoint
  | redirectRequestFault
deriving DecidableEq

/-- What these functions rest on. -/
structure WsfContext (ν : Type) where
  /-- `lasso_xml_parse_memory` and `lasso_node_new_from_xmlNode`, if they give an envelope -/
  readEnvelope : Bytes → Option (SoapEnvelope ν)
  /-- the text of an envelope -/
  writeEnvelope : SoapEnvelope ν → Bytes
  /-- `lasso_wsf_profile_comply_with_saml_authentication`: it takes the first header that is no
  security header for one, and writes to it -/
  complyWithSamlAuthentication : WsfProfile ν → Option (FamilyRc WsfProfileError × WsfProfile ν)
  /-- `lasso_wsf_profile_add_saml_signature` on the document of an envelope -/
  addSamlSignature : WsfProfile ν → SoapEnvelope ν → Except (FamilyRc WsfProfileError) Bytes

/-- What is drawn and read from the clock for a new envelope. -/
structure Stamps where
  bodyId : String
  messageId : String
  timestamp : String
  providerHeaderId : String

/-! ## Security mechanisms -/

/-- `lasso_security_mech_id_is_null_authentication` -/
def securityMechIdIsNullAuthentication (securityMechId : Option String) : Bool :=
  securityMechId.all fun id => [
    "urn:liberty:security:2003-08:ClientTLS:null", "urn:liberty:security:2003-08:TLS:null",
    "urn:liberty:security:2003-08:null:null"].contains id

/-- `lasso_security_mech_id_is_saml_authentication` -/
def securityMechIdIsSamlAuthentication (securityMechId : Option String) : Bool :=
  securityMechId.any fun id => [
    "urn:liberty:security:2005-02:null:SAML", "urn:liberty:security:2005-02:TLS:SAML",
    "urn:liberty:security:2005-02:ClientTLS:SAML"].contains id

/-- `lasso_security_mech_id_is_bearer_authentication` -/
def securityMechIdIsBearerAuthentication (securityMechId : Option String) : Bool :=
  securityMechId.any fun id => [
    "urn:liberty:security:2005-02:null:Bearer", "urn:liberty:security:2005-02:TLS:Bearer",
    "urn:liberty:security:2005-02:ClientTLS:Bearer"].contains id

/-! ## Envelopes -/

section

variable {ν : Type}

/-- `lasso_wsf_profile_utils_get_header_correlation` -/
def SoapEnvelope.headerCorrelation (envelope : SoapEnvelope ν) : Option SoapBindingCorrelation :=
  envelope.header.bind fun header => header.other.findSome? fun node =>
    match node with
    | .correlation c => some c
    | _ => none

/-- `lasso_wsf_profile_utils_get_message_id` -/
def SoapEnvelope.messageId (envelope : SoapEnvelope ν) : Option String :=
  envelope.headerCorrelation.bind (·.messageId)

/-- `lasso_wsf_profile_utils_get_ref_message_id` -/
def SoapEnvelope.refMessageId (envelope : SoapEnvelope ν) : Option String :=
  envelope.headerCorrelation.bind (·.refToMessageId)

/-- The provider header that comes first. -/
def SoapEnvelope.headerProvider (envelope : SoapEnvelope ν) : Option SoapBindingProvider :=
  envelope.header.bind fun header => header.other.findSome? fun node =>
    match node with
    | .provider p => some p
    | _ => none

/-- `lasso_wsf_profile_build_soap_envelope_internal` -/
def buildSoapEnvelopeInternal (stamps : Stamps) (refToMessageId providerId : Option String) :
    SoapEnvelope ν where
  header := some {
    other := .correlation {
        messageId := some stamps.messageId
        refToMessageId := refToMessageId
        timestamp := some stamps.timestamp } ::
      (providerId.map fun _ => .provider {
        providerId := providerId
        id := some stamps.providerHeaderId }).toList }
  body := some { id := some stamps.bodyId }

/-- Append a node to the body. -/
def SoapEnvelope.addToBody (envelope : SoapEnvelope ν) (node : BodyNode ν) : SoapEnvelope ν :=
  { envelope with body := envelope.body.map fun body => { body with any := body.any ++ [node] } }

namespace WsfProfile

/-! ## Requests -/

/-- `lasso_wsf_profile_init_soap_request` -/
def initSoapRequest (profile : WsfProfile ν) (request : BodyNode ν) (stamps : Stamps) :
    WsfProfile ν :=
  let providerId := profile.server.bind (·.provider.providerId)
  { profile with
    soapEnvelopeRequest :=
      some ((buildSoapEnvelopeInternal stamps none providerId).addToBody request)
    request := some request }

/-- `lasso_wsf_profile_comply_with_security_mechanism` -/
def complyWithSecurityMechanism (cx : WsfContext ν) (profile : WsfProfile ν) :
    Option (FamilyRc WsfProfileError × WsfProfile ν) :=
  if securityMechIdIsSamlAuthentication profile.securityMechId then
    cx.complyWithSamlAuthentication profile
  else if securityMechIdIsBearerAuthentication profile.securityMechId then
    cx.complyWithSamlAuthentication profile
  else if securityMechIdIsNullAuthentication profile.securityMechId then some (.ok, profile)
  else some (.own .unsupportedSecurityMechanism, profile)

/-- `lasso_wsf_profile_set_msg_url_from_description` -/
def setMsgUrlFromDescription (profile : WsfProfile ν) :
    Option (FamilyRc WsfProfileError × WsfProfile ν) :=
  profile.description.map fun description =>
    match description.endpoint with
    | some endpoint => (.ok, { profile with msgUrl := some endpoint })
    | none => (.own .missingEndpoint, profile)

/-- The text of a request, signed if the mechanism asks for it. -/
def soapRequestText (cx : WsfContext ν) (profile : WsfProfile ν) (envelope : SoapEnvelope ν) :
    Except (FamilyRc WsfProfileError) Bytes :=
  if securityMechIdIsSamlAuthentication profile.securityMechId then
    cx.addSamlSignature profile envelope
  else if securityMechIdIsBearerAuthentication profile.securityMechId then
    .ok (cx.writeEnvelope envelope)
  else if securityMechIdIsNullAuthentication profile.securityMechId then
    .ok (cx.writeEnvelope envelope)
  else .error (.own .unsupportedSecurityMechanism)

/-- `lasso_wsf_profile_build_soap_request_msg` -/
def buildSoapRequestMsg (cx : WsfContext ν) (profile : WsfProfile ν) :
    Option (FamilyRc WsfProfileError × WsfProfile ν) :=
  if profile.soapEnvelopeRequest.isNone then
    some ((Rc.soap .missingEnvelope : FamilyRc WsfProfileError), profile)
  else
    (profile.complyWithSecurityMechanism cx).bind fun (rc, profile) =>
      if rc ≠ .ok then some (rc, profile)
      else
        profile.soapEnvelopeRequest.bind fun envelope =>
          match profile.soapRequestText cx envelope with
          | .error rc => some (rc, profile)
          | .ok text => setMsgUrlFromDescription { profile with msgBody := some text }

/-- The headers of a received request: its correlation, the security mechanism and its provider. The
code is the one of the body. -/
def readRequestHeader (profile : WsfProfile ν) (envelope : SoapEnvelope ν)
    (securityMechId : Option String) (rc : FamilyRc WsfProfileError) :
    FamilyRc WsfProfileError × WsfProfile ν :=
  if envelope.header.isNone then ((Rc.soap .missingHeader : FamilyRc WsfProfileError), profile)
  else if envelope.messageId.isNone then (.own .missingCorrelation, profile)
  else if !securityMechIdIsNullAuthentication securityMechId then
    (.own .unsupportedSecurityMechanism, profile)
  else
    match envelope.headerProvider with
    | none => (rc, profile)
    | some provider => (rc, { profile with remoteProviderId := provider.providerId })

/-- `lasso_wsf_profile_process_soap_request_msg`. A request without content is remembered as an
error, and the headers are read nevertheless. -/
def processSoapRequestMsg (cx : WsfContext ν) (profile : WsfProfile ν) (message : Bytes)
    (securityMechId : Option String) : FamilyRc WsfProfileError × WsfProfile ν :=
  let profile := { profile with soapFault := none }
  match cx.readEnvelope message with
  | none => ((Rc.profile .invalidSoapMsg : FamilyRc WsfProfileError), profile)
  | some envelope =>
    let profile := { profile with soapEnvelopeRequest := some envelope }
    match envelope.body with
    | none => ((Rc.soap .missingBody : FamilyRc WsfProfileError), profile)
    | some body =>
      readRequestHeader { profile with request := body.any.head? } envelope securityMechId
        (if body.any.isEmpty then (Rc.profile .missingRequest : FamilyRc WsfProfileError) else .ok)

/-! ## Responses -/

/-- `lasso_wsf_profile_init_soap_response` -/
def initSoapResponse (profile : WsfProfile ν) (response : BodyNode ν) (stamps : Stamps) :
    Option (WsfProfile ν) :=
  profile.soapEnvelopeRequest.map fun request =>
    let providerId := profile.server.bind (·.provider.providerId)
    { profile with
      soapEnvelopeResponse :=
        some ((buildSoapEnvelopeInternal stamps request.messageId providerId).addToBody response)
      response := some response }

/-- `lasso_wsf_profile_build_soap_response_msg`. A SOAP fault of the profile replaces the
response. -/
def buildSoapResponseMsg (cx : WsfContext ν) (profile : WsfProfile ν) :
    FamilyRc WsfProfileError × WsfProfile ν :=
  match profile.soapEnvelopeResponse with
  | none => ((Rc.soap .missingEnvelope : FamilyRc WsfProfileError), profile)
  | some envelope =>
    match profile.soapFault with
    | none => (.ok, { profile with msgBody := some (cx.writeEnvelope envelope) })
    | some fault =>
      match envelope.body with
      | none => ((Rc.soap .missingBody : FamilyRc WsfProfileError), profile)
      | some body =>
        let envelope := { envelope with body := some { body with any := [.soapFault fault] } }
        (.ok, { profile with
          soapEnvelopeResponse := some envelope
          msgBody := some (cx.writeEnvelope envelope) })

/-- The end of the processing of a response: what a SOAP fault in it asks for. The last redirection
in its detail is the one that is followed. -/
def signalSoapFault (profile : WsfProfile ν) : FamilyRc WsfProfileError × WsfProfile ν :=
  match profile.response with
  | some (.soapFault fault) =>
    let redirects := (fault.detail.getD []).filterMap fun node =>
      match node with
      | .redirectRequest url => some url
      | .other _ => none
    match redirects.getLast? with
    | some url => (.own .redirectRequestFault, { profile with msgUrl := url })
    | none => (.own .soapFault, profile)
  | _ => (.ok, profile)

/-- `lasso_wsf_profile_process_soap_response_msg` -/
def processSoapResponseMsg (cx : WsfContext ν) (profile : WsfProfile ν) (message : Bytes) :
    Option (FamilyRc WsfProfileError × WsfProfile ν) :=
  let profile := { profile with soapFault := none }
  match cx.readEnvelope message with
  | none => some ((Rc.profile .invalidSoapMsg : FamilyRc WsfProfileError), profile)
  | some envelope =>
    let profile := { profile with soapEnvelopeResponse := some envelope }
    match envelope.body with
    | none => some ((Rc.soap .missingBody : FamilyRc WsfProfileError), profile)
    | some body =>
      let profile := { profile with response := body.any.head? }
      if body.any.isEmpty then
        some ((Rc.profile .missingResponse : FamilyRc WsfProfileError), profile)
      else if envelope.headerCorrelation.isNone then some (.own .missingCorrelation, profile)
      else
        profile.soapEnvelopeRequest.map fun request =>
          if request.messageId ≠ envelope.refMessageId then
            (.own .invalidOrMissingReferenceToMessageId, profile)
          else profile.signalSoapFault

end WsfProfile

end

end Lasso.IdWsf.Soap
