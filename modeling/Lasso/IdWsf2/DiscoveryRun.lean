import Lasso.IdWsf2.DiscoveryService
import Lasso.IdWsf2.Profile

/-!
# Runs of a discovery service

A service provider registers the metadata of its services at a discovery service, and asks about
them. Both are `LassoIdWsf2Discovery` objects, which are used for any number of exchanges.

## Main definitions

* `Discovery.buildRequestMsg`, `Discovery.processResponseMsg` — at the one that asks.
* `Discovery.processRequestMsg`, `validateRequest`, `failRequest` — at the discovery service.
* `Directory` — what a discovery service is for.

## Main results

* `runExchanges_refines` — every run of exchanges is one of the directory.
-/

namespace Lasso.IdWsf2

/-! ## Messages -/

/-- `LassoIdWsf2UtilStatus`: its code, the one of the first status in it, and so on. -/
abbrev UtilStatus := List (Option String)

/-- What stands in the body of a message. -/
inductive DiscoMessage where
  | query (requestedService : List DiscoRequestedService)
  | svcMdRegister (svcMd : List DiscoSvcMetadata)
  | svcMdReplace (svcMd : List DiscoSvcMetadata)
  | svcMdQuery (svcMdid : List String)
  | svcMdDelete (svcMdid : List String)
  | svcMdAssociationAdd (svcMdid : List String)
  | svcMdAssociationDelete (svcMdid : List String)
  | svcMdAssociationQuery (svcMdid : List String)
  | queryResponse (status : UtilStatus) (endpointReference : List WsAddrEndpointReference)
  | svcMdRegisterResponse (status : UtilStatus) (svcMdid : List String)
  | svcMdReplaceResponse (status : UtilStatus)
  | svcMdQueryResponse (status : UtilStatus) (svcMd : List DiscoSvcMetadata)
  | svcMdDeleteResponse (status : UtilStatus)
  | svcMdAssociationAddResponse (status : UtilStatus)
  | svcMdAssociationDeleteResponse (status : UtilStatus)
  | svcMdAssociationQueryResponse (status : UtilStatus) (svcMdid : List String)

/-- The types that `lasso_idwsf2_discovery_get_request_type` knows. -/
def DiscoMessage.isRequest : DiscoMessage → Bool
  | query _ | svcMdRegister _ | svcMdReplace _ | svcMdQuery _ | svcMdDelete _
  | svcMdAssociationAdd _ | svcMdAssociationDelete _ | svcMdAssociationQuery _ => true
  | _ => false

/-- `lasso_idwsf2_util_status_new_with_code` -/
def utilStatusNewWithCode (code1 code2 : Option String) : UtilStatus :=
  code1 :: code2.toList.map some

/-- `LASSO_SOAP_FAULT_CODE_CLIENT` -/
def soapFaultCodeClient : String := "s:Client"

/-- `code2rc` -/
def code2rc (code : String) : FamilyRc WsfProfileError :=
  if code = "OK" then .ok
  else if code = "Failed" then .own (.discovery .failed)
  else if code = "Forbidden" then .own (.discovery .forbidden)
  else if code = "Duplicate" then .own (.discovery .duplicate)
  else if code = "LogicalDuplicate" then .own (.discovery .logicalDuplicate)
  else if code = "NoResults" then .own (.discovery .noResults)
  else if code = "NotFound" then .own (.discovery .notFound)
  else .own .unknownStatusCode

/-- `lasso_idwsf2_discovery_status2rc` -/
def status2rc : UtilStatus → FamilyRc WsfProfileError
  | [] | none :: _ => (Rc.profile .missingStatusCode : FamilyRc WsfProfileError)
  | some code :: status =>
    let rc := code2rc code
    -- check second level if necessary
    if rc = .own (.discovery .failed) ∧ status ≠ [] then
      let rc2 := status2rc status
      if rc2 ≠ .own .unknownStatusCode ∧
          rc2 ≠ (Rc.profile .missingStatusCode : FamilyRc WsfProfileError) then rc2
      else rc
    else rc

/-! ## The object -/

/-- `LassoIdWsf2Discovery` -/
structure Discovery (τ : Type) where
  profile : WsfProfile DiscoMessage τ := {}
  identity : Option Identity := none
  metadatas : List DiscoSvcMetadata := []
  requestedServices : List DiscoRequestedService := []
  svcMdids : List String := []

/-- What these functions rest on. -/
structure DirectoryContext (τ : Type) extends WsfContext DiscoMessage τ where
  disco : DiscoveryContext
  /-- the requested services of a query, taken for a list of strings -/
  servicesAsStrings : List DiscoRequestedService → List String

namespace Discovery

variable {τ : Type}

/-- The content of the last request. -/
def request (discovery : Discovery τ) : Option DiscoMessage :=
  discovery.profile.request.bind fun node =>
    match node with
    | .content message => some message
    | .soapFault _ => none

/-- Change the content of the request that is being made. -/
def setRequest (discovery : Discovery τ) (message : DiscoMessage) : Discovery τ :=
  { discovery with
    profile := { discovery.profile with
      request := some (.content message)
      soapEnvelopeRequest := discovery.profile.soapEnvelopeRequest.map fun envelope =>
        { envelope with body := envelope.body.map fun any => .content message :: any.tail } } }

/-- `lasso_idwsf2_discovery_init_query` and its siblings, with their empty element -/
def initRequest (discovery : Discovery τ) (messageId : String) (element : DiscoMessage) :
    FamilyRc WsfProfileError × Discovery τ :=
  let discovery := { discovery with metadatas := [], requestedServices := [] }
  match discovery.profile.initRequest messageId with
  | (.common .ok, profile) =>
    let envelope := profile.soapEnvelopeRequest.map (SoapEnvelope.addToBody · (.content element))
    (.ok, { discovery with
      profile := { profile with
        request := some (.content element)
        soapEnvelopeRequest := envelope } })
  | (rc, profile) => (rc, { discovery with profile })

/-- `lasso_idwsf2_discovery_add_service_metadata` -/
def addServiceMetadata (discovery : Discovery τ) (metadata : DiscoSvcMetadata) : Discovery τ :=
  { discovery with metadatas := discovery.metadatas ++ [metadata] }

/-- `lasso_idwsf2_discovery_add_requested_service` -/
def addRequestedService (discovery : Discovery τ) (service : DiscoRequestedService) :
    Discovery τ :=
  { discovery with requestedServices := discovery.requestedServices ++ [service] }

/-- `lasso_idwsf2_discovery_set_svcmdids` -/
def setSvcMdids (discovery : Discovery τ) (svcMdids : List String) : Discovery τ :=
  { discovery with svcMdids }

/-- The element of a request with what was added to the object. Only metadata with an identifier can
be replaced. -/
def fillRequest (discovery : Discovery τ) : DiscoMessage → Option DiscoMessage
  | .query _ => some (.query discovery.requestedServices)
  | .svcMdRegister _ => some (.svcMdRegister discovery.metadatas)
  | .svcMdReplace svcMd =>
    some (.svcMdReplace (svcMd ++ discovery.metadatas.filter (·.svcMdid.any (· ≠ ""))))
  | .svcMdQuery _ => some (.svcMdQuery discovery.svcMdids)
  | .svcMdDelete _ => some (.svcMdDelete discovery.svcMdids)
  | .svcMdAssociationAdd _ => some (.svcMdAssociationAdd discovery.svcMdids)
  | .svcMdAssociationDelete _ => some (.svcMdAssociationDelete discovery.svcMdids)
  | .svcMdAssociationQuery _ => some (.svcMdAssociationQuery discovery.svcMdids)
  | _ => none

/-- `lasso_idwsf2_discovery_build_request_msg`, if it ends: the source asks for the type of the
request without looking whether there is one. -/
def buildRequestMsg (cx : DirectoryContext τ) (discovery : Discovery τ)
    (securityMechId : Option String) : Option (FamilyRc WsfProfileError × Discovery τ) :=
  discovery.profile.request.bind fun _ =>
    match discovery.request.bind discovery.fillRequest with
    | none => some ((Rc.profile .invalidRequest : FamilyRc WsfProfileError), discovery)
    | some message =>
      let discovery := discovery.setRequest message
      (discovery.profile.buildRequestMsg cx.toWsfContext securityMechId).map fun (rc, profile) =>
        (rc, { discovery with profile })

/-! ## The service -/

/-- The rest of `lasso_idwsf2_discovery_process_request_msg`, once the message is read. There is no
case for a request to replace metadata. -/
def takeRequest (cx : DirectoryContext τ) (discovery : Discovery τ) (responseId : String) :
    FamilyRc WsfProfileError × Discovery τ :=
  match discovery.request with
  | some (.svcMdRegister svcMd) => (.ok, { discovery with metadatas := svcMd })
  | some (.query requestedService) =>
    (.ok, { discovery with
      requestedServices := requestedService
      svcMdids := cx.servicesAsStrings requestedService })
  | some (.svcMdQuery svcMdid) | some (.svcMdDelete svcMdid)
  | some (.svcMdAssociationAdd svcMdid) | some (.svcMdAssociationDelete svcMdid)
  | some (.svcMdAssociationQuery svcMdid) => (.ok, { discovery with svcMdids := svcMdid })
  | _ => ((Rc.profile .invalidRequest : FamilyRc WsfProfileError), { discovery with
      profile := discovery.profile.initSoapFaultResponse responseId soapFaultCodeClient
        (some "Unknown Request Type") [] })

/-- `lasso_idwsf2_discovery_process_request_msg`, with the identifiers that it draws -/
def processRequestMsg (cx : DirectoryContext τ) (discovery : Discovery τ) (message : τ)
    (responseId faultId : String) : Option (FamilyRc WsfProfileError × Discovery τ) :=
  (discovery.profile.processRequestMsg cx.toWsfContext message responseId).map
    fun (rc, profile) =>
      let discovery := { discovery with profile }
      if rc ≠ .ok then (rc, discovery) else discovery.takeRequest cx faultId

/-- Put the response into the envelope that is there. -/
def respond (discovery : Discovery τ) (response : BodyNode DiscoMessage) : Discovery τ :=
  { discovery with
    profile := { discovery.profile with
      response := some response
      soapEnvelopeResponse := discovery.profile.soapEnvelopeResponse.map (·.addToBody response) } }

/-- The response that says that a request failed. -/
def failResponse (status : UtilStatus) : Option DiscoMessage → BodyNode DiscoMessage
  | some (.query _) => .content (.queryResponse status [])
  | some (.svcMdRegister _) => .content (.svcMdRegisterResponse status [])
  | some (.svcMdReplace _) => .content (.svcMdReplaceResponse status)
  | some (.svcMdQuery _) => .content (.svcMdQueryResponse status [])
  | some (.svcMdDelete _) => .content (.svcMdDeleteResponse status)
  | some (.svcMdAssociationAdd _) => .content (.svcMdAssociationAddResponse status)
  | some (.svcMdAssociationDelete _) => .content (.svcMdAssociationDeleteResponse status)
  | some (.svcMdAssociationQuery _) => .content (.svcMdAssociationQueryResponse status [])
  | _ => .soapFault {
      faultcode := some soapFaultCodeClient
      faultstring := some "Invalid request" }

/-- `lasso_idwsf2_discovery_fail_request` of a request that was received -/
def failRequest (discovery : Discovery τ) (responseId : String) (code code2 : Option String) :
    Discovery τ :=
  { discovery with profile := discovery.profile.initResponse responseId }.respond
    (failResponse (utilStatusNewWithCode code code2) discovery.request)

/-- `lasso_idwsf2_discovery_validate_request_query` -/
def validateQuery (cx : DirectoryContext τ) (discovery : Discovery τ) (responseId : String)
    (query : List DiscoRequestedService) : Discovery τ :=
  let eprs := validateRequestQuery cx.disco
    { server := discovery.profile.server, identity := discovery.identity } discovery.metadatas query
  if eprs ≠ [] then
    { discovery with profile := discovery.profile.initResponse responseId }.respond
      (.content (.queryResponse (utilStatusNewWithCode (some "OK") none) eprs))
  else discovery.failRequest responseId (some "NoResults") none

/-- The metadata with the identifiers that are drawn for them. -/
def assignIds (draw : Nat → String) (svcMd : List DiscoSvcMetadata) : List DiscoSvcMetadata :=
  svcMd.mapIdx fun i metadata => { metadata with svcMdid := some (draw i) }

/-- `lasso_idwsf2_discovery_validate_md_register`, with the identifiers that it draws -/
def validateMdRegister (discovery : Discovery τ) (draw : Nat → String) (responseId : String)
    (svcMd : List DiscoSvcMetadata) : Discovery τ :=
  let metadatas := assignIds draw svcMd
  let response : DiscoMessage := .svcMdRegisterResponse (utilStatusNewWithCode (some "OK") none)
    (metadatas.filterMap (·.svcMdid))
  { discovery with
    metadatas := metadatas
    profile := WsfProfile.initResponse
      { discovery.profile with request := some (.content (.svcMdRegister metadatas)) }
      responseId }.respond (.content response)

/-- `lasso_idwsf2_discovery_validate_request` of a request that was received, with the identifiers
that it draws -/
def validateRequest (cx : DirectoryContext τ) (discovery : Discovery τ) (draw : Nat → String)
    (responseId : String) : FamilyRc WsfProfileError × Discovery τ :=
  let status := utilStatusNewWithCode (some "OK") none
  match discovery.request with
  | some (.query query) => (.ok, discovery.validateQuery cx responseId query)
  | some (.svcMdRegister svcMd) => (.ok, discovery.validateMdRegister draw responseId svcMd)
  | some (.svcMdQuery svcMdid) =>
    let found :=
      if svcMdid ≠ [] then
        discovery.metadatas.filter fun metadata => stringListContains svcMdid metadata.svcMdid
      else discovery.metadatas
    (.ok, discovery.respond (.content (.svcMdQueryResponse status found)))
  | some (.svcMdReplace _) => (.ok, discovery.respond (.content (.svcMdReplaceResponse status)))
  | some (.svcMdDelete _) => (.ok, discovery.respond (.content (.svcMdDeleteResponse status)))
  | some (.svcMdAssociationAdd _) =>
    (.ok, discovery.respond (.content (.svcMdAssociationAddResponse status)))
  | some (.svcMdAssociationDelete _) =>
    (.ok, discovery.respond (.content (.svcMdAssociationDeleteResponse status)))
  | some (.svcMdAssociationQuery _) =>
    (.ok, discovery.respond
      (.content (.svcMdAssociationQueryResponse status discovery.svcMdids)))
  | _ => ((Rc.profile .invalidRequest : FamilyRc WsfProfileError),
      discovery.failRequest responseId none none)

/-! ## The answer -/

/-- Whether a response has one identifier for every piece of metadata, and none is empty. -/
def idsFit (svcMdid : List String) (svcMd : List DiscoSvcMetadata) : Bool :=
  svcMdid.length == svcMd.length && svcMdid.all (· ≠ "")

/-- `lasso_idwsf2_discovery_process_metadata_register_response_msg` -/
def processMetadataRegisterResponseMsg (discovery : Discovery τ) (svcMd : List DiscoSvcMetadata)
    (response : BodyNode DiscoMessage) : FamilyRc WsfProfileError × Discovery τ :=
  match response with
  | .content (.svcMdRegisterResponse status svcMdid) =>
    if status2rc status ≠ .ok then (status2rc status, discovery)
    else if !idsFit svcMdid svcMd then
      ((Rc.profile .invalidResponse : FamilyRc WsfProfileError), discovery)
    else
      let svcMd := List.zipWith (fun metadata id => { metadata with svcMdid := some id }) svcMd
        svcMdid
      (.ok, { discovery.setRequest (.svcMdRegister svcMd) with metadatas := svcMd })
  | _ => ((Rc.profile .invalidResponse : FamilyRc WsfProfileError), discovery)

/-- The rest of `lasso_idwsf2_discovery_process_response_msg`, once the message is read, if it ends:
but for two requests the source takes any response for one to the request. -/
def takeResponse (discovery : Discovery τ) :
    Option (FamilyRc WsfProfileError × Discovery τ) :=
  discovery.profile.request.bind fun _ =>
    match discovery.request, discovery.profile.response with
    | some (.query _), some (.content (.queryResponse status _)) =>
      some (status2rc status, discovery)
    | some (.query _), _ =>
      some ((Rc.profile .invalidResponse : FamilyRc WsfProfileError), discovery)
    | some (.svcMdRegister svcMd), some response =>
      some (discovery.processMetadataRegisterResponseMsg svcMd response)
    | some (.svcMdQuery _), some (.content (.svcMdQueryResponse status svcMd)) =>
      let rc := status2rc status
      some (rc, if rc ≠ .ok then discovery else { discovery with metadatas := svcMd })
    | some (.svcMdReplace _), some (.content (.svcMdReplaceResponse status))
    | some (.svcMdDelete _), some (.content (.svcMdDeleteResponse status))
    | some (.svcMdAssociationAdd _), some (.content (.svcMdAssociationAddResponse status))
    | some (.svcMdAssociationDelete _), some (.content (.svcMdAssociationDeleteResponse status)) =>
      some (status2rc status, discovery)
    | some (.svcMdAssociationQuery _),
        some (.content (.svcMdAssociationQueryResponse status svcMdid)) =>
      let rc := status2rc status
      some (rc, if rc ≠ .ok then discovery else { discovery with svcMdids := svcMdid })
    | some message, _ =>
      if message.isRequest then none
      else some ((Rc.profile .invalidRequest : FamilyRc WsfProfileError), discovery)
    | none, _ => some ((Rc.profile .invalidRequest : FamilyRc WsfProfileError), discovery)

/-- `lasso_idwsf2_discovery_process_response_msg` -/
def processResponseMsg (cx : DirectoryContext τ) (discovery : Discovery τ) (message : τ) :
    Option (FamilyRc WsfProfileError × Discovery τ) :=
  let (rc, profile) := discovery.profile.processResponseMsg cx.toWsfContext message
  let discovery := { discovery with profile }
  if rc ≠ .ok then some (rc, discovery) else discovery.takeResponse

/-- `lasso_idwsf2_discovery_get_endpoint_references` -/
def getEndpointReferences (discovery : Discovery τ) : List WsAddrEndpointReference :=
  match discovery.profile.response with
  | some (.content (.queryResponse _ eprs)) => eprs
  | _ => []

end Discovery

/-! ## Exchanges -/

/-- What is asked of a discovery service. -/
inductive Ask where
  | register (svcMd : List DiscoSvcMetadata)
  | query (requestedService : List DiscoRequestedService)
  | mdQuery (svcMdid : List String)
  | mdDelete (svcMdid : List String)
  | associationAdd (svcMdid : List String)
  | associationDelete (svcMdid : List String)
  | associationQuery (svcMdid : List String)

/-- An exchange: what is asked, the status codes if the application refuses it, what is drawn. -/
structure Exchange where
  ask : Ask
  refusal : Option (Option String × Option String) := none
  securityMechId : Option String := none
  requestId : String
  responseIds : String × String
  draw : Nat → String

/-- The empty element of a request. -/
def Ask.element : Ask → DiscoMessage
  | register _ => .svcMdRegister []
  | query _ => .query []
  | mdQuery _ => .svcMdQuery []
  | mdDelete _ => .svcMdDelete []
  | associationAdd _ => .svcMdAssociationAdd []
  | associationDelete _ => .svcMdAssociationDelete []
  | associationQuery _ => .svcMdAssociationQuery []

namespace Discovery

variable {τ : Type}

/-- What is asked is added to the object. -/
def add (discovery : Discovery τ) : Ask → Discovery τ
  | .register svcMd => svcMd.foldl addServiceMetadata discovery
  | .query requestedService => requestedService.foldl addRequestedService discovery
  | .mdQuery svcMdid | .mdDelete svcMdid | .associationAdd svcMdid
  | .associationDelete svcMdid | .associationQuery svcMdid => discovery.setSvcMdids svcMdid

/-- A request is made. -/
def makeRequest (cx : DirectoryContext τ) (discovery : Discovery τ) (e : Exchange) :
    Option (FamilyRc WsfProfileError × Discovery τ) :=
  match discovery.initRequest e.requestId e.ask.element with
  | (.common .ok, discovery) => (discovery.add e.ask).buildRequestMsg cx e.securityMechId
  | refused => some refused

/-- The application validates a request, or has it failed. -/
def reply (cx : DirectoryContext τ) (discovery : Discovery τ) (e : Exchange) : Discovery τ :=
  match e.refusal with
  | none => (discovery.validateRequest cx e.draw e.responseIds.2).2
  | some (code, code2) => discovery.failRequest e.responseIds.2 code code2

/-- A request is answered, also one that could not be processed. -/
def answer (cx : DirectoryContext τ) (discovery : Discovery τ) (e : Exchange) (message : τ) :
    Option (Discovery τ) :=
  (discovery.processRequestMsg cx message e.responseIds.1 e.responseIds.2).map
    fun (rc, discovery) =>
      let discovery := if rc ≠ .ok then discovery else discovery.reply cx e
      { discovery with profile := (discovery.profile.buildResponseMsg cx.toWsfContext).2 }

end Discovery

/-- The two objects after an exchange, with the code that the asking one ends with. -/
def exchange {τ : Type} (cx : DirectoryContext τ) (client server : Discovery τ) (e : Exchange) :
    Option (FamilyRc WsfProfileError × Discovery τ × Discovery τ) := do
  let (rc, client) ← client.makeRequest cx e
  if rc ≠ .ok then return (rc, client, server)
  let server ← server.answer cx e (← client.profile.msgBody)
  let (rc, client) ← client.processResponseMsg cx (← server.profile.msgBody)
  return (rc, client, server)

/-- What the one that asks has after an exchange. -/
structure View where
  rc : FamilyRc WsfProfileError
  metadatas : List DiscoSvcMetadata
  endpointReferences : List WsAddrEndpointReference

/-- The views of the one that asks over a run of exchanges, and the two objects in the end. -/
def runExchanges {τ : Type} (cx : DirectoryContext τ) (client server : Discovery τ) :
    List Exchange → Option (List View × Discovery τ × Discovery τ)
  | [] => some ([], client, server)
  | e :: es => do
    let (rc, client, server) ← exchange cx client server e
    let view := ⟨rc, client.metadatas, client.getEndpointReferences⟩
    let (views, client, server) ← runExchanges cx client server es
    return (view :: views, client, server)

/-! ## The directory -/

/-- What a discovery service is for: it has metadata, and finds services in it for a principal. -/
structure Directory where
  cx : DiscoveryContext
  principal : Profile
  metadatas : List DiscoSvcMetadata

/-- The code of a refusal. -/
def Exchange.refusalRc (e : Exchange) : FamilyRc WsfProfileError :=
  e.refusal.elim .ok fun codes => status2rc (utilStatusNewWithCode codes.1 codes.2)

namespace Directory

/-- The directory after an exchange: what is registered replaces what was there, and gets
identifiers unless it is refused. -/
def after (directory : Directory) (e : Exchange) : Directory :=
  match e.ask with
  | .register svcMd =>
    { directory with
      metadatas := if e.refusal.isNone then Discovery.assignIds e.draw svcMd else svcMd }
  | _ => directory

/-- What an exchange shows of the directory. -/
def view (directory : Directory) (e : Exchange) : View :=
  match e.ask with
  | .register _ => ⟨e.refusalRc, (directory.after e).metadatas, []⟩
  | .query query =>
    let eprs := validateRequestQuery directory.cx directory.principal directory.metadatas query
    if e.refusal.isSome then ⟨e.refusalRc, [], []⟩
    else if eprs = [] then ⟨.own (.discovery .noResults), [], []⟩
    else ⟨.ok, [], eprs⟩
  | .mdQuery svcMdid =>
    if e.refusal.isSome then ⟨e.refusalRc, [], []⟩
    else if svcMdid = [] then ⟨.ok, directory.metadatas, []⟩
    else ⟨.ok, directory.metadatas.filter fun metadata =>
      metadata.svcMdid.any (svcMdid.contains ·), []⟩
  | _ => ⟨e.refusalRc, [], []⟩

/-- A run of exchanges. -/
def run (directory : Directory) : List Exchange → List View × Directory
  | [] => ([], directory)
  | e :: es =>
    let (views, final) := (directory.after e).run es
    (directory.view e :: views, final)

end Directory

/-! ## One exchange -/

/-- What is written is read, with the same body. -/
def Carries {τ : Type} (cx : DirectoryContext τ) : Prop :=
  ∀ envelope, ∃ text, cx.writeEnvelope envelope = some text ∧
    ∃ received, cx.readEnvelope text = some received ∧ received.body = envelope.body

/-- The client has no reference, or one with a token that was received. -/
def CanAsk (epr : Option WsAddrEndpointReference) : Prop :=
  ∀ e ∈ epr, ∃ token xmlnode,
    e.getSecurityToken IdWsf.Soap.securityMechIdIsBearerAuthentication = some (some token) ∧
      token.originalXmlnode = some xmlnode

/-- A refusal says so, and what is drawn is not empty. -/
structure Exchange.Fits (e : Exchange) : Prop where
  refused : e.refusal.isSome → e.refusalRc ≠ .ok
  drawn : ∀ i, e.draw i ≠ ""

/-- The content of a request. -/
def Ask.message : Ask → DiscoMessage
  | register svcMd => .svcMdRegister svcMd
  | query requestedService => .query requestedService
  | mdQuery svcMdid => .svcMdQuery svcMdid
  | mdDelete svcMdid => .svcMdDelete svcMdid
  | associationAdd svcMdid => .svcMdAssociationAdd svcMdid
  | associationDelete svcMdid => .svcMdAssociationDelete svcMdid
  | associationQuery svcMdid => .svcMdAssociationQuery svcMdid

/-- The metadata that are asked about by themselves. -/
def Ask.metadatas : Ask → List DiscoSvcMetadata
  | register svcMd => svcMd
  | _ => []

/-- The metadata of a directory once it has taken what is asked. -/
def Ask.registered (metadatas : List DiscoSvcMetadata) : Ask → List DiscoSvcMetadata
  | register svcMd => svcMd
  | _ => metadatas

/-- The directory that an object stands for. -/
def Discovery.directory {τ : Type} (cx : DirectoryContext τ) (discovery : Discovery τ) :
    Directory where
  cx := cx.disco
  principal := { server := discovery.profile.server, identity := discovery.identity }
  metadatas := discovery.metadatas

/-- The status of a response. -/
def Exchange.status (e : Exchange) : UtilStatus :=
  e.refusal.elim (utilStatusNewWithCode (some "OK") none) fun codes =>
    utilStatusNewWithCode codes.1 codes.2

/-- The response that an exchange gets from the directory. -/
def Directory.response (directory : Directory) (e : Exchange) : DiscoMessage :=
  match e.ask with
  | .register _ => .svcMdRegisterResponse e.status
    (if e.refusal.isNone then (directory.after e).metadatas.filterMap (·.svcMdid) else [])
  | .query query =>
    let eprs := validateRequestQuery directory.cx directory.principal directory.metadatas query
    if e.refusal.isSome then .queryResponse e.status []
    else if eprs = [] then .queryResponse (utilStatusNewWithCode (some "NoResults") none) []
    else .queryResponse e.status eprs
  | .mdQuery svcMdid => .svcMdQueryResponse e.status <|
    if e.refusal.isSome then []
    else if svcMdid = [] then directory.metadatas
    else directory.metadatas.filter fun metadata => metadata.svcMdid.any (svcMdid.contains ·)
  | .mdDelete _ => .svcMdDeleteResponse e.status
  | .associationAdd _ => .svcMdAssociationAddResponse e.status
  | .associationDelete _ => .svcMdAssociationDeleteResponse e.status
  | .associationQuery svcMdid => .svcMdAssociationQueryResponse e.status
    (if e.refusal.isNone then svcMdid else [])

section

variable {τ : Type} {cx : DirectoryContext τ} {client server : Discovery τ} {e : Exchange}

theorem foldl_addServiceMetadata (svcMd : List DiscoSvcMetadata) (discovery : Discovery τ) :
    svcMd.foldl Discovery.addServiceMetadata discovery =
      { discovery with metadatas := discovery.metadatas ++ svcMd } := by
  induction svcMd generalizing discovery with
  | nil => simp
  | cons metadata svcMd ih => simp [ih, Discovery.addServiceMetadata]

theorem foldl_addRequestedService (requestedService : List DiscoRequestedService)
    (discovery : Discovery τ) :
    requestedService.foldl Discovery.addRequestedService discovery =
      { discovery with
        requestedServices := discovery.requestedServices ++ requestedService } := by
  induction requestedService generalizing discovery with
  | nil => simp
  | cons service requestedService ih => simp [ih, Discovery.addRequestedService]

/-- What is added to a new request is what it asks for. -/
theorem fillRequest_add (discovery : Discovery τ) (ask : Ask)
    (hmetadatas : discovery.metadatas = []) (hservices : discovery.requestedServices = []) :
    (discovery.add ask).fillRequest ask.element = some ask.message ∧
      (discovery.add ask).metadatas = ask.metadatas ∧
      (discovery.add ask).profile = discovery.profile := by
  cases ask <;> simp [Discovery.add, Ask.element, Ask.message, Ask.metadatas, Discovery.fillRequest,
    foldl_addServiceMetadata, foldl_addRequestedService, Discovery.setSvcMdids, hmetadatas,
    hservices]

/-- The body of the envelope that a text is read as. -/
def ReadsAs (cx : DirectoryContext τ) (text : Option τ) (message : DiscoMessage) : Prop :=
  ∃ t received, text = some t ∧ cx.readEnvelope t = some received ∧
    received.body = some [.content message]

theorem readsAs_writeEnvelope (hcarries : Carries cx) {envelope : SoapEnvelope DiscoMessage}
    {message : DiscoMessage} (hbody : envelope.body = some [.content message]) :
    ReadsAs cx (cx.writeEnvelope envelope) message := by
  obtain ⟨text, hwrite, received, hread, hsame⟩ := hcarries envelope
  exact ⟨text, received, hwrite, hread, hsame.trans hbody⟩

/-- A new request has an empty element, and nothing is added to it. -/
theorem initRequest_spec (hask : CanAsk client.profile.epr) (messageId : String)
    (element : DiscoMessage) : ∃ started envelope,
      client.initRequest messageId element = (.ok, started) ∧
        started.profile.epr = client.profile.epr ∧
        started.profile.request = some (.content element) ∧
        started.profile.soapEnvelopeRequest = some envelope ∧
        envelope.body = some [.content element] ∧
        started.metadatas = [] ∧ started.requestedServices = [] := by
  have hcontext : client.profile.epr.any (fun epr => (epr.getSecurityContext
      IdWsf.Soap.securityMechIdIsBearerAuthentication).isNone) = false := by
    cases hepr : client.profile.epr with
    | none => rfl
    | some epr =>
      obtain ⟨token, _, htoken, -⟩ := hask epr hepr
      obtain ⟨context, hcontext, -⟩ := Option.map_eq_some_iff.mp htoken
      simp [hcontext]
  simp only [Discovery.initRequest, WsfProfile.initRequest, hcontext]
  exact ⟨_, _, rfl, rfl, rfl, rfl, rfl, rfl, rfl⟩

/-- A request that was filled is written, with its body. -/
theorem buildRequestMsg_spec {profile : WsfProfile DiscoMessage τ} {message : DiscoMessage}
    {envelope : SoapEnvelope DiscoMessage} (hcarries : Carries cx) (hask : CanAsk profile.epr)
    (henvelope : profile.soapEnvelopeRequest = some envelope)
    (hbody : envelope.body = some [.content message]) (securityMechId : Option String) :
    ∃ final, profile.buildRequestMsg cx.toWsfContext securityMechId = some (.ok, final) ∧
      final.epr = profile.epr ∧ final.request = profile.request ∧
      ReadsAs cx final.msgBody message := by
  obtain ⟨bound, sent, hbind, hepr, hrequest, hsent, hsame⟩ : ∃ bound sent,
      profile.bindToEpr securityMechId = some (.ok, bound) ∧ bound.epr = profile.epr ∧
        bound.request = profile.request ∧ bound.soapEnvelopeRequest = some sent ∧
        sent.body = some [.content message] := by
    cases hepr : profile.epr with
    | none => exact ⟨profile, envelope, by simp [WsfProfile.bindToEpr, hepr], hepr, rfl, henvelope,
        hbody⟩
    | some epr =>
      obtain ⟨token, xmlnode, htoken, hxmlnode⟩ := hask epr hepr
      simp only [WsfProfile.bindToEpr, hepr]
      split
      · simp [WsfProfile.attachBearerToken, htoken, hxmlnode, henvelope,
          SoapEnvelope.addSecurityToken, hbody]
      · exact ⟨_, envelope, rfl, rfl, rfl, henvelope, hbody⟩
  have hreads := readsAs_writeEnvelope hcarries hsame
  refine ⟨{ bound with msgBody := cx.writeEnvelope sent }, ?_, hepr, hrequest, hreads⟩
  obtain ⟨text, -, hwrite, -⟩ := hreads
  simp [WsfProfile.buildRequestMsg, hbind, hsent, hwrite]

/-- What is asked goes to the discovery service. -/
theorem makeRequest_spec (hcarries : Carries cx) (hask : CanAsk client.profile.epr)
    (e : Exchange) : ∃ asked, client.makeRequest cx e = some (.ok, asked) ∧
      asked.profile.epr = client.profile.epr ∧
      asked.profile.request = some (.content e.ask.message) ∧
      asked.metadatas = e.ask.metadatas ∧ ReadsAs cx asked.profile.msgBody e.ask.message := by
  obtain ⟨started, envelope, hinit, hepr, hrequest, henvelope, hbody, hnone, hnone'⟩ :=
    initRequest_spec hask e.requestId e.ask.element
  obtain ⟨hfill, hmetadatas, hprofile⟩ := fillRequest_add started e.ask hnone hnone'
  rw [← hepr, ← hprofile] at hask
  rw [← hprofile] at hrequest henvelope
  set added := started.add e.ask with hadded
  obtain ⟨final, hbuild, hepr', hrequest', hreads⟩ :=
    @buildRequestMsg_spec _ cx (added.setRequest e.ask.message).profile _ _ hcarries hask
      (by rw [Discovery.setRequest, henvelope, Option.map_some])
      (by rw [hbody]; rfl) e.securityMechId
  refine ⟨{ added.setRequest e.ask.message with profile := final }, ?_, ?_, hrequest',
    hmetadatas, hreads⟩
  · simp [Discovery.makeRequest, hinit, Discovery.buildRequestMsg, Discovery.request, hrequest,
      hfill, hbuild, ← hadded]
  · rw [hepr', ← hepr, ← hprofile]
    rfl

/-- The request reaches the discovery service, which takes what is registered. -/
theorem processRequestMsg_spec {text : τ} {received : SoapEnvelope DiscoMessage}
    (hread : cx.readEnvelope text = some received)
    (hbody : received.body = some [.content e.ask.message])
    (hserver : server.profile.server.isSome) : ∃ taken envelope,
      server.processRequestMsg cx text e.responseIds.1 e.responseIds.2 = some (.ok, taken) ∧
        taken.profile.server = server.profile.server ∧ taken.identity = server.identity ∧
        taken.profile.request = some (.content e.ask.message) ∧
        taken.profile.soapEnvelopeResponse = some envelope ∧ envelope.body = some [] ∧
        taken.metadatas = e.ask.registered server.metadatas ∧
        ∀ svcMdid, e.ask = .associationQuery svcMdid → taken.svcMdids = svcMdid := by
  obtain ⟨s, hs⟩ := Option.isSome_iff_exists.mp hserver
  cases hask : e.ask <;>
    simp [Discovery.processRequestMsg, WsfProfile.processRequestMsg, WsfProfile.addFaultForRc,
      hread, hbody, hs, hask, Ask.message, Ask.registered, Discovery.takeRequest, Discovery.request,
      buildSoapEnvelope]

/-- The response that will be written. -/
def Sends (discovery : Discovery τ) (message : DiscoMessage) : Prop :=
  ∃ sent, discovery.profile.soapEnvelopeResponse = some sent ∧ sent.body = some [.content message]

theorem sends_respond {discovery : Discovery τ} {envelope : SoapEnvelope DiscoMessage}
    (henvelope : discovery.profile.soapEnvelopeResponse = some envelope)
    (hbody : envelope.body = some []) (message : DiscoMessage) :
    Sends (discovery.respond (.content message)) message :=
  ⟨envelope.addToBody (.content message), by simp [Discovery.respond, henvelope],
    by simp [SoapEnvelope.addToBody, hbody]⟩

theorem sends_respond_init (discovery : Discovery τ) (responseId : String)
    (message : DiscoMessage) :
    Sends ({ discovery with profile := discovery.profile.initResponse responseId }.respond
      (.content message)) message :=
  @sends_respond _ { discovery with profile := discovery.profile.initResponse responseId } _ rfl rfl
    message

@[simp] theorem directory_respond (discovery : Discovery τ) (response : BodyNode DiscoMessage) :
    (discovery.respond response).directory cx = discovery.directory cx := rfl

@[simp] theorem directory_init (discovery : Discovery τ) (responseId : String) :
    ({ discovery with profile := discovery.profile.initResponse responseId }).directory cx =
      discovery.directory cx := rfl

/-- A request that is refused gets the codes, and nothing else. -/
theorem failRequest_spec {taken : Discovery τ} {codes : Option String × Option String}
    (hrequest : taken.profile.request = some (.content e.ask.message))
    (hrefusal : e.refusal = some codes) (directory : Directory) :
    Sends (taken.failRequest e.responseIds.2 codes.1 codes.2) (directory.response e) ∧
      (taken.failRequest e.responseIds.2 codes.1 codes.2).directory cx = taken.directory cx := by
  have hrequest' : taken.request = some e.ask.message := by simp [Discovery.request, hrequest]
  refine ⟨?_, by simp [Discovery.failRequest]⟩
  cases hask : e.ask <;>
    simp only [Discovery.failRequest, hrequest', hask, Ask.message, Discovery.failResponse,
      Directory.response, Exchange.status, hrefusal, Option.isSome_some, Option.isNone_some,
      Option.elim_some, if_true, Bool.false_eq_true, if_false] <;>
    exact sends_respond_init ..

/-- A query is answered from the directory. -/
theorem validateQuery_spec {taken : Discovery τ} {query : List DiscoRequestedService}
    (hrequest : taken.request = some (.query query)) (hask : e.ask = .query query)
    (hrefusal : e.refusal = none) :
    Sends (taken.validateQuery cx e.responseIds.2 query) ((taken.directory cx).response e) ∧
      (taken.validateQuery cx e.responseIds.2 query).directory cx = taken.directory cx := by
  by_cases hnone : validateRequestQuery cx.disco
      { server := taken.profile.server, identity := taken.identity } taken.metadatas query = []
  · simp only [Discovery.validateQuery, hnone, ne_eq, not_true_eq_false, if_false,
      Discovery.failRequest, hrequest, Discovery.failResponse, Directory.response, hask, hrefusal,
      Discovery.directory, Option.isSome_none, Bool.false_eq_true, if_true]
    exact ⟨sends_respond_init .., rfl⟩
  · simp only [Discovery.validateQuery, hnone, ne_eq, not_false_eq_true, if_true,
      Directory.response, hask, hrefusal, Discovery.directory, Exchange.status, Option.elim_none,
      Option.isSome_none, Bool.false_eq_true, if_false]
    exact ⟨sends_respond_init .., rfl⟩

/-- A request that is not refused gets the response of the directory. -/
theorem validateRequest_spec {taken : Discovery τ} {envelope : SoapEnvelope DiscoMessage}
    {directory : Directory}
    (hrequest : taken.profile.request = some (.content e.ask.message))
    (henvelope : taken.profile.soapEnvelopeResponse = some envelope)
    (hbody : envelope.body = some []) (hrefusal : e.refusal = none)
    (htaken : taken.directory cx =
      { directory with metadatas := e.ask.registered directory.metadatas })
    (hsvcMdids : ∀ svcMdid, e.ask = .associationQuery svcMdid → taken.svcMdids = svcMdid) :
    Sends (taken.validateRequest cx e.draw e.responseIds.2).2 (directory.response e) ∧
      (taken.validateRequest cx e.draw e.responseIds.2).2.directory cx = directory.after e := by
  have hrequest' : taken.request = some e.ask.message := by simp [Discovery.request, hrequest]
  have hstatus : e.status = utilStatusNewWithCode (some "OK") none := by
    simp [Exchange.status, hrefusal]
  cases hask : e.ask with
  | register svcMd =>
    simp only [Discovery.directory, Directory.mk.injEq] at htaken
    simp only [Discovery.validateRequest, hrequest', hask, Ask.message, Directory.response,
      hstatus, Directory.after, hrefusal, Option.isNone_none, if_true]
    refine ⟨sends_respond_init .., ?_⟩
    simp [Discovery.validateMdRegister, Discovery.directory, Discovery.respond,
      WsfProfile.initResponse, htaken]
  | query query =>
    obtain rfl : taken.directory cx = directory := by simpa [hask, Ask.registered] using htaken
    simpa [Discovery.validateRequest, hrequest', hask, Ask.message, Directory.after] using
      validateQuery_spec (by simp [hrequest', hask, Ask.message]) hask hrefusal
  | mdQuery svcMdid =>
    obtain rfl : taken.directory cx = directory := by simpa [hask, Ask.registered] using htaken
    have hfound : (if svcMdid ≠ [] then taken.metadatas.filter fun metadata =>
          stringListContains svcMdid metadata.svcMdid else taken.metadatas) =
        if svcMdid = [] then taken.metadatas else taken.metadatas.filter fun metadata =>
          metadata.svcMdid.any (svcMdid.contains ·) := by
      by_cases hnone : svcMdid = []
      · simp [hnone]
      · simp only [ne_eq, hnone, not_false_eq_true, if_true, if_false]
        refine List.filter_congr fun metadata _ => ?_
        rw [Bool.eq_iff_iff, stringListContains_iff]
        cases metadata.svcMdid <;> simp [hnone]
    simp only [Discovery.validateRequest, hrequest', hask, Ask.message, Directory.after,
      Directory.response, hstatus, hrefusal, hfound]
    exact ⟨sends_respond henvelope hbody _, rfl⟩
  | mdDelete svcMdid | associationAdd svcMdid | associationDelete svcMdid =>
    obtain rfl : taken.directory cx = directory := by simpa [hask, Ask.registered] using htaken
    simpa [Discovery.validateRequest, hrequest', hask, Ask.message, Directory.after,
      Directory.response, hstatus] using sends_respond henvelope hbody _
  | associationQuery svcMdid =>
    obtain rfl : taken.directory cx = directory := by simpa [hask, Ask.registered] using htaken
    simpa [Discovery.validateRequest, hrequest', hask, Ask.message, Directory.after,
      Directory.response, hstatus, hrefusal, hsvcMdids svcMdid hask] using
      sends_respond henvelope hbody _

/-- The discovery service answers from its directory. -/
theorem answer_spec (hcarries : Carries cx) (hserver : server.profile.server.isSome)
    {text : τ} {received : SoapEnvelope DiscoMessage}
    (hread : cx.readEnvelope text = some received)
    (hbody : received.body = some [.content e.ask.message]) :
    ∃ answered, server.answer cx e text = some answered ∧
      ReadsAs cx answered.profile.msgBody ((server.directory cx).response e) ∧
      answered.directory cx = (server.directory cx).after e := by
  obtain ⟨taken, envelope, hprocess, hserver', hidentity, hrequest, henvelope, hempty, hmetadatas,
    hsvcMdids⟩ := processRequestMsg_spec hread hbody hserver
  have htaken : taken.directory cx = { server.directory cx with
      metadatas := e.ask.registered (server.directory cx).metadatas } := by
    simp [Discovery.directory, hserver', hidentity, hmetadatas]
  obtain ⟨⟨sent, hsent, hresponse⟩, hafter⟩ : Sends (taken.reply cx e)
      ((server.directory cx).response e) ∧
        (taken.reply cx e).directory cx = (server.directory cx).after e := by
    cases hrefusal : e.refusal with
    | none =>
      simpa [Discovery.reply, hrefusal] using
        validateRequest_spec hrequest henvelope hempty hrefusal htaken hsvcMdids
    | some codes =>
      obtain ⟨hsends, hsame⟩ :=
        @failRequest_spec _ cx _ _ _ hrequest hrefusal (server.directory cx)
      refine ⟨by simpa [Discovery.reply, hrefusal] using hsends, ?_⟩
      rw [Discovery.reply, hrefusal, hsame, htaken, Directory.after, hrefusal]
      cases e.ask <;> rfl
  refine ⟨_, by rw [Discovery.answer, hprocess]; rfl, ?_, ?_⟩
  · simpa [WsfProfile.buildResponseMsg, hsent] using readsAs_writeEnvelope hcarries hresponse
  · simpa [WsfProfile.buildResponseMsg, hsent, Discovery.directory] using hafter

/-- The code of a status that the application gives is the one of the exchange. -/
theorem status2rc_status (e : Exchange) : status2rc e.status = e.refusalRc := by
  cases hrefusal : e.refusal <;> simp [Exchange.status, Exchange.refusalRc, hrefusal]
  rfl

theorem filterMap_assignIds (draw : Nat → String) (svcMd : List DiscoSvcMetadata) :
    (Discovery.assignIds draw svcMd).filterMap (·.svcMdid) = svcMd.mapIdx fun i _ => draw i := by
  induction svcMd generalizing draw with
  | nil => rfl
  | cons metadata svcMd ih =>
    simpa [Discovery.assignIds, List.mapIdx_cons] using ih fun i => draw (i + 1)

/-- The identifiers of a response fit, and give what the directory has. -/
theorem zipWith_assignIds (draw : Nat → String) (hdrawn : ∀ i, draw i ≠ "")
    (svcMd : List DiscoSvcMetadata) :
    Discovery.idsFit ((Discovery.assignIds draw svcMd).filterMap (·.svcMdid)) svcMd = true ∧
      List.zipWith (fun metadata id => { metadata with svcMdid := some id }) svcMd
        ((Discovery.assignIds draw svcMd).filterMap (·.svcMdid)) =
          Discovery.assignIds draw svcMd := by
  rw [filterMap_assignIds]
  constructor
  · simp only [Discovery.idsFit, List.length_mapIdx, beq_self_eq_true, Bool.true_and,
      List.all_eq_true, List.mem_mapIdx]
    rintro _ ⟨i, _, rfl⟩
    simp [hdrawn i]
  · exact List.ext_getElem (by simp [Discovery.assignIds]) (by simp [Discovery.assignIds])

/-- The one that asks has the view of the exchange once the response is there. -/
theorem takeResponse_spec (hfits : e.Fits) {asked : Discovery τ} (directory : Directory)
    (hrequest : asked.profile.request = some (.content e.ask.message))
    (hresponse : asked.profile.response = some (.content (directory.response e)))
    (hmetadatas : asked.metadatas = e.ask.metadatas) :
    ∃ final, asked.takeResponse = some ((directory.view e).rc, final) ∧
      final.metadatas = (directory.view e).metadatas ∧
      final.getEndpointReferences = (directory.view e).endpointReferences ∧
      final.profile.epr = asked.profile.epr := by
  have hrequest' : asked.request = some e.ask.message := by simp [Discovery.request, hrequest]
  have hrefused : e.refusal.isSome → status2rc e.status ≠ .ok := fun h => by
    rw [status2rc_status]
    exact hfits.refused h
  have haccepted (h : e.refusal = none) : status2rc e.status = .ok := by
    simp [status2rc_status, Exchange.refusalRc, h]
  cases hask : e.ask with
  | register svcMd =>
    cases hrefusal : e.refusal with
    | none =>
      obtain ⟨hfit, hzip⟩ := zipWith_assignIds e.draw hfits.drawn svcMd
      have hstatus := haccepted hrefusal
      simp [Discovery.takeResponse, hrequest, hrequest', hresponse, hask, Ask.message,
        Directory.response, Directory.view, Directory.after, hrefusal, hstatus, hfit, hzip,
        Exchange.refusalRc, Discovery.processMetadataRegisterResponseMsg, Discovery.setRequest,
        Discovery.getEndpointReferences]
    | some codes =>
      have hstatus := hrefused (by simp [hrefusal])
      simp [Discovery.takeResponse, hrequest, hrequest', hresponse, hask, Ask.message,
        Directory.response, Directory.view, Directory.after, hrefusal, hstatus, hmetadatas,
        Ask.metadatas, Discovery.processMetadataRegisterResponseMsg,
        Discovery.getEndpointReferences, ← status2rc_status]
  | query query =>
    cases hrefusal : e.refusal with
    | none =>
      have hstatus := haccepted hrefusal
      by_cases hnone : validateRequestQuery directory.cx directory.principal directory.metadatas
          query = [] <;>
        simp [Discovery.takeResponse, hrequest, hrequest', hresponse, hask, Ask.message,
          Directory.response, Directory.view, hrefusal, hnone, hstatus, hmetadatas, Ask.metadatas,
          Discovery.getEndpointReferences]
      rfl
    | some codes =>
      simp [Discovery.takeResponse, hrequest, hrequest', hresponse, hask, Ask.message,
        Directory.response, Directory.view, hrefusal, hmetadatas, Ask.metadatas,
        Discovery.getEndpointReferences, status2rc_status]
  | mdQuery svcMdid =>
    cases hrefusal : e.refusal with
    | none =>
      have hstatus := haccepted hrefusal
      by_cases hnone : svcMdid = [] <;>
        simp [Discovery.takeResponse, hrequest, hrequest', hresponse, hask, Ask.message,
          Directory.response, Directory.view, hrefusal, hnone, hstatus,
          Discovery.getEndpointReferences]
    | some codes =>
      have hstatus := hrefused (by simp [hrefusal])
      simp [Discovery.takeResponse, hrequest, hrequest', hresponse, hask, Ask.message,
        Directory.response, Directory.view, hrefusal, hstatus, hmetadatas, Ask.metadatas,
        Discovery.getEndpointReferences, ← status2rc_status]
  | mdDelete svcMdid | associationAdd svcMdid | associationDelete svcMdid =>
    simp [Discovery.takeResponse, hrequest, hrequest', hresponse, hask, Ask.message,
      Directory.response, Directory.view, hmetadatas, Ask.metadatas,
      Discovery.getEndpointReferences, status2rc_status]
  | associationQuery svcMdid =>
    by_cases hok : status2rc e.status = .ok <;>
      simp [Discovery.takeResponse, hrequest, hrequest', hresponse, hask, Ask.message,
        Directory.response, Directory.view, hmetadatas, Ask.metadatas,
        Discovery.getEndpointReferences, ← status2rc_status, hok]

/-- The one that asks has the view of the exchange. -/
theorem processResponseMsg_spec (hfits : e.Fits) {asked : Discovery τ} {text : τ}
    {received : SoapEnvelope DiscoMessage} (directory : Directory)
    (hread : cx.readEnvelope text = some received)
    (hbody : received.body = some [.content (directory.response e)])
    (hrequest : asked.profile.request = some (.content e.ask.message))
    (hmetadatas : asked.metadatas = e.ask.metadatas) :
    ∃ final, asked.processResponseMsg cx text = some ((directory.view e).rc, final) ∧
      final.metadatas = (directory.view e).metadatas ∧
      final.getEndpointReferences = (directory.view e).endpointReferences ∧
      final.profile.epr = asked.profile.epr := by
  simp only [Discovery.processResponseMsg, WsfProfile.processResponseMsg, hread, hbody,
    List.head?_cons, WsfProfile.signalSoapFault, ne_eq, not_true_eq_false, if_false]
  exact takeResponse_spec hfits directory hrequest rfl hmetadatas

/-! ## Runs -/

/-- One exchange is one of the directory. -/
theorem exchange_refines (hcarries : Carries cx) (hask : CanAsk client.profile.epr)
    (hserver : server.profile.server.isSome) (hfits : e.Fits) :
    ∃ client' server',
      exchange cx client server e = some (((server.directory cx).view e).rc, client', server') ∧
        client'.metadatas = ((server.directory cx).view e).metadatas ∧
        client'.getEndpointReferences = ((server.directory cx).view e).endpointReferences ∧
        client'.profile.epr = client.profile.epr ∧
        server'.directory cx = (server.directory cx).after e := by
  obtain ⟨asked, hmake, hepr, hrequest, hmetadatas, text, received, htext, hread, hbody⟩ :=
    makeRequest_spec hcarries hask e
  obtain ⟨answered, hanswer, ⟨text', received', htext', hread', hbody'⟩, hafter⟩ :=
    answer_spec hcarries hserver hread hbody
  obtain ⟨final, hprocess, hview, hview', hepr'⟩ :=
    processResponseMsg_spec hfits (server.directory cx) hread' hbody' hrequest hmetadatas
  refine ⟨final, answered, ?_, hview, hview', hepr'.trans hepr, hafter⟩
  simp [exchange, hmake, htext, hanswer, htext', hprocess]

end

def directoryContext : DirectoryContext (SoapEnvelope DiscoMessage) where
  toContext := .refusing
  readEnvelope := some
  writeEnvelope := some
  roles _ := 0
  faultForRc _ := {}
  disco := {
    sameFramework _ _ := false
    stamp _ _ _ _ _ := ⟨"token", 1000000⟩
    encryptNameId _ _ := none
    setupSignature _ := .ok }
  servicesAsStrings _ := []

/-- The reference of a discovery service, with a token that was received. -/
def directoryEpr : WsAddrEndpointReference where
  address := some "https://disco/soap"
  metadata := some [tokenContext (.other (some (.text "token")))
    ["urn:liberty:security:2005-02:TLS:Bearer"]]

def directoryClient : Discovery (SoapEnvelope DiscoMessage) where
  profile := { epr := some directoryEpr }

def directoryServer : Discovery (SoapEnvelope DiscoMessage) where
  profile := { server := some { provider := { providerId := some "https://disco/metadata" } } }

def askFor (ask : Ask) (refusal : Option (Option String × Option String)) : Exchange where
  ask := ask
  refusal := refusal
  requestId := "request"
  responseIds := ("response", "answer")
  draw i := String.ofList ('m' :: List.replicate i 'i')

/-- Metadata are registered, a query is refused, and the metadata are asked for. -/
def directoryAsks : List Exchange :=
  [askFor (.register [{ abstract := some "profile" }]) none,
    askFor (.query []) (some (some "Failed", some "Forbidden")),
    askFor (.mdQuery ["m"]) none]

end Lasso.IdWsf2
