import Lasso.IdFf.ProtocolProfile

/-!
# ID-FF 1.2 name identifier mapping

A service provider asks the identity provider by which name identifier a principal is known in
another namespace. The identity provider answers with the identifier of its federation there.

## Main results

* `discloses_iff` — when a response carries an identifier.
* `disclosesToEntitled_iff` — when it does so for the right requester only.
* `not_mapsEndToEnd` — no exchange gives the service provider that identifier.
-/

namespace Lasso

/-! ## Messages -/

/-- `LassoLibNameIdentifierMappingRequest` -/
structure LibNameIdentifierMappingRequest extends SamlpRequestAbstract where
  providerId : Option String := none
  nameIdentifier : Option LassoNode := none
  targetNamespace : Option String := none
  consent : Option String := none

/-- `LassoLibNameIdentifierMappingResponse` -/
structure LibNameIdentifierMappingResponse where
  inResponseTo : Option String := none
  recipient : Option String := none
  providerId : Option String := none
  status : Option Status := none
  nameIdentifier : Option LassoNode := none

/-- `LassoNameIdentifierMapping` with the fields of its profile. -/
structure NameIdentifierMapping where
  server : Server
  request : Option LibNameIdentifierMappingRequest := none
  response : Option LibNameIdentifierMappingResponse := none
  nameIdentifier : Option LassoNode := none
  remoteProviderId : Option String := none
  msgUrl : Option String := none
  msgBody : Option Bytes := none
  identity : Option Identity := none
  httpRequestMethod : HttpMethod := .any
  signatureStatus : Rc := .ok
  targetNameIdentifier : Option String := none

/-- What a mapping rests on besides. -/
structure MappingContext extends Context where
  /-- `LassoLibNameIdentifierMappingRequest` -/
  libNameIdentifierMappingRequest : NodeClass LibNameIdentifierMappingRequest
  /-- `LassoLibNameIdentifierMappingResponse` -/
  libNameIdentifierMappingResponse : NodeClass LibNameIdentifierMappingResponse
  /-- `lasso_node_export_to_soap` of a request, signed by the server -/
  exportRequest : Server → LibNameIdentifierMappingRequest → Option Bytes
  /-- `lasso_node_export_to_soap` of a response, signed by the server -/
  exportResponse : Server → LibNameIdentifierMappingResponse → Option Bytes

namespace NameIdentifierMapping

/-- `lasso_server_get_provider` on the server of the mapping, for the remote provider. -/
def remoteProvider (mapping : NameIdentifierMapping) : Option Provider :=
  mapping.server.getProvider mapping.remoteProviderId

/-! ## At the service provider -/

/-- `lasso_name_identifier_mapping_init_request`; the identifier of the request is given. -/
def initRequest (mapping : NameIdentifierMapping) (targetNamespace remoteProviderId : String)
    (uniqueId : String) : Rc × NameIdentifierMapping :=
  match mapping.identity with
  | none => (.profile .identityNotFound, mapping)
  | some identity =>
    let mapping := { mapping with remoteProviderId := some remoteProviderId }
    match mapping.remoteProvider with
    | none => (.server .providerNotFound, mapping)
    | some remoteProvider =>
      if remoteProvider.role ≠ .idp then
        (.nameIdentifierMapping .forbiddenCallOnThisSide, mapping)
      else
        match identity.federations.lookup remoteProviderId with
        | none => (.profile .federationNotFound, mapping)
        | some federation =>
          match federation.localNameIdentifier.or federation.remoteNameIdentifier with
          | none => (.profile .nameIdentifierNotFound, mapping)
          | some nameIdentifier =>
            let (accepted, server) :=
              mapping.server.acceptHttpMethod remoteProvider .nameIdentifierMapping .redirect true
            let mapping := { mapping with server, httpRequestMethod := .none }
            if !accepted then (.profile .unsupportedProfile, mapping)
            else
              let minorVersion :=
                if remoteProvider.conformance ∈ [.none, .liberty10, .liberty11] then 1 else 2
              (.ok, { mapping with
                request := some {
                  requestId := some uniqueId
                  majorVersion := 1
                  minorVersion
                  providerId := server.provider.providerId
                  nameIdentifier := some nameIdentifier
                  targetNamespace := some targetNamespace }
                httpRequestMethod := .soap })

/-- `lasso_name_identifier_mapping_build_request_msg`; a mapping without request does not get
here. -/
def buildRequestMsg (cx : MappingContext) (mapping : NameIdentifierMapping) :
    Rc × NameIdentifierMapping :=
  let mapping := { mapping with msgUrl := none, msgBody := none }
  if mapping.remoteProviderId.isNone then (.profile .missingRemoteProviderid, mapping)
  else
    match mapping.remoteProvider with
    | none => (.server .providerNotFound, mapping)
    | some remoteProvider =>
      if remoteProvider.role ≠ .idp then
        (.nameIdentifierMapping .forbiddenCallOnThisSide, mapping)
      else
        match remoteProvider.getMetadataOne "SoapEndpoint" with
        | none => (.profile .unknownProfileUrl, mapping)
        | some url =>
          let mapping := { mapping with
            msgUrl := some url
            msgBody := mapping.request.bind (cx.exportRequest mapping.server) }
          (if mapping.msgBody.isNone then .profile .buildingMessageFailed else .ok, mapping)

/-- The response that a message is parsed to. -/
def readResponse (cx : MappingContext) (text : Bytes) :
    ParsedMessage LibNameIdentifierMappingResponse :=
  initFromMessageWithFormat cx.toEnv cx.libNameIdentifierMappingResponse {} text .unknown

/-- `lasso_name_identifier_mapping_process_response_msg`. The target identifier is taken from the
request. A mapping without request does not return, if it gets that far. -/
def processResponseMsg (cx : MappingContext) (mapping : NameIdentifierMapping)
    (responseMsg : Bytes) : Option (Rc × NameIdentifierMapping) :=
  let m := readResponse cx responseMsg
  let mapping := { mapping with response := some m.node }
  if m.format = .unknown ∨ m.format = .error then some (.profile .invalidMsg, mapping)
  else
    match mapping.remoteProvider with
    | none => some (.server .providerNotFound, mapping)
    | some remoteProvider =>
      let rc := remoteProvider.verifySignature cx.toEnv (some responseMsg) (some "ResponseID")
        m.format
      match m.node.status.bind (·.statusCode) with
      | none => some (.profile .missingStatusCode, mapping)
      | some statusCode =>
        if statusCode.value ≠ some samlStatusCodeSuccess then
          some (.profile .statusNotSuccess, mapping)
        else
          mapping.request.map fun request =>
            match request.nameIdentifier with
            | some nameIdentifier =>
              (rc, { mapping with targetNameIdentifier := nameIdentifier.nameContent })
            | none =>
              (.nameIdentifierMapping .missingTargetIdentifier,
                { mapping with targetNameIdentifier := none })

/-! ## At the identity provider -/

/-- The request that a message is parsed to. -/
def readRequest (cx : MappingContext) (text : Bytes) :
    ParsedMessage LibNameIdentifierMappingRequest :=
  initFromMessageWithFormat cx.toEnv cx.libNameIdentifierMappingRequest {} text .unknown

/-- `lasso_name_identifier_mapping_process_request_msg`. The requester is not the provider that the
request names but the one set on the mapping. -/
def processRequestMsg (cx : MappingContext) (mapping : NameIdentifierMapping)
    (requestMsg : Bytes) : Rc × NameIdentifierMapping :=
  let m := readRequest cx requestMsg
  let mapping := { mapping with request := some m.node }
  if m.format = .unknown ∨ m.format = .error then (.profile .invalidMsg, mapping)
  else
    match mapping.remoteProvider with
    | none => (.server .providerNotFound, mapping)
    | some remoteProvider =>
      let (accepted, server) :=
        mapping.server.acceptHttpMethod remoteProvider .nameIdentifierMapping .redirect false
      let mapping := { mapping with server, remoteProviderId := remoteProvider.providerId }
      if !accepted then (.profile .unsupportedProfile, mapping)
      else
        let signatureStatus := remoteProvider.verifySignature cx.toEnv (some requestMsg)
          (some "RequestID") m.format
        (signatureStatus, { mapping with
          signatureStatus
          httpRequestMethod := .soap
          nameIdentifier := m.node.nameIdentifier })

/-- `lasso_profile_set_response_status` on a mapping. Its response is of neither of the classes
that the function knows, so that the process stops at an assertion. -/
def setResponseStatus (_mapping : NameIdentifierMapping) (_statusCodeValue : String) :
    Option NameIdentifierMapping := none

/-- `lasso_lib_name_identifier_mapping_response_new_full` -/
def newResponse (server : Server) (request : LibNameIdentifierMappingRequest) :
    LibNameIdentifierMappingResponse where
  inResponseTo := request.requestId
  recipient := request.providerId
  providerId := server.provider.providerId
  status := some { statusCode := some { value := some samlStatusCodeSuccess } }

/-- The name identifier of a federation that an identity provider answers with. -/
def federationIdentifier (federation : Federation) : Option LassoNode :=
  federation.remoteNameIdentifier.or federation.localNameIdentifier

/-- The last part of a validation: the federation of the target namespace. -/
def mapIdentifier (mapping : NameIdentifierMapping) (identity : Identity)
    (request : LibNameIdentifierMappingRequest) (response : LibNameIdentifierMappingResponse) :
    Option (Rc × NameIdentifierMapping) :=
  let refuse (rc : Rc) : Option (Rc × NameIdentifierMapping) :=
    (mapping.setResponseStatus libStatusCodeFederationDoesNotExist).map fun mapping => (rc, mapping)
  match request.targetNamespace with
  | none => some (.nameIdentifierMapping .missingTargetNamespace, mapping)
  | some targetNamespace =>
    match identity.federations.lookup targetNamespace with
    | none => refuse (.profile .federationNotFound)
    | some federation =>
      match federationIdentifier federation with
      | none => refuse (.profile .nameIdentifierNotFound)
      | some targetNameIdentifier =>
        some (.ok, { mapping with
          response := some { response with nameIdentifier := some targetNameIdentifier } })

/-- The part of a validation after the response is there. -/
def verifyFederation (mapping : NameIdentifierMapping) (request : LibNameIdentifierMappingRequest)
    (response : LibNameIdentifierMappingResponse) : Option (Rc × NameIdentifierMapping) :=
  let refuse (mapping : NameIdentifierMapping) (rc : Rc) : Option (Rc × NameIdentifierMapping) :=
    (mapping.setResponseStatus libStatusCodeUnknownPrincipal).map fun mapping => (rc, mapping)
  -- verify signature status
  let checked :=
    if mapping.signatureStatus ≠ .ok then mapping.setResponseStatus libStatusCodeInvalidSignature
    else some mapping
  checked.bind fun mapping =>
    match mapping.identity with
    | none => some (.profile .identityNotFound, mapping)
    | some identity =>
      match identity.getFederation mapping.remoteProviderId with
      | none => refuse mapping (.profile .federationNotFound)
      | some federation =>
        match federationIdentifier federation with
        | none => refuse mapping (.profile .nameIdentifierNotFound)
        | some _ => mapIdentifier mapping identity request response

/-- `lasso_name_identifier_mapping_validate_request` -/
def validateRequest (mapping : NameIdentifierMapping) : Option (Rc × NameIdentifierMapping) :=
  if mapping.remoteProviderId.isNone then some (.profile .missingRemoteProviderid, mapping)
  else
    match mapping.remoteProvider with
    | none => some (.server .providerNotFound, mapping)
    | some remoteProvider =>
      if remoteProvider.role ≠ .sp then
        some (.nameIdentifierMapping .forbiddenCallOnThisSide, mapping)
      else
        match mapping.request with
        | none => some (.profile .missingRequest, mapping)
        | some request =>
          if mapping.httpRequestMethod ≠ .soap then some (.profile .invalidHttpMethod, mapping)
          else
            let response := newResponse mapping.server request
            verifyFederation { mapping with response := some response } request response

/-- `lasso_name_identifier_mapping_build_response_msg`; a mapping without response does not get
here. -/
def buildResponseMsg (cx : MappingContext) (mapping : NameIdentifierMapping) :
    Rc × NameIdentifierMapping :=
  let mapping := { mapping with msgUrl := none, msgBody := none }
  if mapping.remoteProviderId.isNone then (.profile .missingRemoteProviderid, mapping)
  else
    match mapping.remoteProvider with
    | none => (.server .providerNotFound, mapping)
    | some remoteProvider =>
      if remoteProvider.role ≠ .sp then
        (.nameIdentifierMapping .forbiddenCallOnThisSide, mapping)
      else if mapping.httpRequestMethod ≠ .soap then (.profile .invalidHttpMethod, mapping)
      else
        (.ok, { mapping with
          msgBody := mapping.response.bind (cx.exportResponse mapping.server) })

/-! ## What is disclosed, and to whom -/

/-- `lasso_name_identifier_mapping_new`, with the identity and the remote provider set on it. -/
def fresh (server : Server) (identity : Option Identity) (remoteProviderId : Option String) :
    NameIdentifierMapping := { server, identity, remoteProviderId }

/-- A request is processed and, whatever the code, validated. -/
def answer (cx : MappingContext) (mapping : NameIdentifierMapping) (requestMsg : Bytes) :
    Option (Rc × NameIdentifierMapping) :=
  validateRequest (processRequestMsg cx mapping requestMsg).2

/-- The response has a name identifier in it. -/
def discloses (mapping : NameIdentifierMapping) : Bool :=
  mapping.response.any (·.nameIdentifier.isSome)

/-- The mapping ends in a state whose response has a name identifier in it. -/
def EndsDisclosing (result : Option (Rc × NameIdentifierMapping)) : Prop :=
  result.any (·.2.discloses) = true

/-- The state of a mapping in which the validation puts a name identifier into the response. -/
def Grants (mapping : NameIdentifierMapping) : Prop :=
  (∃ p, mapping.remoteProvider = some p ∧ p.role = .sp) ∧
    mapping.httpRequestMethod = .soap ∧ mapping.signatureStatus = .ok ∧
    ∃ request identity federation target, mapping.request = some request ∧
      mapping.identity = some identity ∧
      identity.getFederation mapping.remoteProviderId = some federation ∧
      (federationIdentifier federation).isSome ∧
      identity.getFederation request.targetNamespace = some target ∧
      (federationIdentifier target).isSome

/-- The request was verified with a key of the provider that it names, and its name identifier is
one of the federation with that provider. -/
def Entitled (cx : MappingContext) (server : Server) (identity : Option Identity)
    (requestMsg : Bytes) : Prop :=
  let m := readRequest cx requestMsg
  (∃ p, server.getProvider m.node.providerId = some p ∧
      p.MessageVerified cx.toEnv requestMsg m.format) ∧
    ∃ i federation nameIdentifier, identity = some i ∧
      i.getFederation m.node.providerId = some federation ∧
      m.node.nameIdentifier = some nameIdentifier ∧
      federation.verifyNameIdentifier nameIdentifier = true

/-- The checks that a request passes on its way to a response with a name identifier: they are all
about the provider set on the mapping. -/
def Passes (cx : MappingContext) (server : Server) (identity : Option Identity)
    (remoteProviderId : Option String) (requestMsg : Bytes) : Prop :=
  let m := readRequest cx requestMsg
  ∃ p, server.getProvider remoteProviderId = some p ∧
    m.format ≠ .unknown ∧ m.format ≠ .error ∧
    (server.acceptHttpMethod p .nameIdentifierMapping .redirect false).1 = true ∧
    (∃ q, server.getProvider p.providerId = some q ∧ q.role = .sp) ∧
    p.verifySignature cx.toEnv (some requestMsg) (some "RequestID") m.format = .ok ∧
    ∃ i federation target, identity = some i ∧
      i.getFederation p.providerId = some federation ∧ (federationIdentifier federation).isSome ∧
      i.getFederation m.node.targetNamespace = some target ∧
      (federationIdentifier target).isSome

section

variable {cx : MappingContext} {mapping : NameIdentifierMapping}

theorem not_discloses_newResponse {server : Server} {request : LibNameIdentifierMappingRequest}
    (h : mapping.response = some (newResponse server request)) (rc : Rc) :
    ¬ EndsDisclosing (some (rc, mapping)) := by
  simp [EndsDisclosing, discloses, h, newResponse]

/-- The last part of a validation puts an identifier into the response if the federation of the
target namespace has one. -/
theorem endsDisclosing_mapIdentifier {server : Server} {identity : Identity}
    {request : LibNameIdentifierMappingRequest} {response : LibNameIdentifierMappingResponse}
    (h : mapping.response = some (newResponse server request)) :
    EndsDisclosing (mapIdentifier mapping identity request response) ↔
      ∃ target, identity.getFederation request.targetNamespace = some target ∧
        (federationIdentifier target).isSome := by
  unfold mapIdentifier Identity.getFederation
  cases request.targetNamespace with
  | none =>
    refine iff_of_false (not_discloses_newResponse h _) ?_
    rintro ⟨target, htarget, -⟩
    cases htarget
  | some targetNamespace =>
    dsimp only [Option.bind_some]
    cases identity.federations.lookup targetNamespace with
    | none => simp [EndsDisclosing, setResponseStatus]
    | some target =>
      cases htarget : federationIdentifier target with
      | none => simp [EndsDisclosing, setResponseStatus, htarget]
      | some targetNameIdentifier => simp [EndsDisclosing, discloses, htarget]

theorem endsDisclosing_verifyFederation {server : Server}
    {request : LibNameIdentifierMappingRequest} {response : LibNameIdentifierMappingResponse}
    (h : mapping.response = some (newResponse server request)) :
    EndsDisclosing (verifyFederation mapping request response) ↔
      mapping.signatureStatus = .ok ∧ ∃ identity federation target,
        mapping.identity = some identity ∧
        identity.getFederation mapping.remoteProviderId = some federation ∧
        (federationIdentifier federation).isSome ∧
        identity.getFederation request.targetNamespace = some target ∧
        (federationIdentifier target).isSome := by
  unfold verifyFederation
  by_cases hstatus : mapping.signatureStatus = .ok
  · cases hidentity : mapping.identity with
    | none =>
      have hquiet := not_discloses_newResponse h (.profile .identityNotFound)
      simpa [hstatus, hidentity] using hquiet
    | some identity =>
      cases hfederation : identity.getFederation mapping.remoteProviderId with
      | none => simp [hstatus, hidentity, hfederation, EndsDisclosing, setResponseStatus]
      | some federation =>
        cases hidentifier : federationIdentifier federation with
        | none =>
          simp [hstatus, hidentity, hfederation, hidentifier, EndsDisclosing, setResponseStatus]
        | some nameIdentifier =>
          simp [hstatus, hidentity, hfederation, hidentifier, endsDisclosing_mapIdentifier h]
  · simp [hstatus, EndsDisclosing, setResponseStatus]

/-- A validation that starts without a response discloses an identifier exactly in the states that
grant one. -/
theorem endsDisclosing_validateRequest (h : mapping.response = none) :
    EndsDisclosing (validateRequest mapping) ↔ mapping.Grants := by
  have hquiet (rc : Rc) : ¬ EndsDisclosing (some (rc, mapping)) := by
    simp [EndsDisclosing, discloses, h]
  unfold validateRequest Grants
  by_cases hremote : mapping.remoteProviderId.isNone = true
  · have hprovider : mapping.remoteProvider = none := by
      rw [remoteProvider, Option.isNone_iff_eq_none.mp hremote, Server.getProvider_none]
    simp [hremote, hprovider, hquiet]
  · cases hprovider : mapping.remoteProvider with
    | none => simp [hremote, hquiet]
    | some p =>
      by_cases hrole : p.role = .sp
      · cases hrequest : mapping.request with
        | none => simp [hremote, hrole, hquiet]
        | some request =>
          by_cases hmethod : mapping.httpRequestMethod = .soap
          · rw [if_neg hremote]
            dsimp only
            rw [if_neg (not_not.mpr hrole), if_neg (not_not.mpr hmethod)]
            refine (endsDisclosing_verifyFederation rfl).trans ?_
            simp [hrole, hmethod]
          · simp [hremote, hrole, hmethod, hquiet]
      · simp [hremote, hrole, hquiet]

/-- The response to a request carries an identifier exactly if the request passes the checks. -/
theorem endsDisclosing_answer (server : Server) (identity : Option Identity)
    (remoteProviderId : Option String) (requestMsg : Bytes) :
    EndsDisclosing (answer cx (fresh server identity remoteProviderId) requestMsg) ↔
      Passes cx server identity remoteProviderId requestMsg := by
  have hresponse : (processRequestMsg cx (fresh server identity remoteProviderId)
      requestMsg).2.response = none := by
    unfold processRequestMsg
    dsimp only
    split_ifs
    · rfl
    · split
      · rfl
      · split_ifs <;> rfl
  refine (endsDisclosing_validateRequest hresponse).trans ?_
  unfold processRequestMsg Passes
  dsimp only
  split_ifs with hformat
  · refine iff_of_false (by rintro ⟨-, hmethod, -⟩; cases hmethod) ?_
    rintro ⟨p, -, hunknown, herror, -⟩
    exact hformat.elim hunknown herror
  · cases hprovider : server.getProvider remoteProviderId with
    | none => simp [remoteProvider, fresh, hprovider, Grants]
    | some p =>
      have hsame := Server.sameButRole_acceptHttpMethod server p .nameIdentifierMapping .redirect
        false
      obtain ⟨hunknown, herror⟩ := not_or.mp hformat
      simp only [remoteProvider, fresh, hprovider, Bool.not_eq_true']
      by_cases haccepted :
          (server.acceptHttpMethod p .nameIdentifierMapping .redirect false).1 = true
      · simp [haccepted, Grants, remoteProvider, hsame.getProvider, hunknown, herror]
      · simp [haccepted, Grants]

/-- A request is answered with an identifier for an entitled requester only, exactly if it fails a
check or is entitled: none of the checks is about the provider and the identifier that it names. -/
theorem disclosesToEntitled_iff (cx : MappingContext) (server : Server)
    (identity : Option Identity) (remoteProviderId : Option String) (requestMsg : Bytes) :
    (EndsDisclosing (answer cx (fresh server identity remoteProviderId) requestMsg) →
        Entitled cx server identity requestMsg) ↔
      (Passes cx server identity remoteProviderId requestMsg →
        Entitled cx server identity requestMsg) := by
  rw [endsDisclosing_answer]

end

/-! ## The whole exchange -/

/-- A mapping from its start at the service provider, through a fresh one at the identity provider,
back to the service provider, if every step returns zero. -/
def exchange (cx : MappingContext) (sp : NameIdentifierMapping) (idpServer : Server)
    (idpIdentity : Identity) (targetNamespace remoteProviderId uniqueId : String) :
    Option NameIdentifierMapping := do
  let (rc, sp) := initRequest sp targetNamespace remoteProviderId uniqueId
  guard (rc = .ok)
  let (rc, sp) := buildRequestMsg cx sp
  guard (rc = .ok)
  let requestMsg ← sp.msgBody
  let (rc, idp) := processRequestMsg cx (fresh idpServer (some idpIdentity) none) requestMsg
  guard (rc = .ok)
  let (rc, idp) ← validateRequest idp
  guard (rc = .ok)
  let (rc, idp) := buildResponseMsg cx idp
  guard (rc = .ok)
  let responseMsg ← idp.msgBody
  let (rc, sp) ← processResponseMsg cx sp responseMsg
  guard (rc = .ok)
  return sp

/-- The exchange succeeds, and the service provider has the identifier of the target federation. -/
def MapsEndToEnd (cx : MappingContext) (sp : NameIdentifierMapping) (idpServer : Server)
    (idpIdentity : Identity) (targetNamespace remoteProviderId uniqueId : String) : Prop :=
  ∃ after ∈ exchange cx sp idpServer idpIdentity targetNamespace remoteProviderId uniqueId,
    after.targetNameIdentifier =
      ((idpIdentity.getFederation (some targetNamespace)).bind federationIdentifier).bind
        (·.nameContent)

section

variable {cx : MappingContext} {mapping after : NameIdentifierMapping}

/-- A mapping on which no remote provider is set accepts no request. -/
theorem processRequestMsg_of_remoteProviderId (h : mapping.remoteProviderId = none)
    (requestMsg : Bytes) : (processRequestMsg cx mapping requestMsg).1 ≠ .ok := by
  unfold processRequestMsg
  dsimp only
  split_ifs
  · simp
  · simp [remoteProvider, h]

/-- The target identifier is the identifier by which the request named the principal. -/
theorem targetNameIdentifier_processResponseMsg {responseMsg : Bytes} {rc : Rc}
    (h : processResponseMsg cx mapping responseMsg = some (rc, after)) (hrc : rc = .ok) :
    ∃ request nameIdentifier, mapping.request = some request ∧
      request.nameIdentifier = some nameIdentifier ∧
      after.targetNameIdentifier = nameIdentifier.nameContent := by
  subst hrc
  unfold processResponseMsg at h
  dsimp only at h
  split_ifs at h
  · cases h
  · split at h
    · cases h
    · split at h
      · cases h
      · split_ifs at h
        · cases h
        · obtain ⟨request, hrequest, h⟩ := Option.map_eq_some_iff.mp h
          split at h
          · rename_i nameIdentifier hnameIdentifier
            obtain ⟨-, rfl⟩ := Prod.mk.inj h
            exact ⟨request, nameIdentifier, hrequest, hnameIdentifier, rfl⟩
          · cases h

/-- No exchange gets through: the mapping at the identity provider looks for the requester under
the remote provider that nobody has set. -/
theorem not_mapsEndToEnd (cx : MappingContext) (sp : NameIdentifierMapping) (idpServer : Server)
    (idpIdentity : Identity) (targetNamespace remoteProviderId uniqueId : String) :
    ¬ MapsEndToEnd cx sp idpServer idpIdentity targetNamespace remoteProviderId uniqueId := by
  rintro ⟨after, hafter, -⟩
  have hrefused (requestMsg : Bytes) :
      (processRequestMsg cx (fresh idpServer (some idpIdentity) none) requestMsg).1 ≠ .ok :=
    processRequestMsg_of_remoteProviderId rfl requestMsg
  simp [exchange, hrefused, guard] at hafter

end

/-! ## A service provider that asks about a stranger -/

def nimProfile : String := "http://projectliberty.org/profiles/nim-sp-http"

/-- A service provider that may ask for name identifiers. -/
def mappingSp : Provider where
  providerId := some "https://sp.example"
  role := .sp
  conformance := .liberty12
  publicKey := some "sp.pem"
  signingPublicKeys := [⟨.rsa, "k".toList⟩]
  descriptors := AList.singleton "sp NameIdentifierMappingProtocolProfile" [nimProfile]

/-- The identity provider that it asks. -/
def mappingIdp : Server :=
  (Server.addProvider {
    provider := {
      providerId := some "https://idp.example"
      conformance := .liberty12
      descriptors := AList.singleton "idp NameIdentifierMappingProtocolProfile" [nimProfile] } }
    mappingSp).2

/-- `alice`, who is known to the service provider and to another one. -/
def aliceIdentity : Identity :=
  (Identity.addFederation {} {
    remoteProviderId := "https://sp.example"
    localNameIdentifier := some (.samlNameIdentifier { content := some "alice" }) }).addFederation {
      remoteProviderId := "https://other.example"
      localNameIdentifier := some (.samlNameIdentifier { content := some "a1" }) }

def mappingRequestXml : XmlNode :=
  .element (some libHref) "NameIdentifierMappingRequest" [{ name := "RequestID", value := "_r" }]
    [.element (some xmlSecDSigNs) "Signature" [] []]

/-- Every message is a request of the service provider, with a good signature, that names the
principal by the given identifier. -/
def mappingCx (nameIdentifier : String) : MappingContext :=
  { Context.refusing with
    parseMemory := fun _ => some mappingRequestXml
    dsigVerify := fun _ _ => .succeeded [some "#_r"]
    libNameIdentifierMappingRequest := {
      initFromXml := fun r _ => (.ok, { r with
        requestId := some "_r"
        providerId := some "https://sp.example"
        nameIdentifier := some (.samlNameIdentifier { content := some nameIdentifier })
        targetNamespace := some "https://other.example" })
      initFromQuery := fun r _ => (false, r) }
    libNameIdentifierMappingResponse := .refusing
    exportRequest := fun _ _ => some "<m>".toList
    exportResponse := fun _ _ => some "<m>".toList }

/-- The identity provider tells the service provider about `alice` when it is asked about `bob`. -/
theorem discloses_stranger :
    ¬ ∀ (cx : MappingContext) (server : Server) (identity : Option Identity)
        (remoteProviderId : Option String) (requestMsg : Bytes),
      EndsDisclosing (answer cx (fresh server identity remoteProviderId) requestMsg) →
        Entitled cx server identity requestMsg := by
  intro h
  obtain ⟨-, i, federation, nameIdentifier, hi, hfederation, hname, hverify⟩ :=
    h (mappingCx "bob") mappingIdp (some aliceIdentity) (some "https://sp.example")
      "<m>".toList (by unfold EndsDisclosing; decide)
  cases hi
  cases hfederation
  cases hname
  revert hverify
  decide

/-- The service provider where `alice` starts the mapping. -/
def mappingSpSide : NameIdentifierMapping where
  server := (Server.addProvider {
    provider := {
      providerId := some "https://sp.example"
      conformance := .liberty12
      descriptors := AList.singleton "sp NameIdentifierMappingProtocolProfile" [nimProfile] } } {
    providerId := some "https://idp.example"
    role := .idp
    conformance := .liberty12
    descriptors := (AList.singleton "idp NameIdentifierMappingProtocolProfile" [nimProfile]).insert
      "idp SoapEndpoint" ["https://idp.example/soap"] }).2
  identity := some (Identity.addFederation {} {
    remoteProviderId := "https://idp.example"
    remoteNameIdentifier := some (.samlNameIdentifier { content := some "alice" }) })

/-- The request is on its way, the identity provider holds a federation for the target namespace,
and the exchange fails. -/
theorem alice_not_mapped :
    (buildRequestMsg (mappingCx "alice")
        (mappingSpSide.initRequest "https://other.example" "https://idp.example" "_r").2).1 = .ok ∧
      ((aliceIdentity.getFederation (some "https://other.example")).bind
        federationIdentifier).isSome = true ∧
      ¬ MapsEndToEnd (mappingCx "alice") mappingSpSide mappingIdp aliceIdentity
        "https://other.example" "https://idp.example" "_r" := by
  refine ⟨by decide, by decide, ?_⟩
  rintro ⟨after, hafter, -⟩
  revert hafter
  have hnone : (exchange (mappingCx "alice") mappingSpSide mappingIdp aliceIdentity
      "https://other.example" "https://idp.example" "_r").isNone = true := by decide
  simp [Option.isNone_iff_eq_none.mp hnone]

end NameIdentifierMapping

end Lasso
