import Lasso.IdFf.ProtocolProfile

/-!
# ID-FF 1.2 name registration

Either side of a federation may register a new name identifier with the other one. The receiver
stores it as the remote identifier of the federation in `validateRequest`, the sender as the local
one in `processResponseMsg`.

## Main results

* `validateRequest_eq`, `processResponseMsg_eq` — what the two functions do to the identity.
* `registersSafely_iff` — when a registration is authenticated and all-or-nothing.
-/

namespace Lasso

/-! ## Messages -/

/-- `LassoLibRegisterNameIdentifierRequest` -/
structure LibRegisterNameIdentifierRequest extends SamlpRequestAbstract where
  providerId : Option String := none
  idpProvidedNameIdentifier : Option LassoNode := none
  spProvidedNameIdentifier : Option LassoNode := none
  oldProvidedNameIdentifier : Option LassoNode := none
  relayState : Option String := none

/-- `LassoLibStatusResponse`, to which neither the responses of a registration nor those of a
logout add a field. -/
abbrev LibStatusResponse := LibLogoutResponse

/-- `LassoNameRegistration` with the fields of its profile. -/
structure NameRegistration where
  server : Server
  request : Option LibRegisterNameIdentifierRequest := none
  response : Option LibStatusResponse := none
  nameIdentifier : Option LassoNode := none
  oldNameIdentifier : Option LassoNode := none
  remoteProviderId : Option String := none
  msgRelayState : Option String := none
  identity : Option Identity := none
  httpRequestMethod : HttpMethod := .any
  signatureStatus : Rc := .ok

/-- What a registration rests on besides. -/
structure RegistrationContext extends Context where
  /-- `init_from_xml` of `LassoLibRegisterNameIdentifierRequest` -/
  registerRequestInitFromXml : LibRegisterNameIdentifierRequest → Option XmlNode →
    Rc × LibRegisterNameIdentifierRequest
  /-- `lasso_node_init_from_query_fields` for `LassoLibRegisterNameIdentifierRequest` -/
  registerRequestInitFromQueryFields : LibRegisterNameIdentifierRequest → List Bytes →
    Bool × LibRegisterNameIdentifierRequest
  /-- `LassoLibRegisterNameIdentifierResponse` -/
  registerResponse : NodeClass LibStatusResponse

namespace NameRegistration

/-- `lasso_server_get_provider` on the server of the registration, for the remote provider. -/
def remoteProvider (registration : NameRegistration) : Option Provider :=
  registration.server.getProvider registration.remoteProviderId

/-! ## Starting a registration -/

/-- The new identifier that a side makes up. -/
def newNameIdentifier (remoteProviderId uniqueId : String) : LassoNode :=
  .samlNameIdentifier {
    nameQualifier := some remoteProviderId
    format := some libNameIdentifierFormatFederated
    content := some uniqueId }

/-- The method of a request: the given one if both sides have its profile. -/
def chooseMethod (server : Server) (remoteProvider : Provider) (httpMethod : HttpMethod) :
    Option (Except ErrorRc HttpMethod) × Server :=
  if httpMethod = .any then
    let (method, server) := server.getFirstHttpMethod remoteProvider .registerNameIdentifier
    (method.map .ok, server)
  else
    let (accepted, server) :=
      server.acceptHttpMethod remoteProvider .registerNameIdentifier httpMethod true
    (some (if accepted then .ok httpMethod
      else .error ⟨.profile .unsupportedProfile, by decide⟩), server)

/-- The last part of `lasso_name_registration_init_request`, given the three identifiers of the
request. -/
def startRequest (registration : NameRegistration) (remoteProvider : Provider)
    (httpMethod : HttpMethod) (requestId : String)
    (idpNameIdentifier spNameIdentifier oldNameIdentifier : Option LassoNode) :
    Option (Rc × NameRegistration) :=
  let (method, server) := chooseMethod registration.server remoteProvider httpMethod
  let registration := { registration with server }
  method.map fun
    | .error rc => (rc.1, registration)
    | .ok method =>
      let minorVersion :=
        if remoteProvider.conformance ∈ [.none, .liberty10, .liberty11] then 1 else 2
      (.ok, { registration with
        request := some {
          requestId := some requestId
          majorVersion := 1
          minorVersion
          providerId := server.provider.providerId
          idpProvidedNameIdentifier := idpNameIdentifier
          spProvidedNameIdentifier := spNameIdentifier
          oldProvidedNameIdentifier := oldNameIdentifier
          relayState := registration.msgRelayState }
        httpRequestMethod := method })

/-- `lasso_name_registration_init_request`; the identifier of the request and the content of the
new name identifier are given. -/
def initRequest (registration : NameRegistration) (remoteProviderId : String)
    (httpMethod : HttpMethod) (requestId uniqueId : String) : Option (Rc × NameRegistration) :=
  match registration.identity with
  | none => some (.profile .identityNotFound, registration)
  | some identity =>
    let registration := { registration with remoteProviderId := some remoteProviderId }
    match registration.remoteProvider with
    | none => some (.server .providerNotFound, registration)
    | some remoteProvider =>
      match identity.getFederation (some remoteProviderId) with
      | none => some (.profile .federationNotFound, registration)
      | some federation =>
        let nameIdentifier := newNameIdentifier remoteProviderId uniqueId
        if remoteProvider.role = .idp then
          -- Initiating it, from a SP
          let idpNameIdentifier := federation.remoteNameIdentifier
          let oldNameIdentifier := federation.localNameIdentifier.or idpNameIdentifier
          let registration := { registration with
            nameIdentifier := some nameIdentifier
            oldNameIdentifier }
          if oldNameIdentifier.isNone then some (.profile .missingNameIdentifier, registration)
          else
            startRequest registration remoteProvider httpMethod requestId idpNameIdentifier
              (some nameIdentifier) oldNameIdentifier
        else if federation.localNameIdentifier.isNone then
          some (.profile .nameIdentifierNotFound, registration)
        else
          -- Initiating it, from an IdP
          let oldNameIdentifier := federation.localNameIdentifier
          startRequest { registration with
            nameIdentifier := some nameIdentifier
            oldNameIdentifier } remoteProvider httpMethod requestId (some nameIdentifier)
            federation.remoteNameIdentifier oldNameIdentifier

/-! ## Answering a registration -/

/-- `init_from_query` of `LassoLibRegisterNameIdentifierRequest` -/
def initFromQuery (cx : RegistrationContext) (request : LibRegisterNameIdentifierRequest)
    (queryFields : List Bytes) : Bool × LibRegisterNameIdentifierRequest :=
  let empty : Option LassoNode := some (.samlNameIdentifier {})
  let (rc, request) := cx.registerRequestInitFromQueryFields { request with
    idpProvidedNameIdentifier := empty
    spProvidedNameIdentifier := empty
    oldProvidedNameIdentifier := empty } queryFields
  let hasContent (nameIdentifier : LassoNode) : Bool := nameIdentifier.nameContent.isSome
  let request := { request with
    idpProvidedNameIdentifier := request.idpProvidedNameIdentifier.filter hasContent
    spProvidedNameIdentifier := request.spProvidedNameIdentifier.filter hasContent
    oldProvidedNameIdentifier := request.oldProvidedNameIdentifier.filter hasContent }
  if request.providerId.isNone ∨ request.oldProvidedNameIdentifier.isNone ∨
      request.idpProvidedNameIdentifier.isNone then (false, request)
  else (rc, request)

/-- `LassoLibRegisterNameIdentifierRequest` -/
def registerRequestClass (cx : RegistrationContext) :
    NodeClass LibRegisterNameIdentifierRequest where
  initFromXml := cx.registerRequestInitFromXml
  initFromQuery := initFromQuery cx

/-- The request that a message is parsed to. -/
def readRequest (cx : RegistrationContext) (text : Bytes) :
    ParsedMessage LibRegisterNameIdentifierRequest :=
  initFromMessageWithFormat cx.toEnv (registerRequestClass cx) {} text .unknown

/-- The identifier that the principal is known by before a request is validated, and the one that
it replaces. -/
def knownIdentifiers (registration : NameRegistration) (remoteProvider : Provider)
    (request : LibRegisterNameIdentifierRequest) : Option LassoNode × Option LassoNode :=
  match remoteProvider.role with
  | .idp =>
    -- IdP initiated
    if request.spProvidedNameIdentifier.isSome then (request.spProvidedNameIdentifier, none)
    else (request.idpProvidedNameIdentifier, request.oldProvidedNameIdentifier)
  | .sp =>
    -- SP initiated
    (request.idpProvidedNameIdentifier, none)
  | _ => (registration.nameIdentifier, none)

/-- `lasso_name_registration_process_request_msg` -/
def processRequestMsg (cx : RegistrationContext) (registration : NameRegistration)
    (requestMsg : Bytes) : Rc × NameRegistration :=
  let m := readRequest cx requestMsg
  let registration := { registration with request := some m.node }
  if m.format = .unknown ∨ m.format = .error then (.profile .invalidMsg, registration)
  else
    match registration.server.getProvider m.node.providerId with
    | none => (.server .providerNotFound, registration)
    | some remoteProvider =>
      let signatureStatus := remoteProvider.verifySignature cx.toEnv (some requestMsg)
        (some "RequestID") m.format
      let (nameIdentifier, oldNameIdentifier) :=
        knownIdentifiers registration remoteProvider m.node
      (signatureStatus, { registration with
        signatureStatus
        httpRequestMethod := match m.format with
          | .soap => .soap
          | .query => .redirect
          | _ => registration.httpRequestMethod
        nameIdentifier
        oldNameIdentifier })

/-- `lasso_lib_register_name_identifier_response_new_full` -/
def newResponse (server : Server) (request : LibRegisterNameIdentifierRequest) :
    LibStatusResponse where
  providerId := server.provider.providerId
  inResponseTo := request.requestId
  relayState := request.relayState
  status := some { statusCode := some { value := some samlStatusCodeSuccess } }

/-- The identifier that the remote provider has registered. -/
def providedByRemote (remoteProvider : Provider) (request : LibRegisterNameIdentifierRequest) :
    Option LassoNode :=
  match remoteProvider.role with
  | .sp => request.spProvidedNameIdentifier
  | .idp => request.idpProvidedNameIdentifier
  | _ => none

/-- `lasso_name_registration_validate_request` -/
def validateRequest (registration : NameRegistration) : Rc × NameRegistration :=
  match registration.request with
  | none => (.profile .missingRequest, registration)
  | some request =>
    -- set the remote provider id from the request
    let registration := { registration with remoteProviderId := request.providerId }
    match request.providerId with
    | none => (.profile .missingRemoteProviderid, registration)
    | some remoteProviderId =>
      -- set register name identifier response
      let registration := { registration with
        response := some (newResponse registration.server request) }
      match registration.identity with
      | none => (.profile .identityNotFound, registration)
      | some identity =>
        match identity.getFederation (some remoteProviderId) with
        | none => (.profile .federationNotFound, registration)
        | some federation =>
          if !request.oldProvidedNameIdentifier.any federation.verifyNameIdentifier then
            (.profile .missingNameIdentifier, registration)
          else
            match registration.remoteProvider with
            | none => (.server .providerNotFound, registration)
            | some remoteProvider =>
              -- update name identifier in federation
              match providedByRemote remoteProvider request with
              | none => (.profile .missingNameIdentifier, registration)
              | some nameIdentifier =>
                (.ok, { registration with
                  identity := some (identity.replaceFederation remoteProviderId
                    { federation with remoteNameIdentifier := some nameIdentifier }) })

/-! ## Completing a registration -/

/-- The response that a message is parsed to. -/
def readResponse (cx : RegistrationContext) (text : Bytes) : ParsedMessage LibStatusResponse :=
  initFromMessageWithFormat cx.toEnv cx.registerResponse {} text .unknown

/-- The identifier that was registered with the remote provider. A registration without request
does not return, if it gets that far. -/
def providedToRemote (remoteProvider : Provider)
    (request : Option LibRegisterNameIdentifierRequest) : Option (Option LassoNode) :=
  match remoteProvider.role with
  | .sp => request.map (·.idpProvidedNameIdentifier)
  | .idp => request.map (·.spProvidedNameIdentifier)
  | _ => some none

/-- The part of `lasso_name_registration_process_response_msg` about a response with the status
Success. A registration without remote provider does not return, if it gets that far. -/
def updateFederation (registration : NameRegistration) (response : LibStatusResponse) (rc : Rc) :
    Option (Rc × NameRegistration) :=
  match registration.identity with
  | none => some (.profile .identityNotFound, registration)
  | some identity =>
    registration.remoteProviderId.bind fun remoteProviderId =>
      match identity.getFederation (some remoteProviderId) with
      | none => some (.profile .federationNotFound, registration)
      | some federation =>
        match registration.remoteProvider with
        | none => some (.server .providerNotFound, registration)
        | some remoteProvider =>
          (providedToRemote remoteProvider registration.request).map fun
            | none => (.profile .missingNameIdentifier, registration)
            | some nameIdentifier =>
              (rc, { registration with
                identity := some (identity.replaceFederation remoteProviderId
                  { federation with localNameIdentifier := some nameIdentifier })
                msgRelayState := response.relayState })

/-- `lasso_name_registration_process_response_msg` -/
def processResponseMsg (cx : RegistrationContext) (registration : NameRegistration)
    (responseMsg : Bytes) : Option (Rc × NameRegistration) :=
  let m := readResponse cx responseMsg
  let registration := { registration with response := some m.node }
  if m.format = .unknown ∨ m.format = .error then some (.profile .invalidMsg, registration)
  else
    match registration.server.getProvider m.node.providerId with
    | none => some (.server .providerNotFound, registration)
    | some remoteProvider =>
      let rc := remoteProvider.verifySignature cx.toEnv (some responseMsg) (some "ResponseID")
        m.format
      match Status.topLevel m.node.status with
      | none => some (.profile .missingStatusCode, registration)
      | some statusCodeValue =>
        if statusCodeValue ≠ samlStatusCodeSuccess then
          some (.profile .statusNotSuccess, registration)
        else updateFederation registration m.node rc

/-! ## What starts a registration -/

/-- The request of a registration that was started, and the state it was started in. -/
structure Started (before after : NameRegistration) (remoteProviderId uniqueId : String)
    (identity : Identity) (federation : Federation) (remote : Provider)
    (request : LibRegisterNameIdentifierRequest) : Prop where
  identity_eq : before.identity = some identity
  remote_eq : before.server.getProvider (some remoteProviderId) = some remote
  federation_eq : identity.getFederation (some remoteProviderId) = some federation
  server : before.server.SameButRole after.server
  keepsIdentity : after.identity = some identity
  keepsRemote : after.remoteProviderId = some remoteProviderId
  request_eq : after.request = some request
  providerId : request.providerId = before.server.provider.providerId
  old_isSome : request.oldProvidedNameIdentifier.isSome
  fromSp : remote.role = .idp →
    request.idpProvidedNameIdentifier = federation.remoteNameIdentifier ∧
    request.spProvidedNameIdentifier = some (newNameIdentifier remoteProviderId uniqueId) ∧
    request.oldProvidedNameIdentifier =
      federation.localNameIdentifier.or federation.remoteNameIdentifier
  fromIdp : remote.role ≠ .idp →
    request.idpProvidedNameIdentifier = some (newNameIdentifier remoteProviderId uniqueId) ∧
    request.spProvidedNameIdentifier = federation.remoteNameIdentifier ∧
    request.oldProvidedNameIdentifier = federation.localNameIdentifier

theorem sameButRole_chooseMethod (server : Server) (remoteProvider : Provider)
    (httpMethod : HttpMethod) :
    server.SameButRole (chooseMethod server remoteProvider httpMethod).2 := by
  unfold chooseMethod
  split_ifs
  · exact Server.sameButRole_getFirstHttpMethod _ _ _
  · exact Server.sameButRole_acceptHttpMethod _ _ _ _ _

theorem startRequest_eq_ok {registration after : NameRegistration} {remoteProvider : Provider}
    {httpMethod : HttpMethod} {requestId : String} {idp sp old : Option LassoNode}
    (h : startRequest registration remoteProvider httpMethod requestId idp sp old =
      some (.ok, after)) :
    registration.server.SameButRole after.server ∧ after.identity = registration.identity ∧
      after.remoteProviderId = registration.remoteProviderId ∧
      ∃ request, after.request = some request ∧
        request.providerId = registration.server.provider.providerId ∧
        request.idpProvidedNameIdentifier = idp ∧ request.spProvidedNameIdentifier = sp ∧
        request.oldProvidedNameIdentifier = old := by
  have hsame := sameButRole_chooseMethod registration.server remoteProvider httpMethod
  unfold startRequest at h
  obtain ⟨method, -, h⟩ := Option.map_eq_some_iff.mp h
  cases method with
  | error rc =>
    rw [Prod.mk.injEq] at h
    exact absurd h.1 rc.2
  | ok method =>
    cases h
    exact ⟨hsame, rfl, rfl, _, rfl, hsame.providerId, rfl, rfl, rfl⟩

/-- A request that is started with the identifiers for the role of the remote provider. -/
theorem started_of_startRequest {registration prepared after : NameRegistration}
    {remoteProviderId uniqueId requestId : String} {httpMethod : HttpMethod} {identity : Identity}
    {federation : Federation} {remote : Provider} {idp sp old : Option LassoNode}
    (hidentity : registration.identity = some identity)
    (hremote : registration.server.getProvider (some remoteProviderId) = some remote)
    (hfederation : identity.getFederation (some remoteProviderId) = some federation)
    (h : startRequest prepared remote httpMethod requestId idp sp old = some (.ok, after))
    (hprepared : prepared.identity = registration.identity ∧
      prepared.server = registration.server ∧ prepared.remoteProviderId = some remoteProviderId)
    (hold : old.isSome)
    (hfromSp : remote.role = .idp → idp = federation.remoteNameIdentifier ∧
      sp = some (newNameIdentifier remoteProviderId uniqueId) ∧
      old = federation.localNameIdentifier.or federation.remoteNameIdentifier)
    (hfromIdp : remote.role ≠ .idp → idp = some (newNameIdentifier remoteProviderId uniqueId) ∧
      sp = federation.remoteNameIdentifier ∧ old = federation.localNameIdentifier) :
    ∃ request, Started registration after remoteProviderId uniqueId identity federation remote
      request := by
  obtain ⟨hpidentity, hpserver, hpid⟩ := hprepared
  obtain ⟨hserver, hkeeps, hid, request, hrequest, hprovider, rfl, rfl, rfl⟩ :=
    startRequest_eq_ok h
  rw [hpserver] at hserver hprovider
  exact ⟨request, {
    identity_eq := hidentity
    remote_eq := hremote
    federation_eq := hfederation
    server := hserver
    keepsIdentity := hkeeps.trans (hpidentity.trans hidentity)
    keepsRemote := hid.trans hpid
    request_eq := hrequest
    providerId := hprovider
    old_isSome := hold
    fromSp := hfromSp
    fromIdp := hfromIdp }⟩

theorem initRequest_eq_ok {registration after : NameRegistration} {remoteProviderId : String}
    {httpMethod : HttpMethod} {requestId uniqueId : String}
    (h : initRequest registration remoteProviderId httpMethod requestId uniqueId =
      some (.ok, after)) :
    ∃ identity federation remote request, Started registration after remoteProviderId uniqueId
      identity federation remote request := by
  unfold initRequest at h
  split at h
  · cases h
  · rename_i identity hidentity
    dsimp only at h
    split at h
    · cases h
    · rename_i remote hremote
      split at h
      · cases h
      · rename_i federation hfederation
        split_ifs at h with hrole hold hlocal
        · cases h
        · have hsome : (federation.localNameIdentifier.or
              federation.remoteNameIdentifier).isSome :=
            Option.isSome_iff_ne_none.mpr fun h => hold (by rw [h]; rfl)
          exact ⟨identity, federation, remote,
            started_of_startRequest hidentity hremote hfederation h ⟨rfl, rfl, rfl⟩ hsome
              (fun _ => ⟨rfl, rfl, rfl⟩) fun hne => absurd hrole hne⟩
        · cases h
        · have hsome : federation.localNameIdentifier.isSome :=
            Option.isSome_iff_ne_none.mpr fun h => hlocal (by rw [h]; rfl)
          exact ⟨identity, federation, remote,
            started_of_startRequest hidentity hremote hfederation h ⟨rfl, rfl, rfl⟩ hsome
              (fun heq => absurd heq hrole) fun _ => ⟨rfl, rfl, rfl⟩⟩

/-! ## What a registration does to the identity -/

/-- A request is processed and, whatever the code, validated. -/
def answer (cx : RegistrationContext) (registration : NameRegistration) (requestMsg : Bytes) :
    Rc × NameRegistration :=
  validateRequest (processRequestMsg cx registration requestMsg).2

/-- The identity with the identifier of a request registered, if the request may register it. -/
def registered (server : Server) (identity : Option Identity)
    (request : LibRegisterNameIdentifierRequest) : Option Identity := do
  let remoteProviderId ← request.providerId
  let identity ← identity
  let federation ← identity.getFederation (some remoteProviderId)
  guard (request.oldProvidedNameIdentifier.any federation.verifyNameIdentifier = true)
  let remoteProvider ← server.getProvider (some remoteProviderId)
  let nameIdentifier ← providedByRemote remoteProvider request
  return identity.replaceFederation remoteProviderId
    { federation with remoteNameIdentifier := some nameIdentifier }

/-- The identity with the identifier of the pending request registered, if a response completes the
registration. -/
def completed (cx : RegistrationContext) (registration : NameRegistration) (responseMsg : Bytes) :
    Option Identity := do
  let m := readResponse cx responseMsg
  guard (m.format ≠ .unknown ∧ m.format ≠ .error)
  guard ((registration.server.getProvider m.node.providerId).isSome = true)
  guard (Status.topLevel m.node.status = some samlStatusCodeSuccess)
  let identity ← registration.identity
  let remoteProviderId ← registration.remoteProviderId
  let federation ← identity.getFederation (some remoteProviderId)
  let remoteProvider ← registration.remoteProvider
  let nameIdentifier ← (providedToRemote remoteProvider registration.request).join
  return identity.replaceFederation remoteProviderId
    { federation with localNameIdentifier := some nameIdentifier }

section

variable {cx : RegistrationContext} {registration : NameRegistration} {identity : Identity}
  {request : LibRegisterNameIdentifierRequest}

/-- A request that may register its identifier does so. -/
theorem validateRequest_of_registered (hrequest : registration.request = some request)
    (h : registered registration.server registration.identity request = some identity) :
    validateRequest registration = (.ok, { registration with
      remoteProviderId := request.providerId
      response := some (newResponse registration.server request)
      identity := some identity }) := by
  unfold registered at h
  simp only [Option.bind_eq_bind, Option.bind_eq_some_iff, Option.guard_eq_some'] at h
  obtain ⟨remoteProviderId, hid, i, hi, federation, hfederation, -, hold, p, hp, nameIdentifier,
    hname, h⟩ := h
  cases h
  unfold validateRequest
  simp [hrequest, hid, hi, hfederation, hold, remoteProvider, hp, hname]

/-- Any other request leaves the identity as it is; there is a response unless the request names no
provider. -/
theorem validateRequest_of_not_registered (hrequest : registration.request = some request)
    (h : registered registration.server registration.identity request = none) :
    (validateRequest registration).1 ≠ .ok ∧
      (validateRequest registration).2.identity = registration.identity ∧
      (validateRequest registration).2.response =
        if request.providerId.isNone then registration.response
        else some (newResponse registration.server request) := by
  unfold validateRequest
  rw [hrequest]
  dsimp only
  cases hid : request.providerId with
  | none => simp
  | some remoteProviderId =>
    cases hi : registration.identity with
    | none => simp
    | some i =>
      cases hfederation : i.getFederation (some remoteProviderId) with
      | none => simp [hfederation]
      | some federation =>
        by_cases hold : request.oldProvidedNameIdentifier.any federation.verifyNameIdentifier = true
        · cases hp : registration.server.getProvider (some remoteProviderId) with
          | none => simp [hfederation, hold, remoteProvider, hp]
          | some p =>
            cases hname : providedByRemote p request with
            | none => simp [hfederation, hold, remoteProvider, hp, hname]
            | some nameIdentifier =>
              simp [registered, hid, hi, hfederation, hold, hp, hname, guard] at h
        · simp [hfederation, hold]

/-- A response that completes the registration updates the identity, whatever the verification of
its signature says. -/
theorem processResponseMsg_of_completed {responseMsg : Bytes}
    (h : completed cx registration responseMsg = some identity) :
    ∃ p,
      registration.server.getProvider (readResponse cx responseMsg).node.providerId = some p ∧
      Status.topLevel (readResponse cx responseMsg).node.status = some samlStatusCodeSuccess ∧
      processResponseMsg cx registration responseMsg = some
        (p.verifySignature cx.toEnv (some responseMsg) (some "ResponseID")
          (readResponse cx responseMsg).format, { registration with
            response := some (readResponse cx responseMsg).node
            identity := some identity
            msgRelayState := (readResponse cx responseMsg).node.relayState }) := by
  unfold completed at h
  simp only [Option.bind_eq_bind, Option.bind_eq_some_iff, Option.guard_eq_some'] at h
  obtain ⟨-, ⟨hunknown, herror⟩, -, hknown, -, hstatus, i, hi, remoteProviderId, hid, federation,
    hfederation, remote, hremote, nameIdentifier, hname, h⟩ := h
  cases h
  obtain ⟨p, hp⟩ := Option.isSome_iff_exists.mp hknown
  replace hname := Option.join_eq_some_iff.mp hname
  rw [remoteProvider, hid] at hremote
  refine ⟨p, hp, hstatus, ?_⟩
  unfold processResponseMsg updateFederation
  simp [hunknown, herror, hp, hstatus, hi, hid, hfederation, remoteProvider, hremote, hname]

/-- The identity is updated with an identifier that was provided to the remote provider, or there is
an error. -/
theorem updateFederation_identity {response : LibStatusResponse} {rc : Rc}
    {result : Rc × NameRegistration}
    (h : result ∈ updateFederation registration response rc) :
    (result.1 ≠ .ok ∧ result.2.identity = registration.identity) ∨
      ∃ i remoteProviderId federation remote nameIdentifier, registration.identity = some i ∧
        registration.remoteProviderId = some remoteProviderId ∧
        i.getFederation (some remoteProviderId) = some federation ∧
        registration.remoteProvider = some remote ∧
        providedToRemote remote registration.request = some (some nameIdentifier) := by
  unfold updateFederation at h
  split at h
  · cases h
    exact .inl ⟨by simp, rfl⟩
  · rename_i i hi
    obtain ⟨remoteProviderId, hid, h⟩ := Option.bind_eq_some_iff.mp h
    split at h
    · cases h
      exact .inl ⟨by simp, rfl⟩
    · rename_i federation hfederation
      split at h
      · cases h
        exact .inl ⟨by simp, rfl⟩
      · rename_i remote hremote
        obtain ⟨nameIdentifier, hname, h⟩ := Option.map_eq_some_iff.mp h
        cases nameIdentifier with
        | none =>
          cases h
          exact .inl ⟨by simp, rfl⟩
        | some nameIdentifier =>
          exact .inr ⟨i, remoteProviderId, federation, remote, nameIdentifier, hi, hid,
            hfederation, hremote, hname⟩

/-- Any other response is an error and leaves the identity as it is. -/
theorem processResponseMsg_of_not_completed {responseMsg : Bytes}
    (h : completed cx registration responseMsg = none) :
    ∀ result ∈ processResponseMsg cx registration responseMsg,
      result.1 ≠ .ok ∧ result.2.identity = registration.identity := by
  intro result hresult
  unfold processResponseMsg at hresult
  dsimp only at hresult
  split_ifs at hresult with hformat
  · cases hresult
    exact ⟨by simp, rfl⟩
  · obtain ⟨hunknown, herror⟩ := not_or.mp hformat
    split at hresult
    · cases hresult
      exact ⟨by simp, rfl⟩
    · rename_i p hp
      split at hresult
      · cases hresult
        exact ⟨by simp, rfl⟩
      · rename_i statusCodeValue hstatus
        split_ifs at hresult with hsuccess
        · cases hresult
          exact ⟨by simp, rfl⟩
        · rw [not_not.mp hsuccess] at hstatus
          rcases updateFederation_identity hresult with hsame | ⟨i, remoteProviderId, federation,
            remote, nameIdentifier, hi, hid, hfederation, hremote, hname⟩
          · exact hsame
          · rw [remoteProvider] at hremote
            dsimp only at hi hid hremote hname
            rw [hid] at hremote
            simp [completed, hunknown, herror, hp, hstatus, hi, hid, hfederation, remoteProvider,
              hremote, hname, guard] at h

/-- A validation that succeeds has registered the identifier of the request. -/
theorem validateRequest_eq_ok {after : NameRegistration}
    (hrequest : registration.request = some request)
    (h : validateRequest registration = (.ok, after)) :
    ∃ updated, registered registration.server registration.identity request = some updated ∧
      after.identity = some updated := by
  cases hregistered : registered registration.server registration.identity request with
  | none =>
    have hne := (validateRequest_of_not_registered hrequest hregistered).1
    rw [h] at hne
    exact absurd rfl hne
  | some updated =>
    have hvalidate := validateRequest_of_registered hrequest hregistered
    rw [h, Prod.mk.injEq] at hvalidate
    exact ⟨updated, rfl, by rw [hvalidate.2]⟩

/-- A response that is processed without error has completed the registration. -/
theorem processResponseMsg_eq_ok {responseMsg : Bytes} {after : NameRegistration}
    (h : processResponseMsg cx registration responseMsg = some (.ok, after)) :
    ∃ updated, completed cx registration responseMsg = some updated ∧
      after.identity = some updated := by
  cases hcompleted : completed cx registration responseMsg with
  | none => exact absurd rfl (processResponseMsg_of_not_completed hcompleted _ h).1
  | some updated =>
    obtain ⟨p, -, -, hprocess⟩ := processResponseMsg_of_completed hcompleted
    rw [h, Option.some.injEq, Prod.mk.injEq] at hprocess
    exact ⟨updated, rfl, by rw [hprocess.2]⟩

end

/-! ## Safe registrations -/

/-- `lasso_name_registration_new`, with the identity set on it. -/
def fresh (server : Server) (identity : Option Identity) : NameRegistration := { server, identity }

/-- A message that could be read was verified with a key of the provider that it names. -/
def Verified (env : Env) (server : Server) (text : Bytes) (format : MessageFormat)
    (providerId : Option String) : Prop :=
  format ≠ .unknown ∧ format ≠ .error ∧
    ∃ p, server.getProvider providerId = some p ∧ p.MessageVerified env text format

/-- What is expected of the answer to a request: the identity changes for a verified message only,
it stays as it is in case of an error, and the status is Success only if it was updated. -/
structure AnswersSafely (cx : RegistrationContext) (server : Server) (identity : Option Identity)
    (requestMsg : Bytes) : Prop where
  authenticated : (answer cx (fresh server identity) requestMsg).2.identity ≠ identity →
    Verified cx.toEnv server requestMsg (readRequest cx requestMsg).format
      (readRequest cx requestMsg).node.providerId
  unchanged : (answer cx (fresh server identity) requestMsg).1 ≠ .ok →
    (answer cx (fresh server identity) requestMsg).2.identity = identity
  status : Status.topLevel ((answer cx (fresh server identity) requestMsg).2.response.bind
      (·.status)) = some samlStatusCodeSuccess →
    ∃ updated, registered server identity (readRequest cx requestMsg).node = some updated ∧
      (answer cx (fresh server identity) requestMsg).2.identity = some updated

/-- What is expected of the processing of a response, if it returns: the identity changes for a
verified message with the status Success only, and it stays as it is in case of an error. -/
structure CompletesSafely (cx : RegistrationContext) (registration : NameRegistration)
    (responseMsg : Bytes) : Prop where
  authenticated : ∀ result ∈ processResponseMsg cx registration responseMsg,
    result.2.identity ≠ registration.identity →
      Verified cx.toEnv registration.server responseMsg (readResponse cx responseMsg).format
        (readResponse cx responseMsg).node.providerId ∧
      Status.topLevel (readResponse cx responseMsg).node.status = some samlStatusCodeSuccess
  unchanged : ∀ result ∈ processResponseMsg cx registration responseMsg,
    result.1 ≠ .ok → result.2.identity = registration.identity

/-- The request names no provider, so that there is no response, or it may register its identifier
and was verified, unless that changes nothing. -/
def AnswersVerified (cx : RegistrationContext) (server : Server) (identity : Option Identity)
    (requestMsg : Bytes) : Prop :=
  (readRequest cx requestMsg).node.providerId = none ∨
    ∃ updated, registered server identity (readRequest cx requestMsg).node = some updated ∧
      (identity = some updated ∨
        Verified cx.toEnv server requestMsg (readRequest cx requestMsg).format
          (readRequest cx requestMsg).node.providerId)

/-- If the response completes the registration and changes something by that, it was verified, with
the return code zero. -/
def CompletesVerified (cx : RegistrationContext) (registration : NameRegistration)
    (responseMsg : Bytes) : Prop :=
  ∀ updated, completed cx registration responseMsg = some updated →
    registration.identity = some updated ∨
      (Verified cx.toEnv registration.server responseMsg (readResponse cx responseMsg).format
          (readResponse cx responseMsg).node.providerId ∧
        ∀ p, registration.server.getProvider (readResponse cx responseMsg).node.providerId =
            some p →
          p.verifySignature cx.toEnv (some responseMsg) (some "ResponseID")
            (readResponse cx responseMsg).format = .ok)

section

variable {cx : RegistrationContext} {registration : NameRegistration}

theorem processRequestMsg_keeps (cx : RegistrationContext) (registration : NameRegistration)
    (requestMsg : Bytes) :
    (processRequestMsg cx registration requestMsg).2.server = registration.server ∧
      (processRequestMsg cx registration requestMsg).2.identity = registration.identity ∧
      (processRequestMsg cx registration requestMsg).2.response = registration.response ∧
      (processRequestMsg cx registration requestMsg).2.request =
        some (readRequest cx requestMsg).node := by
  unfold processRequestMsg
  dsimp only
  split_ifs
  · exact ⟨rfl, rfl, rfl, rfl⟩
  · split <;> exact ⟨rfl, rfl, rfl, rfl⟩

theorem answersSafely_iff (cx : RegistrationContext) (server : Server)
    (identity : Option Identity) (requestMsg : Bytes) :
    AnswersSafely cx server identity requestMsg ↔
      AnswersVerified cx server identity requestMsg := by
  unfold AnswersVerified
  obtain ⟨hserver, hidentity, hresponse, hrequest⟩ :=
    processRequestMsg_keeps cx (fresh server identity) requestMsg
  replace hserver : (processRequestMsg cx (fresh server identity) requestMsg).2.server = server :=
    hserver
  replace hidentity : (processRequestMsg cx (fresh server identity) requestMsg).2.identity =
    identity := hidentity
  replace hresponse : (processRequestMsg cx (fresh server identity) requestMsg).2.response = none :=
    hresponse
  have hsilent : Status.topLevel ((none : Option LibStatusResponse).bind (·.status)) ≠
      some samlStatusCodeSuccess := by simp [Status.topLevel]
  cases hregistered : registered server identity (readRequest cx requestMsg).node with
  | some updated =>
    have hanswer := validateRequest_of_registered hrequest
      (by rw [hserver, hidentity]; exact hregistered)
    have hid : (readRequest cx requestMsg).node.providerId ≠ none := by
      intro hnone
      simp [registered, hnone] at hregistered
    simp only [hid, false_or, Option.some.injEq, exists_eq_left']
    constructor
    · rintro ⟨hauthenticated, -, -⟩
      rw [answer, hanswer] at hauthenticated
      exact or_iff_not_imp_left.mpr fun hne => hauthenticated fun heq => hne heq.symm
    · intro hcondition
      refine ⟨?_, ?_, ?_⟩ <;> rw [answer, hanswer]
      · exact fun hne => hcondition.resolve_left fun heq => hne heq.symm
      · simp
      · exact fun _ => ⟨updated, hregistered, rfl⟩
  | none =>
    obtain ⟨hrc, hsame, hafter⟩ := validateRequest_of_not_registered hrequest
      (by rw [hserver, hidentity]; exact hregistered)
    simp only [reduceCtorEq, false_and, exists_false, or_false]
    rw [hidentity] at hsame
    constructor
    · rintro ⟨-, -, hstatus⟩
      by_contra hid
      rw [answer, hafter, if_neg (by simpa using hid)] at hstatus
      obtain ⟨updated, hupdated, -⟩ := hstatus rfl
      cases hregistered.symm.trans hupdated
    · intro hid
      refine ⟨fun hne => absurd hsame hne, fun _ => hsame, fun hstatus => ?_⟩
      rw [answer, hafter, hid, Option.isNone_none, if_pos rfl, hresponse] at hstatus
      exact absurd hstatus hsilent

theorem completesSafely_iff (cx : RegistrationContext) (registration : NameRegistration)
    (responseMsg : Bytes) :
    CompletesSafely cx registration responseMsg ↔
      CompletesVerified cx registration responseMsg := by
  unfold CompletesVerified
  cases hcompleted : completed cx registration responseMsg with
  | none =>
    have hsame := processResponseMsg_of_not_completed hcompleted
    refine iff_of_true ⟨fun result hresult hne => absurd (hsame result hresult).2 hne,
      fun result hresult _ => (hsame result hresult).2⟩ ?_
    rintro updated h
    cases h
  | some updated =>
    obtain ⟨p, hp, hstatus, hprocess⟩ := processResponseMsg_of_completed hcompleted
    constructor
    · rintro ⟨hauthenticated, hunchanged⟩ updated' h
      cases h
      refine or_iff_not_imp_left.mpr fun hne => ?_
      have hchanged : (some updated : Option Identity) ≠ registration.identity := fun heq =>
        hne heq.symm
      refine ⟨(hauthenticated _ hprocess hchanged).1, fun p' hp' => ?_⟩
      cases hp.symm.trans hp'
      by_contra hrc
      exact hchanged (hunchanged _ hprocess hrc)
    · intro hcondition
      rcases hcondition updated rfl with heq | ⟨hverified, hok⟩
      · refine ⟨fun result hresult hne => ?_, fun result hresult _ => ?_⟩
        · cases hprocess.symm.trans hresult
          exact absurd heq.symm hne
        · cases hprocess.symm.trans hresult
          exact heq.symm
      · refine ⟨fun result hresult _ => ⟨hverified, hstatus⟩, fun result hresult hrc => ?_⟩
        cases hprocess.symm.trans hresult
        exact absurd (hok p hp) hrc

end

/-! ## A forged registration -/

/-- The service provider that requests come from. -/
def registeringSp : Provider where
  providerId := some "https://sp.example"
  role := .sp
  conformance := .liberty12
  publicKey := some "sp.pem"
  signingPublicKeys := [⟨.rsa, "k".toList⟩]

/-- The identity provider that answers them. -/
def registeringIdp : Server :=
  (Server.addProvider {
    provider := { providerId := some "https://idp.example", conformance := .liberty12 } }
    registeringSp).2

/-- The identity of `alice` at the identity provider. -/
def registeredIdentity : Identity :=
  Identity.addFederation {} {
    remoteProviderId := "https://sp.example"
    localNameIdentifier := some (.samlNameIdentifier { content := some "alice" }) }

/-- Every message is a request to register `mallory` for `alice`, and no signature verifies. -/
def forgingCx : RegistrationContext :=
  { Context.refusing with
    parseMemory := fun _ => some (.element (some libHref) "RegisterNameIdentifierRequest" [] [])
    registerRequestInitFromXml := fun r _ => (.ok, { r with
      providerId := some "https://sp.example"
      spProvidedNameIdentifier := some (.samlNameIdentifier { content := some "mallory" })
      oldProvidedNameIdentifier := some (.samlNameIdentifier { content := some "alice" }) })
    registerRequestInitFromQueryFields := fun r _ => (false, r)
    registerResponse := .refusing }

/-- The content of the identifier that the service provider has registered. -/
def remoteContent (identity : Option Identity) : Option String :=
  ((identity.bind (·.getFederation (some "https://sp.example"))).bind
    (·.remoteNameIdentifier)).bind (·.nameContent)

end NameRegistration

end Lasso
