import Lasso.ErrorFamily
import Lasso.IdFf.NameRegistration
import Lasso.IdFf.SingleSignOn
import Lasso.Saml20.ResponseMessage

/-!
# ID-FF 1.2 federation termination

Either side of a federation may end it. The side that starts the notification drops its federation
at once, before the message is built; the side that receives it drops its own in
`validateNotification`, which does not look at the verdict on the signature.

## Main definitions

* `initNotification`, `buildNotificationMsg` — at the side that ends the federation.
* `processNotificationMsg`, `validateNotification` — at the other one.

## Main results

* `initNotification_eq` — what a notification that was started carries.
* `validateNotification_eq` — when a validation ends the federation.
-/

namespace Lasso

/-! ## Messages -/

/-- `LassoLibFederationTerminationNotification` -/
structure LibFederationTerminationNotification extends SamlpRequestAbstract where
  providerId : Option String := none
  nameIdentifier : Option SamlNameIdentifier := none
  consent : Option String := none
  relayState : Option String := none
deriving DecidableEq

/-- `LassoDefederation`. The request of its profile is a notification. -/
structure Defederation extends ProfileObject where
  notification : Option LibFederationTerminationNotification := none

/-- What a federation termination rests on besides. -/
structure DefederationContext extends Context where
  /-- `init_from_xml` of `LassoLibFederationTerminationNotification` -/
  notificationInitFromXml : LibFederationTerminationNotification → Option XmlNode →
    Rc × LibFederationTerminationNotification
  /-- `lasso_node_init_from_query_fields` for `LassoLibFederationTerminationNotification` -/
  notificationInitFromQueryFields : LibFederationTerminationNotification → List Bytes →
    Bool × LibFederationTerminationNotification
  /-- the order in which `g_hash_table_find` visits the keys of a table -/
  foreachOrder : List String → List String
  /-- `lasso_node_export_to_soap` of a notification, signed by the server -/
  exportToSoap : Server → LibFederationTerminationNotification → Option String
  /-- `lasso_node_export_to_query_with_password` of a notification, signed by the server -/
  exportToQuery : Server → LibFederationTerminationNotification → Option String

/-- `lasso_server_get_first_providerID_by_role`, given the order of the table. -/
def Server.firstProviderIdByRole (s : Server) (order : List String → List String)
    (role : ProviderRole) : Option String :=
  ((Tables.entriesIn (order s.providers.keys) s.providers).find? fun entry =>
    entry.2.role == role).bind (·.2.providerId)

namespace Defederation

/-! ## Starting a notification -/

/-- The provider to notify: the given one, or the first one of the opposite role. -/
def chooseProvider (cx : DefederationContext) (d : Defederation)
    (remoteProviderId : Option String) : Except ErrorRc (Option String) :=
  match remoteProviderId, d.server with
  | some remoteProviderId, _ => .ok (some remoteProviderId)
  | none, none => .error ⟨.profile .missingServer, by decide⟩
  | none, some server =>
    .ok (server.firstProviderIdByRole cx.foreachOrder
      (if server.provider.role = .idp then .sp else .idp))

theorem unsupportedProfile_ne_ok : Rc.profile .unsupportedProfile ≠ .ok := by decide

/-- The method of a notification: the given one if both sides have its profile. -/
def chooseMethod (server : Server) (remoteProvider : Provider) (httpMethod : HttpMethod) :
    Option (Except ErrorRc HttpMethod) × Server :=
  if httpMethod = .any then
    let (method, server) := server.getFirstHttpMethod remoteProvider .federationTermination
    (method.map .ok, server)
  else
    let (accepted, server) :=
      server.acceptHttpMethod remoteProvider .federationTermination httpMethod true
    (some (if accepted then .ok httpMethod
      else .error ⟨.profile .unsupportedProfile, unsupportedProfile_ne_ok⟩), server)

/-- `lasso_lib_federation_termination_notification_new_full`, and the version that an early provider
is sent. The relay state is for redirects. -/
def newNotification (server : Server) (remoteProvider : Provider) (requestId : String)
    (nameIdentifier : SamlNameIdentifier) (relayState : Option String) :
    LibFederationTerminationNotification where
  requestId := some requestId
  majorVersion := 1
  minorVersion := if remoteProvider.conformance ∈ [.none, .liberty10, .liberty11] then 1 else 2
  providerId := server.provider.providerId
  nameIdentifier := some nameIdentifier
  relayState

/-- The last part of `lasso_defederation_init_notification`: the notification, and the end of the
federation on this side. -/
def startNotification (d : Defederation) (server : Server) (identity : Identity)
    (remoteProviderId : String) (remoteProvider : Provider) (nameIdentifier : SamlNameIdentifier)
    (httpMethod : HttpMethod) (requestId : String) : Option (Rc × Defederation) :=
  let (method, server) := chooseMethod server remoteProvider httpMethod
  let d := { d with server := some server }
  method.map fun
    | .error rc => (rc.1, d)
    | .ok method =>
      (.ok, { d with
        notification := some (newNotification server remoteProvider requestId nameIdentifier
          (if method = .soap then none else d.msgRelayState))
        identity := some (identity.removeFederation (some remoteProviderId)).2
        session := d.session.map fun session =>
          (session.removeAssertion (some remoteProviderId)).2
        httpRequestMethod := method })

/-- `lasso_defederation_init_notification`; the identifier of the request is given. It does not
return for a name identifier of SAML 2.0, which is taken for one of ID-FF. -/
def initNotification (cx : DefederationContext) (d : Defederation)
    (remoteProviderId : Option String) (httpMethod : HttpMethod) (requestId : String) :
    Option (Rc × Defederation) :=
  let d := { d with remoteProviderId := none, notification := none }
  match chooseProvider cx d remoteProviderId with
  | .error rc => some (rc.1, d)
  | .ok none => some (.server .providerNotFound, d)
  | .ok (some remoteProviderId) =>
    let d := { d with remoteProviderId := some remoteProviderId }
    match d.server, d.remoteProvider with
    | some server, some remoteProvider =>
      match d.identity with
      | none => some (.profile .identityNotFound, d)
      | some identity =>
        match identity.getFederation (some remoteProviderId) with
        | none => some (.profile .federationNotFound, d)
        | some federation =>
          -- get the name identifier to send the notification with
          match d.getNameIdentifier with
          | none => some (.profile .nameIdentifierNotFound, d)
          | some nameIdentifier =>
            (IdFf.asSamlNameIdentifier nameIdentifier).bind fun name =>
              startNotification { d with
                nameIdentifier := federation.localNameIdentifier.or (some nameIdentifier) } server
                identity remoteProviderId remoteProvider name httpMethod requestId
    | _, _ => some (.server .providerNotFound, d)

/-- `lasso_defederation_build_notification_msg` -/
def buildNotificationMsg (cx : DefederationContext) (d : Defederation) : Rc × Defederation :=
  let d := { d with msgUrl := none, msgBody := none }
  if d.remoteProviderId.isNone then (.profile .missingRemoteProviderid, d)
  else
    match d.server, d.remoteProvider with
    | some server, some remoteProvider =>
      match d.httpRequestMethod with
      | .soap =>
        (.ok, { d with
          msgUrl := remoteProvider.getMetadataOne "SoapEndpoint"
          msgBody := d.notification.bind (cx.exportToSoap server) })
      | .redirect =>
        match remoteProvider.getMetadataOne "FederationTerminationServiceURL" with
        | none => (.profile .unknownProfileUrl, d)
        | some url =>
          match d.notification.bind (cx.exportToQuery server) with
          | none => (.profile .buildingQueryFailed, d)
          | some query => (.ok, { d with msgUrl := some (concatUrlQuery url query) })
      | _ => (.profile .invalidHttpMethod, d)
    | _, _ => (.server .providerNotFound, d)

/-! ## Receiving a notification -/

/-- `init_from_query` of `LassoLibFederationTerminationNotification` -/
def initFromQuery (cx : DefederationContext) (request : LibFederationTerminationNotification)
    (queryFields : List Bytes) : Bool × LibFederationTerminationNotification :=
  let (rc, request) := cx.notificationInitFromQueryFields
    { request with nameIdentifier := some {} } queryFields
  if request.providerId.isNone ∨ (request.nameIdentifier.bind (·.content)).isNone ∨
      (request.nameIdentifier.bind (·.format)).isNone then
    (false, { request with nameIdentifier := none })
  else (rc, request)

/-- `LassoLibFederationTerminationNotification` -/
def notificationClass (cx : DefederationContext) :
    NodeClass LibFederationTerminationNotification where
  initFromXml := cx.notificationInitFromXml
  initFromQuery := initFromQuery cx

/-- The notification that a message is parsed to. -/
def readNotification (cx : DefederationContext) (text : Bytes) :
    ParsedMessage LibFederationTerminationNotification :=
  initFromMessageWithFormat cx.toEnv (notificationClass cx) {} text .unknown

/-- `lasso_defederation_process_notification_msg`. The notification is stored even if it cannot be
read. -/
def processNotificationMsg (cx : DefederationContext) (d : Defederation) (requestMsg : Bytes) :
    Rc × Defederation :=
  let m := readNotification cx requestMsg
  let d := { d with notification := some m.node }
  if m.format = .unknown ∨ m.format = .error then (.profile .invalidMsg, d)
  else
    let msgRelayState :=
      if m.format = .query then (getRelaystateFromQuery cx.toEnv requestMsg).map String.ofList
      else d.msgRelayState
    let d := { d with msgRelayState, remoteProviderId := m.node.providerId }
    match d.remoteProvider with
    | none => (.server .providerNotFound, d)
    | some remoteProvider =>
      let signatureStatus := remoteProvider.verifySignature cx.toEnv (some requestMsg)
        (some "RequestID") m.format
      (signatureStatus, { d with
        signatureStatus
        httpRequestMethod := match m.format with
          | .soap => .soap
          | .query => .redirect
          | _ => d.httpRequestMethod
        nameIdentifier := m.node.nameIdentifier.map .samlNameIdentifier
        msgRelayState := m.node.relayState.or d.msgRelayState })

/-- Where the principal returns to after a notification by redirect. -/
def returnUrl (d : Defederation) : Except ErrorRc (Option String) :=
  if d.httpRequestMethod = .redirect then
    match d.remoteProvider with
    | none => .error ⟨.server .providerNotFound, by decide⟩
    | some remoteProvider =>
      match remoteProvider.getMetadataOne "FederationTerminationServiceReturnURL" with
      | none => .error ⟨.profile .unknownProfileUrl, by decide⟩
      | some url =>
        .ok (some (d.msgRelayState.elim url fun relayState =>
          concatUrlQuery url ("RelayState=" ++ relayState)))
  else .ok none

/-- `lasso_defederation_validate_notification`. It does not return without remote provider ID, if it
gets as far as the federation. -/
def validateNotification (d : Defederation) :
    Option (FamilyRc DefederationError × Defederation) :=
  match d.notification with
  | none => some (Rc.profile .missingRequest, d)
  | some notification =>
    let d := { d with msgUrl := none, msgBody := none }
    match returnUrl d with
    | .error rc => some (rc.1, d)
    | .ok msgUrl =>
      let d := { d with msgUrl }
      match notification.nameIdentifier with
      | none => some (.own .missingNameIdentifier, d)
      | some nameIdentifier =>
        match d.identity with
        | none => some (Rc.profile .identityNotFound, d)
        | some identity =>
          d.remoteProviderId.map fun remoteProviderId =>
            match identity.getFederation (some remoteProviderId) with
            | none => (Rc.profile .federationNotFound, d)
            | some federation =>
              if federation.verifyNameIdentifier (.samlNameIdentifier nameIdentifier) then
                (.ok, { d with
                  identity := some (identity.removeFederation (some remoteProviderId)).2
                  session := d.session.map fun session =>
                    (session.removeAssertion (some remoteProviderId)).2 })
              else (Rc.profile .nameIdentifierNotFound, d)

/-! ## What a notification that was started carries -/

/-- A notification that was started, and the state it was started in. -/
structure Started (before after : Defederation) (remoteProviderId : String) (identity : Identity)
    (name : SamlNameIdentifier) (notification : LibFederationTerminationNotification) : Prop where
  identity_eq : before.identity = some identity
  federated : (identity.getFederation (some remoteProviderId)).isSome
  name_eq : { before.toProfile with remoteProviderId := some remoteProviderId }.getNameIdentifier =
    some (.samlNameIdentifier name)
  providerId : ∃ server, before.server = some server ∧
    notification.providerId = server.provider.providerId
  notification_eq : after.notification = some notification
  nameIdentifier : notification.nameIdentifier = some name
  removed : after.identity = some (identity.removeFederation (some remoteProviderId)).2

section

variable {cx : DefederationContext} {d after : Defederation}

theorem sameButRole_chooseMethod (server : Server) (remoteProvider : Provider)
    (httpMethod : HttpMethod) :
    server.SameButRole (chooseMethod server remoteProvider httpMethod).2 := by
  unfold chooseMethod
  split_ifs
  · exact Server.sameButRole_getFirstHttpMethod _ _ _
  · exact Server.sameButRole_acceptHttpMethod _ _ _ _ _

/-- The last part either fails and keeps the identity, or ends the federation on this side. -/
theorem startNotification_eq {server : Server} {identity : Identity} {remoteProviderId : String}
    {remoteProvider : Provider} {name : SamlNameIdentifier} {httpMethod : HttpMethod}
    {requestId : String} {rc : Rc}
    (h : startNotification d server identity remoteProviderId remoteProvider name httpMethod
      requestId = some (rc, after)) :
    (rc ≠ .ok ∧ after.identity = d.identity) ∨
      (rc = .ok ∧ after.identity = some (identity.removeFederation (some remoteProviderId)).2 ∧
        ∃ notification, after.notification = some notification ∧
          notification.providerId = server.provider.providerId ∧
          notification.nameIdentifier = some name) := by
  have hsame := sameButRole_chooseMethod server remoteProvider httpMethod
  unfold startNotification at h
  obtain ⟨method, -, h⟩ := Option.map_eq_some_iff.mp h
  cases method with
  | error e =>
    cases h
    exact .inl ⟨e.2, rfl⟩
  | ok method =>
    cases h
    exact .inr ⟨rfl, rfl, _, rfl, hsame.providerId, rfl⟩

/-- A notification is started and the federation ended on this side, or the identity is kept. -/
theorem initNotification_eq {remoteProviderId : Option String} {httpMethod : HttpMethod}
    {requestId : String} {rc : Rc}
    (h : initNotification cx d remoteProviderId httpMethod requestId = some (rc, after)) :
    (rc ≠ .ok ∧ after.identity = d.identity) ∨
      (rc = .ok ∧ ∃ id identity name notification,
        chooseProvider cx d remoteProviderId = .ok (some id) ∧
          Started d after id identity name notification) := by
  unfold initNotification at h
  dsimp only at h
  split at h
  · rename_i e he
    cases h
    exact .inl ⟨e.2, rfl⟩
  · cases h
    exact .inl ⟨by simp, rfl⟩
  · rename_i id hid
    split at h
    · rename_i server remoteProvider hserver hremote
      split at h
      · rename_i hidentity
        cases h
        exact .inl ⟨by simp, rfl⟩
      · rename_i identity hidentity
        split at h
        · cases h
          exact .inl ⟨by simp, rfl⟩
        · rename_i federation hfederation
          split at h
          · cases h
            exact .inl ⟨by simp, rfl⟩
          · rename_i nameIdentifier hname
            obtain ⟨name, hcast, h⟩ := Option.bind_eq_some_iff.mp h
            rcases startNotification_eq h with hkept | ⟨hok, hremoved, n, hn, hprovider, hnamed⟩
            · exact .inl hkept
            · refine .inr ⟨hok, id, identity, name, n, hid, ?_⟩
              have hnode : nameIdentifier = .samlNameIdentifier name := by
                cases nameIdentifier <;> cases hcast
                rfl
              exact {
                identity_eq := hidentity
                federated := by rw [hfederation]; rfl
                name_eq := hnode ▸ hname
                providerId := ⟨server, hserver, hprovider⟩
                notification_eq := hn
                nameIdentifier := hnamed
                removed := hremoved }
    · cases h
      exact .inl ⟨by simp, rfl⟩

/-! ## When a validation ends a federation -/

/-- The identity after the federation that a notification names is ended. -/
def terminated (identity : Option Identity) (remoteProviderId : Option String)
    (notification : LibFederationTerminationNotification) : Option Identity := do
  let nameIdentifier ← notification.nameIdentifier
  let identity ← identity
  let remoteProviderId ← remoteProviderId
  let federation ← identity.getFederation (some remoteProviderId)
  guard (federation.verifyNameIdentifier (.samlNameIdentifier nameIdentifier) = true)
  return (identity.removeFederation (some remoteProviderId)).2

/-- The principal of a redirect can be sent back to the notifier. -/
def CanReturn (d : Defederation) : Prop :=
  d.httpRequestMethod = .redirect →
    ∃ p, d.remoteProvider = some p ∧
      (p.getMetadataOne "FederationTerminationServiceReturnURL").isSome

theorem returnUrl_eq_ok_iff (d : Defederation) : (∃ url, returnUrl d = .ok url) ↔ d.CanReturn := by
  unfold returnUrl CanReturn
  by_cases hmethod : d.httpRequestMethod = .redirect
  · rw [if_pos hmethod]
    simp only [hmethod, true_imp_iff]
    cases hremote : d.remoteProvider with
    | none => simp
    | some p =>
      cases hurl : p.getMetadataOne "FederationTerminationServiceReturnURL" <;> simp [hurl]
  · simp [hmethod]

/-- A validation that returns ends the federation that the notification names and returns zero, or
keeps the identity and the session and returns an error. -/
theorem validateNotification_eq {result : FamilyRc DefederationError × Defederation}
    (h : validateNotification d = some result) :
    (result.1 ≠ .ok ∧ result.2.identity = d.identity ∧ result.2.session = d.session ∧
        ∀ notification, d.notification = some notification → d.CanReturn →
          terminated d.identity d.remoteProviderId notification = none) ∨
      (result.1 = .ok ∧ d.CanReturn ∧ ∃ notification identity,
        d.notification = some notification ∧
        terminated d.identity d.remoteProviderId notification = some identity ∧
        result.2.identity = some identity ∧
        result.2.session = d.session.map fun session =>
          (session.removeAssertion d.remoteProviderId).2) := by
  unfold validateNotification at h
  split at h
  · rename_i hnone
    cases h
    exact .inl ⟨by simp, rfl, rfl, by simp [hnone]⟩
  · rename_i notification hnotification
    dsimp only at h
    split at h
    · rename_i e hreturn
      cases h
      refine .inl ⟨fun heq => e.2 (by simpa [FamilyRc.ok] using heq), rfl, rfl, fun _ _ hcan => ?_⟩
      obtain ⟨url, hurl⟩ := (returnUrl_eq_ok_iff d).mpr hcan
      cases hreturn.symm.trans hurl
    · rename_i url hreturn
      have hcan : d.CanReturn := (returnUrl_eq_ok_iff d).mp ⟨url, hreturn⟩
      split at h
      · rename_i hname
        cases h
        exact .inl ⟨by simp, rfl, rfl, by simp [hnotification, terminated, hname]⟩
      · rename_i nameIdentifier hname
        split at h
        · rename_i hidentity
          cases h
          exact .inl ⟨by simp, rfl, rfl, by simp [hnotification, terminated, hidentity]⟩
        · rename_i identity hidentity
          obtain ⟨id, hid, h⟩ := Option.map_eq_some_iff.mp h
          split at h
          · rename_i hfederation
            cases h
            exact .inl ⟨by simp, rfl, rfl,
              by simp [hnotification, terminated, hidentity, hid, hfederation]⟩
          · rename_i federation hfederation
            split_ifs at h with hverify
            · cases h
              refine .inr ⟨rfl, hcan, notification, _, hnotification, ?_, rfl, by rw [hid]⟩
              simp [terminated, hname, hidentity, hid, hfederation, hverify, guard]
            · cases h
              exact .inl ⟨by simp, rfl, rfl,
                by simp [hnotification, terminated, hname, hidentity, hid, hfederation, hverify,
                  guard]⟩

end

end Defederation

end Lasso
