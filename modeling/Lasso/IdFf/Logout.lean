import Lasso.Logout

/-!
# ID-FF 1.2 logout requests

`processRequestMsg` reads a request and keeps the verdict on its signature; `validateRequest` stops
on a bad verdict, checks the session and the federation of the principal, and removes the assertion
of the provider that the stored request names.
-/

namespace Lasso.IdFf.Logout

/-! ## Reading a request -/

/-- `init_from_query` of `LassoLibLogoutRequest` -/
def initFromQuery (cx : Context) (request : LibLogoutRequest) (queryFields : List Bytes) :
    Bool × LibLogoutRequest :=
  let request := cx.libLogoutRequestInitFromQueryFields
    { request with nameIdentifier := some {} } queryFields
  match request.providerId, request.nameIdentifier with
  | some _, some { nameQualifier, format, content := some content } =>
    (true, { request with nameIdentifier := some {
      nameQualifier
      format := some (format.getD "LASSO_SAML2_NAME_IDENTIFIER_FORMAT_UNSPECIFIED")
      content := some content } })
  | _, _ => (false, { request with nameIdentifier := none })

/-- `LassoLibLogoutRequest` -/
def libLogoutRequestClass (cx : Context) : NodeClass LibLogoutRequest where
  initFromXml := cx.libLogoutRequestInitFromXml
  initFromQuery := initFromQuery cx

/-- The LogoutRequest that a message is parsed to. -/
def readLogoutRequest (cx : Context) (text : Bytes) : ParsedMessage LibLogoutRequest :=
  initFromMessageWithFormat cx.toEnv (libLogoutRequestClass cx) {} text .unknown

/-- The binding that a request came over; there are two of them. -/
def requestMethod : MessageFormat → Option HttpMethod
  | .soap => some .soap
  | .query => some .redirect
  | .xschemaError | .error | .unknown | .xml | .base64 => none

/-- `lasso_logout_process_request_msg`. The request is stored even if it cannot be read. -/
def processRequestMsg (cx : Context) (logout : Logout) (requestMsg : Bytes) : Rc × Logout :=
  let m := readLogoutRequest cx requestMsg
  let profile := { logout.profile with request := some (.libLogoutRequest m.node) }
  if m.format = .unknown ∨ m.format = .error then
    (.profile .invalidMsg, { logout with profile })
  else
    match m.node.providerId, m.node.nameIdentifier with
    | some providerId, some nameIdentifier =>
      let profile := { profile with
        msgRelayState := m.node.relayState
        remoteProviderId := some providerId }
      match profile.remoteProvider with
      | none => (.server .providerNotFound, { logout with profile })
      | some remoteProvider =>
        let signatureStatus := remoteProvider.verifySignature cx.toEnv (some requestMsg)
          (some "RequestID") m.format
        let profile := { profile with signatureStatus }
        match requestMethod m.format with
        | none => (.profile .invalidMsg, { logout with profile })
        | some method =>
          (signatureStatus, { logout with
            profile := { profile with
              httpRequestMethod := method
              nameIdentifier := some (.samlNameIdentifier nameIdentifier) } })
    | _, _ => (.profile .invalidMsg, { logout with profile })

/-! ## Validating a request -/

/-- `check_soap_support` -/
def checkSoapSupport (session : Session) (provider : Provider) : Bool :=
  match provider.providerId.bind session.getAssertion with
  | some (.samlAssertion _) =>
    (provider.getMetadataList "SingleLogoutProtocolProfile").contains libProtocolProfileSloSpSoap
  -- not authenticated with this provider
  | _ => true

/-- If the name identifier is federated, then verify the federation. For a NameIdentifier without
Format the source does not return. -/
def checkFederation (profile : Profile) (nameIdentifier : SamlNameIdentifier) : Rc :=
  match nameIdentifier.format with
  | none => .undefined
  | some format =>
    if format ≠ libNameIdentifierFormatFederated then .ok
    else
      match profile.identity with
      | none => .profile .identityNotFound
      | some identity =>
        match identity.getFederation profile.remoteProviderId with
        | none => .profile .federationNotFound
        | some federation =>
          if federation.verifyNameIdentifier (.samlNameIdentifier nameIdentifier) then .ok
          else .logout .federationNotFound

/-- `lasso_lib_logout_response_new_full` for the binding of the request; there is no response for
another binding. -/
def newLogoutResponse (profile : Profile) (logoutRequest : LibLogoutRequest) :
    Option LibLogoutResponse :=
  if profile.httpRequestMethod = .soap ∨ profile.httpRequestMethod = .redirect then
    some {
      providerId := profile.server.bind (·.provider.providerId)
      inResponseTo := logoutRequest.requestId
      relayState := logoutRequest.relayState
      status := some { statusCode := some { value := some samlStatusCodeSuccess } } }
  else none

/-- The checks of a validation once the response is there, and the removal of the assertion. -/
def logoutPrincipal (cx : Context) (logout : Logout) (logoutRequest : LibLogoutRequest)
    (remoteProvider : Provider) : Rc × Logout :=
  let profile := logout.profile
  let refuse (rc : Rc) (statusCode : String) : Rc × Logout :=
    (rc, { logout with profile := profile.setResponseStatus statusCode })
  -- Verify signature status, if signature is invalid, stop validation here
  if profile.signatureStatus ≠ .ok then refuse profile.signatureStatus libStatusCodeInvalidSignature
  else
    match logoutRequest.nameIdentifier with
    | none => refuse (.profile .nameIdentifierNotFound) libStatusCodeFederationDoesNotExist
    | some nameIdentifier =>
      match profile.session with
      | none => refuse (.profile .sessionNotFound) samlStatusCodeRequestDenied
      | some session =>
        match profile.remoteProviderId.bind session.getAssertion with
        | some (.samlAssertion _) =>
          match checkFederation profile nameIdentifier with
          | .ok =>
            if remoteProvider.role = .sp ∧ profile.httpRequestMethod = .soap ∧
                !Logout.allSoap profile (checkSoapSupport session) then
              (.logout .unsupportedProfile, { logout with
                partialLogout := false
                profile := profile.setResponseStatus libStatusCodeUnsupportedProfile })
            else (.ok, logout.removeRemoteAssertion cx.toEnv session remoteProvider)
          | rc => refuse rc libStatusCodeFederationDoesNotExist
        | _ => refuse (.profile .missingAssertion) samlStatusCodeRequestDenied

/-- `lasso_logout_validate_request` -/
def validateRequest (cx : Context) (logout : Logout) : Rc × Logout :=
  match logout.profile.request with
  | some (.libLogoutRequest logoutRequest) =>
    let profile := { logout.profile with remoteProviderId := logoutRequest.providerId }
    match profile.remoteProvider with
    | none => (.server .providerNotFound, { logout with profile })
    | some remoteProvider =>
      match newLogoutResponse profile logoutRequest with
      | none =>
        (.profile .buildingResponseFailed, { logout with profile := { profile with
          response := none } })
      | some response =>
        logoutPrincipal cx { logout with profile := { profile with
          response := some (.libLogoutResponse { response with
            relayState := profile.msgRelayState }) } } logoutRequest remoteProvider
  | _ => (.profile .missingRequest, logout)

/-! ## What the functions keep -/

/-- The provider that the server knows as the issuer of a request. -/
def issuerProvider (profile : Profile) (request : LibLogoutRequest) : Option Provider :=
  profile.server.bind (·.getProvider request.providerId)

section

variable {cx : Context}

theorem initFromQuery_false {request request' : LibLogoutRequest} {fields : List Bytes}
    (h : initFromQuery cx request fields = (false, request')) :
    request'.nameIdentifier = none := by
  unfold initFromQuery at h
  dsimp only at h
  split at h <;> cases h
  rfl

/-- A request that could not be read has no name identifier. -/
theorem readLogoutRequest_failed {text : Bytes}
    (h : (readLogoutRequest cx text).format = .unknown ∨
      (readLogoutRequest cx text).format = .error) :
    (readLogoutRequest cx text).node.nameIdentifier = none := by
  rcases initFromMessageWithFormat_failed rfl h with hnode | ⟨fields, hfields⟩
  · rw [readLogoutRequest, hnode]
  · exact initFromQuery_false hfields

/-- What a read message leaves in the profile: the request is stored and, if it has a name
identifier and its issuer is known, the status is the verdict on the message. -/
structure Stores (cx : Context) (text : Bytes) (before after : Profile) : Prop where
  server : after.server = before.server
  request : after.request = some (.libLogoutRequest (readLogoutRequest cx text).node)
  signatureStatus : (readLogoutRequest cx text).node.nameIdentifier.isSome →
    ∀ p ∈ issuerProvider before (readLogoutRequest cx text).node,
      after.signatureStatus = p.verifySignature cx.toEnv (some text) (some "RequestID")
        (readLogoutRequest cx text).format

theorem processRequestMsg_stores (cx : Context) (logout : Logout) (text : Bytes) :
    Stores cx text logout.profile (processRequestMsg cx logout text).2.profile := by
  unfold processRequestMsg
  dsimp only
  by_cases hformat : (readLogoutRequest cx text).format = .unknown ∨
      (readLogoutRequest cx text).format = .error
  · rw [if_pos hformat]
    exact ⟨rfl, rfl, by simp [readLogoutRequest_failed hformat]⟩
  · rw [if_neg hformat]
    split
    · rename_i providerId nameIdentifier hproviderId hnameIdentifier
      have hissuer (p : Provider) (hp : p ∈ issuerProvider logout.profile
          (readLogoutRequest cx text).node) :
          logout.profile.server.bind (·.getProvider (some providerId)) = some p := by
        rw [issuerProvider, hproviderId] at hp
        exact hp
      split
      · rename_i hunknown
        exact ⟨rfl, rfl, fun _ p hp => nomatch hunknown.symm.trans (hissuer p hp)⟩
      · rename_i p hprovider
        split
        all_goals
          refine ⟨rfl, rfl, fun _ p' hp' => ?_⟩
          cases hprovider.symm.trans (hissuer p' hp')
          rfl
    · rename_i hmissing
      refine ⟨rfl, rfl, fun hnameIdentifier p hp => ?_⟩
      obtain ⟨nameIdentifier, hnameIdentifier⟩ := Option.isSome_iff_exists.mp hnameIdentifier
      cases hproviderId : (readLogoutRequest cx text).node.providerId with
      | none =>
        rw [issuerProvider, hproviderId] at hp
        cases hserver : logout.profile.server <;> simp [hserver] at hp
      | some providerId => exact (hmissing _ _ hproviderId hnameIdentifier).elim

theorem setResponseStatus_refuses (profile : Profile) (statusCode : String) :
    Logout.Refuses profile (profile.setResponseStatus statusCode) := by
  obtain ⟨response, hprofile, -⟩ := profile.setResponseStatus_eq statusCode
  rw [hprofile]
  exact .of_eq rfl rfl rfl rfl

theorem logoutPrincipal_outcome (cx : Context) (logout : Logout) (request : LibLogoutRequest)
    (remoteProvider : Provider) :
    Logout.ValidationOutcome logout.profile
      (logout.profile.signatureStatus = .ok ∧ request.nameIdentifier.isSome)
      (logoutPrincipal cx logout request remoteProvider) := by
  have hrefuse (statusCode : String) := setResponseStatus_refuses logout.profile statusCode
  unfold logoutPrincipal
  dsimp only
  split_ifs with hstatus
  · exact .refused hstatus (hrefuse _)
  · split
    · exact .refused (by simp) (hrefuse _)
    · rename_i hnameIdentifier
      split
      · exact .refused (by simp) (hrefuse _)
      · split
        · split
          · split_ifs
            · exact .refused (by simp) (hrefuse _)
            · exact .accepted ⟨not_not.mp hstatus, by simp [hnameIdentifier]⟩ rfl
                (Logout.removeRemoteAssertion_keepsReceived _ _ _ _)
          · rename_i hrc
            exact .refused hrc (hrefuse _)
        · exact .refused (by simp) (hrefuse _)

/-- A validation acts on a stored request with a good status, a name identifier and an issuer that
the server knows, and otherwise leaves the session as it is. -/
theorem validateRequest_outcome (cx : Context) (logout : Logout) :
    Logout.ValidationOutcome logout.profile
      (logout.profile.signatureStatus = .ok ∧
        ∃ request p, logout.profile.request = some (.libLogoutRequest request) ∧
          request.nameIdentifier.isSome ∧ issuerProvider logout.profile request = some p)
      (validateRequest cx logout) := by
  unfold validateRequest
  split
  · rename_i request hrequest
    dsimp only
    split
    · exact .refused (by simp) (.of_eq rfl rfl rfl rfl)
    · rename_i p hprovider
      split
      · exact .refused (by simp) (.of_eq rfl rfl rfl rfl)
      · rename_i response hresponse
        cases logoutPrincipal_outcome cx { logout with profile := { logout.profile with
            remoteProviderId := request.providerId
            response := some (.libLogoutResponse { response with
              relayState := logout.profile.msgRelayState }) } } request p with
        | refused hrc hrefuses =>
          exact .refused hrc ⟨⟨hrefuses.server, hrefuses.signatureStatus, hrefuses.request⟩,
            hrefuses.session⟩
        | accepted hconditions hrc hkeeps =>
          exact .accepted ⟨hconditions.1, request, p, hrequest, hconditions.2, hprovider⟩ hrc
            ⟨hkeeps.server, hkeeps.signatureStatus, hkeeps.request⟩
  · exact .refused (by simp) (.of_eq rfl rfl rfl rfl)

end

end Lasso.IdFf.Logout
