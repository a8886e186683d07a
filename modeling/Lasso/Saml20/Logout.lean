import Lasso.Logout
import Lasso.Saml20.RequestOrigin

/-!
# SAML 2.0 logout requests

`processRequestMsg` reads a request and checks its signature; `validateRequest` looks for the
sessions that the stored request is about and removes the assertion of its issuer.
-/

namespace Lasso.Saml20.Logout

/-! ## Reading a request -/

/-- The LogoutRequest that a message is parsed to. -/
def readLogoutRequest (cx : Context) (text : Bytes) : ParsedMessage Samlp2LogoutRequest :=
  initFromMessageWithFormat cx.toEnv
    (saml2NodeClass cx.toEnv cx.samlp2LogoutRequestInitFromXml) {} text .unknown

/-- `lasso_saml20_profile_process_any_request` with a LogoutRequest. -/
def processAnyLogoutRequest (cx : Context) (profile : Profile) (requestMsg : Bytes) :
    Rc × Profile :=
  processAnyRequest .samlp2LogoutRequest (·.toSamlp2RequestAbstract) cx
    (saml2NodeClass cx.toEnv cx.samlp2LogoutRequestInitFromXml) {} profile requestMsg

/-- Decrypt the name identifier of the stored request. -/
def decryptRequest (cx : Context) (profile : Profile) (logoutRequest : Samlp2LogoutRequest) :
    Rc × Profile :=
  let (rc, profile, nameId, encryptedId) :=
    processNameIdentifierDecryption cx profile logoutRequest.nameId logoutRequest.encryptedId
  (rc, { profile with
    request := some (.samlp2LogoutRequest { logoutRequest with nameId, encryptedId }) })

/-- `lasso_saml20_logout_process_request_msg` -/
def processRequestMsg (cx : Context) (logout : Logout) (requestMsg : Bytes) : Rc × Logout :=
  let logoutRequest := (readLogoutRequest cx requestMsg).node
  let (rc1, profile) := processAnyLogoutRequest cx logout.profile requestMsg
  if rc1 ≠ .ok then (rc1, { logout with profile })
  else
    -- remember initial request method, for setting it for generating response
    let logout := { logout with initialHttpRequestMethod := profile.httpRequestMethod }
    let (rc2, profile) := decryptRequest cx profile logoutRequest
    if rc2 ≠ .ok then (rc2, { logout with profile })
    else (checkSignatureStatus profile, { logout with profile })

/-! ## Validating a request -/

/-- `check_soap_support` -/
def checkSoapSupport (session : Session) (provider : Provider) : Bool :=
  !provider.providerId.any session.hasSloSession ||
    !(provider.getMetadataList "SingleLogoutService SOAP").isEmpty

/-- A request of an identity provider without a SessionIndex is about all sessions; every other
one has to name one of the local sessions. -/
def namesSession (remoteProvider : Provider) (logoutRequest : Samlp2LogoutRequest)
    (localSessionIndexes : List String) : Bool :=
  (remoteProvider.role == .idp && logoutRequest.sessionIndex.isNone) ||
    logoutRequest.getSessionIndexes.any (localSessionIndexes.contains ·)

/-- The checks of a validation once the response is there, and the removal of the assertion. -/
def logoutPrincipal (cx : Context) (logout : Logout) (logoutRequest : Samlp2LogoutRequest)
    (remoteProvider : Provider) : Rc × Logout :=
  let profile := logout.profile
  let refuse (rc : Rc) (code2 : String) : Rc × Logout :=
    (rc, { logout with profile := setResponseStatusResponder profile code2 })
  match logoutRequest.nameId with
  | none => refuse (.profile .nameIdentifierNotFound) libStatusCodeFederationDoesNotExist
  | some nameId =>
    match profile.session with
    | none => refuse (.profile .sessionNotFound) saml2StatusCodeRequestDenied
    | some session =>
      let localSessionIndexes := session.getSessionIndexes (profile.remoteProviderId.getD "")
        (some (.saml2NameId nameId))
      if localSessionIndexes = [] then
        refuse (.profile .missingAssertion) saml2StatusCodeRequestDenied
      else if !namesSession remoteProvider logoutRequest localSessionIndexes then
        refuse (.logout .unknownPrincipal) saml2StatusCodeRequestDenied
      else if remoteProvider.role = .sp ∧ profile.httpRequestMethod = .soap ∧
          !Logout.allSoap profile (checkSoapSupport session) then
        refuse (.logout .unsupportedProfile) libStatusCodeUnsupportedProfile
      else (.ok, logout.removeRemoteAssertion cx.toEnv session remoteProvider)

/-- `lasso_saml20_logout_validate_request`; for a request without Issuer the source does not
return. The signature status is not looked at. -/
def validateRequest (cx : Context) (logout : Logout) : Rc × Logout :=
  match logout.profile.request with
  | some (.samlp2LogoutRequest logoutRequest) =>
    match logoutRequest.issuer with
    | none => (.undefined, logout)
    | some issuer =>
      let profile := { logout.profile with remoteProviderId := issuer.content }
      match profile.remoteProvider with
      | none => (.server .providerNotFound, { logout with profile })
      | some remoteProvider =>
        let (rc, profile) :=
          initResponse cx profile .samlp2LogoutResponse {} saml2StatusCodeSuccess none
        if rc ≠ .ok then (rc, { logout with profile })
        else logoutPrincipal cx { logout with profile } logoutRequest remoteProvider
  | _ => (.profile .missingRequest, logout)

/-! ## What the functions keep -/

section

variable {cx : Context}

theorem processAnyLogoutRequest_outcome (cx : Context) (profile : Profile) (text : Bytes) :
    RequestOutcome .samlp2LogoutRequest (·.toSamlp2RequestAbstract) cx profile
      (readLogoutRequest cx text) text (processAnyLogoutRequest cx profile text) :=
  processAnyRequest_outcome _ _ cx _ _ profile text

/-- Decryption changes the name identifiers only, of the profile and of the request. -/
theorem decryptRequest_eq (cx : Context) (profile : Profile) (request : Samlp2LogoutRequest) :
    ∃ nameIdentifier nameId encryptedId, (decryptRequest cx profile request).2 =
      { profile with
        nameIdentifier := nameIdentifier
        request := some (.samlp2LogoutRequest
          { request with nameId := nameId, encryptedId := encryptedId }) } := by
  obtain ⟨nameIdentifier, hdecrypted⟩ :=
    processNameIdentifierDecryption_eq cx profile request.nameId request.encryptedId
  unfold decryptRequest
  dsimp only
  rw [hdecrypted]
  exact ⟨_, _, _, rfl⟩

/-- Besides the name identifiers a call leaves what `processAnyLogoutRequest` does. -/
theorem processRequestMsg_eq (cx : Context) (logout : Logout) (text : Bytes) :
    let read := (processAnyLogoutRequest cx logout.profile text).2
    let after := (processRequestMsg cx logout text).2.profile
    after.server = read.server ∧ after.signatureStatus = read.signatureStatus ∧
      requestAbstract after = requestAbstract read := by
  dsimp only
  have houtcome := processAnyLogoutRequest_outcome cx logout.profile text
  unfold processRequestMsg
  dsimp only
  generalize processAnyLogoutRequest cx logout.profile text = result at houtcome ⊢
  by_cases hrc : result.1 = .ok
  · rw [if_neg (not_not.mpr hrc)]
    obtain ⟨nameIdentifier, nameId, encryptedId, hdecrypted⟩ :=
      decryptRequest_eq cx result.2 (readLogoutRequest cx text).node
    have hrequest : requestAbstract result.2 =
        some (readLogoutRequest cx text).node.toSamlp2RequestAbstract := by
      cases houtcome with
      | unreadable _ hne | noIssuer _ _ _ hne | unknownIssuer _ _ _ _ hne => exact absurd hrc hne
      | verified _ _ _ _ _ _ hprofile =>
        rw [hprofile]
        rfl
    split_ifs
    all_goals
      rw [hrequest, hdecrypted]
      exact ⟨rfl, rfl, rfl⟩
  · rw [if_pos hrc]
    exact ⟨rfl, rfl, rfl⟩

theorem processRequestMsg_server (cx : Context) (logout : Logout) (text : Bytes) :
    (processRequestMsg cx logout text).2.profile.server = logout.profile.server :=
  (processRequestMsg_eq cx logout text).1.trans (processAnyRequest_server cx _ _ _ text)

/-- Reading a request keeps the status and the request together with the origin. -/
theorem processRequestMsg_tracked (cx : Context) (logout : Logout) (text : Bytes)
    {origin : Option Origin}
    (hstatus : StatusTracked cx.toEnv logout.profile.signatureStatus origin)
    (hrequest : RequestTracked logout.profile origin) :
    let after := (processRequestMsg cx logout text).2.profile
    let originAfter := trackOrigin (·.toSamlp2RequestAbstract) logout.profile
      (readLogoutRequest cx text) text origin
    StatusTracked cx.toEnv after.signatureStatus originAfter ∧
      RequestTracked after originAfter := by
  obtain ⟨hserver, hsame, habstract⟩ := processRequestMsg_eq cx logout text
  refine ⟨?_, ?_⟩
  · rw [hsame]
    exact processAnyRequest_tracked _ _ text hstatus
  · rintro r hr
    rw [habstract] at hr
    obtain ⟨o, ho, hissuer⟩ := processAnyRequest_requestTracked _ _ text
      (fun profile a h => by simp [requestAbstract, h]) hrequest r hr
    exact ⟨o, ho, hissuer.trans (issuerProvider_congr hserver r).symm⟩

theorem setResponseStatusResponder_refuses (profile : Profile) (code2 : String) :
    Logout.Refuses profile (setResponseStatusResponder profile code2) := by
  obtain ⟨response, hprofile⟩ :=
    setResponseStatus_eq profile saml2StatusCodeResponder (some code2)
  rw [setResponseStatusResponder, hprofile]
  exact .of_eq rfl rfl rfl rfl

theorem logoutPrincipal_outcome (cx : Context) (logout : Logout) (request : Samlp2LogoutRequest)
    (remoteProvider : Provider) :
    Logout.ValidationOutcome logout.profile True
      (logoutPrincipal cx logout request remoteProvider) := by
  have hrefuse (code2 : String) := setResponseStatusResponder_refuses logout.profile code2
  unfold logoutPrincipal
  dsimp only
  split
  · exact .refused (by simp) (hrefuse _)
  · split
    · exact .refused (by simp) (hrefuse _)
    · split_ifs
      · exact .refused (by simp) (hrefuse _)
      · exact .refused (by simp) (hrefuse _)
      · exact .refused (by simp) (hrefuse _)
      · exact .accepted trivial rfl (Logout.removeRemoteAssertion_keepsReceived _ _ _ _)

/-- A validation acts on a stored request of a provider that the server knows, and otherwise leaves
the session as it is. -/
theorem validateRequest_outcome (cx : Context) (logout : Logout) :
    Logout.ValidationOutcome logout.profile
      (∃ request p, logout.profile.request = some (.samlp2LogoutRequest request) ∧
        issuerProvider logout.profile request.toSamlp2RequestAbstract = some p)
      (validateRequest cx logout) := by
  unfold validateRequest
  split
  · rename_i request hrequest
    split
    · exact .refused (by simp) (.of_eq rfl rfl rfl rfl)
    · rename_i issuer hissuer
      dsimp only
      split
      · exact .refused (by simp) (.of_eq rfl rfl rfl rfl)
      · rename_i p hprovider
        have hknown : issuerProvider logout.profile request.toSamlp2RequestAbstract = some p := by
          rw [issuerProvider, hissuer]
          exact hprovider
        obtain ⟨node, hresponse⟩ := initResponse_eq cx
          { logout.profile with remoteProviderId := issuer.content } .samlp2LogoutResponse {}
          saml2StatusCodeSuccess none
        split_ifs with hrc
        · refine .refused hrc ?_
          dsimp only
          rw [hresponse]
          exact .of_eq rfl rfl rfl rfl
        · rw [hresponse]
          cases logoutPrincipal_outcome cx { logout with profile := { logout.profile with
              remoteProviderId := issuer.content, response := node } } request p with
          | refused hrc hrefuses =>
            exact .refused hrc ⟨⟨hrefuses.server, hrefuses.signatureStatus, hrefuses.request⟩,
              hrefuses.session⟩
          | accepted _ hrc hkeeps =>
            exact .accepted ⟨request, p, hrequest, hknown⟩ hrc
              ⟨hkeeps.server, hkeeps.signatureStatus, hkeeps.request⟩
  · exact .refused (by simp) (.of_eq rfl rfl rfl rfl)

end

end Lasso.Saml20.Logout
