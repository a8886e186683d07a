import Lasso.Saml20.AssertionQuery
import Lasso.Saml20.NameIdAgreement
import Lasso.Saml20.SingleLogout

/-!
# The status of a response is the verdict of the validation

A request is received, validated and answered, by a new profile of one of three classes. The status
of the answer should say what the validation has returned, and an answer that is built should have a
message.

## Main definitions

* `Logout.answer`, `NameIdManagement.answer`, `AssertionQuery.answer` — the three calls.
* `Answer.Reports` — the answer says what it should.

## Main results

* `Logout.answer_reports` — a logout always does.
* `reports_iff` — when the two others do.
-/

namespace Lasso.Saml20

/-! ## The three calls -/

/-- What the calls leave: the code of the validation, that of the builder, and the profile. -/
structure Answer where
  validated : Rc
  built : Rc
  profile : ProfileObject

/-- An answer that is sent has a message, and its status is Success if and only if the request was
found valid. -/
def Answer.Reports (answer : Answer) : Prop :=
  answer.built = .ok →
    (answer.profile.msgUrl.isSome ∨ answer.profile.msgBody.isSome) ∧
      (Status.topLevel answer.profile.responseStatus = some saml2StatusCodeSuccess ↔
        answer.validated = .ok)

/-- Receive a logout request, validate and answer it. -/
def Logout.answer (cx : MessageContext) (logout : Logout) (requestMsg : Bytes) : Answer :=
  let received := (processRequestMsg cx.toContext logout requestMsg).2
  let (validated, logout) := validateRequest cx.toContext received
  let (built, profile) := sendResponse cx logout
  { validated, built, profile }

/-- Receive a request to manage a name identifier, validate and answer it. -/
def NameIdManagement.answer (cx : MessageContext) (profile : Profile) (requestMsg : Bytes) :
    Option Answer :=
  let received := (processRequestMsg cx.toManageContext profile requestMsg).2
  (validateRequest cx.toManageContext received).map fun (validated, profile) =>
    let (built, profile) := buildResponseMsg cx profile
    { validated, built, profile }

/-- Receive an assertion query, validate and answer it. -/
def AssertionQuery.answer (cx : MessageContext) (profile : Profile) (requestMsg : Bytes) : Answer :=
  let received := (processRequestMsg cx.toContext profile requestMsg).2
  let (validated, profile) := validateRequest cx.toContext received
  let (built, profile) := buildResponseMsg cx profile
  { validated, built, profile }

/-! ## Responses with a status -/

/-- The responses that `lasso_saml20_profile_set_response_status` can set the status of. -/
structure StatusClass (toNode : Samlp2StatusResponse → LassoNode) : Prop where
  isStatusResponse : ∀ r, (toNode r).isSamlp2StatusResponse = true
  set : ∀ (profile : Profile) (r : Samlp2StatusResponse) (code1 : String) (code2 : Option String),
    (setResponseStatus { profile with response := some (toNode r) } code1 code2).2 =
      { profile with
        response := some (toNode { r with status := some (Status.set r.status code1 code2) }) }
  status : ∀ (profile : Profile) (r : Samlp2StatusResponse),
    Profile.responseStatus { profile with response := some (toNode r) } = r.status

theorem statusClass_logout : StatusClass .samlp2LogoutResponse :=
  ⟨fun _ => rfl, fun _ _ _ _ => rfl, fun _ _ => rfl⟩

theorem statusClass_manage : StatusClass .samlp2ManageNameIdResponse :=
  ⟨fun _ => rfl, fun _ _ _ _ => rfl, fun _ _ => rfl⟩

theorem statusClass_query : StatusClass AssertionQuery.newResponse :=
  ⟨fun _ => rfl, fun _ _ _ _ => rfl, fun _ _ => rfl⟩

/-- A new response to the request of the profile, before it has a status. -/
def newStatusResponse (profile : Profile) : Samlp2StatusResponse where
  issuer := profile.server.map fun server => { content := server.provider.providerId }
  inResponseTo := (requestAbstract profile).bind (·.id)

/-- The response that is in a profile after `init_response`. -/
def withResponse (profile : Profile) (toNode : Samlp2StatusResponse → LassoNode)
    (status : Option Status) : Profile :=
  { profile with response := some (toNode { newStatusResponse profile with status }) }

section

variable {cx : Context} {profile : Profile} {toNode : Samlp2StatusResponse → LassoNode}
  {code1 : String} {code2 : Option String}

/-- What `initResponse` puts into an empty response. -/
def preparedResponse (profile : Profile) : Samlp2StatusResponse where
  issuer :=
    match profile.server with
    | some server => some { content := server.provider.providerId }
    | none => none
  inResponseTo :=
    match requestAbstract profile with
    | some request => request.id
    | none => none

/-- The response is there before its signature is set up, and gets its status afterwards. -/
theorem initResponse_eq_match (cx : Context) (profile : Profile)
    (toNode : Samlp2StatusResponse → LassoNode) (code1 : String) (code2 : Option String) :
    initResponse cx profile toNode {} code1 code2 =
      match setupMessageSignature cx profile with
      | .ok => (.ok, (setResponseStatus (withResponse profile toNode none) code1 code2).2)
      | rc => (rc, withResponse profile toNode none) := by
  have hnew : withResponse profile toNode none =
      { profile with response := some (toNode (preparedResponse profile)) } := by
    unfold withResponse newStatusResponse preparedResponse
    cases profile.server <;> cases requestAbstract profile <;> rfl
  rw [hnew]
  rfl

theorem initResponse_of_ok (h : StatusClass toNode)
    (hsetup : setupMessageSignature cx profile = .ok) :
    initResponse cx profile toNode {} code1 code2 =
      (.ok, withResponse profile toNode (some (Status.set none code1 code2))) := by
  rw [initResponse_eq_match, hsetup]
  exact congrArg (Prod.mk Rc.ok) (h.set profile _ code1 code2)

theorem initResponse_of_ne_ok (hsetup : setupMessageSignature cx profile ≠ .ok) :
    initResponse cx profile toNode {} code1 code2 =
      (setupMessageSignature cx profile, withResponse profile toNode none) := by
  rw [initResponse_eq_match]
  split
  · rename_i hok
    exact absurd hok hsetup
  · rfl

/-- The response to a request with a bad signature. -/
theorem refused_initResponse (cx : Context) (profile : Profile) (code1 : String)
    (code2 : Option String) (h : StatusClass toNode) (code : String) :
    ∃ status, setResponseStatusRequester (initResponse cx profile toNode {} code1 code2).2 code =
        withResponse profile toNode status ∧
      Status.topLevel status = some saml2StatusCodeRequester := by
  unfold setResponseStatusRequester
  by_cases hsetup : setupMessageSignature cx profile = .ok
  · rw [initResponse_of_ok h hsetup]
    exact ⟨_, h.set profile _ _ _, rfl⟩
  · rw [initResponse_of_ne_ok hsetup]
    exact ⟨_, h.set profile _ _ _, rfl⟩

theorem responseStatus_withResponse (h : StatusClass toNode) (status : Option Status) :
    (withResponse profile toNode status).responseStatus = status :=
  h.status profile _

end

/-- `Success` is the only status for a valid request. -/
theorem topLevel_set (status : Option Status) (code1 : String) (code2 : Option String) :
    Status.topLevel (some (Status.set status code1 code2)) = some code1 := rfl

/-! ## Sending what a validation has left -/

section

variable {cx : MessageContext} {validated : Rc}

/-- A response with the right status is sent right. -/
theorem reports_buildResponse {profile : Profile} {service : Option String} {method : HttpMethod}
    (h : Status.topLevel profile.responseStatus = some saml2StatusCodeSuccess ↔ validated = .ok) :
    Answer.Reports {
      validated
      built := (buildResponse cx profile service method).1
      profile := (buildResponse cx profile service method).2 } := by
  intro hbuilt
  exact ⟨sent_of_responseMessage hbuilt, h⟩

/-- A response with a wrong status is sent, unless it cannot be. -/
theorem reports_iff_not_sent {profile : Profile} {service : Option String} {method : HttpMethod}
    (h : ¬(Status.topLevel profile.responseStatus = some saml2StatusCodeSuccess ↔
      validated = .ok)) :
    Answer.Reports {
      validated
      built := (buildResponse cx profile service method).1
      profile := (buildResponse cx profile service method).2 } ↔
        (responseMessage cx profile service method).1 ≠ .ok :=
  ⟨fun hreports hbuilt => h (hreports hbuilt).2, fun hne hbuilt => absurd hbuilt hne⟩

/-- A response that denies the request is not Success, if it has a status at all. -/
theorem denyRequest_status (cx : Context) (profile : Profile)
    {toNode : Samlp2StatusResponse → LassoNode} (h : StatusClass toNode) :
    Status.topLevel (denyRequest cx profile toNode).2.responseStatus ≠
      some saml2StatusCodeSuccess := by
  have hcode (code1 : String) (code2 : Option String) (hne : code1 ≠ saml2StatusCodeSuccess) :
      Status.topLevel (initResponse cx profile toNode {} code1 code2).2.responseStatus ≠
        some saml2StatusCodeSuccess := by
    by_cases hsetup : setupMessageSignature cx profile = .ok
    · rw [initResponse_of_ok h hsetup, responseStatus_withResponse h, topLevel_set]
      simpa using hne
    · rw [initResponse_of_ne_ok hsetup, responseStatus_withResponse h]
      simp [Status.topLevel]
  unfold denyRequest
  split_ifs
  · exact hcode _ _ (by decide)
  · exact hcode _ _ (by decide)

end

namespace Logout

/-! ## Logout -/

/-- What a validation leaves for the builder: no response; one with the status that the code asks
for; or such a one put aside, while other providers are to be asked. -/
inductive Leaves (validated : Rc) (logout : Logout) : Prop where
  | nothing (hvalidated : validated ≠ .ok) (hinitial : logout.initialRemoteProviderId = none)
      (hresponse : logout.profile.response = none)
  | response (r : Samlp2StatusResponse) (hinitial : logout.initialRemoteProviderId = none)
      (hresponse : logout.profile.response = some (.samlp2LogoutResponse r))
      (hstatus : Status.topLevel r.status = some saml2StatusCodeSuccess ↔ validated = .ok)
  | aside (r : Samlp2StatusResponse) (id : String) (hvalidated : validated = .ok)
      (hinitial : logout.initialRemoteProviderId = some id)
      (hresponse : logout.initialResponse = some (.samlp2LogoutResponse r))
      (hstatus : Status.topLevel r.status = some saml2StatusCodeSuccess)

/-- Receiving a request leaves the response and what was put aside. -/
theorem processRequestMsg_response (cx : Context) (logout : Logout) (text : Bytes) :
    (processRequestMsg cx logout text).2.profile.response = logout.profile.response ∧
      (processRequestMsg cx logout text).2.initialRemoteProviderId =
        logout.initialRemoteProviderId := by
  have hread : (processAnyLogoutRequest cx logout.profile text).2.response =
      logout.profile.response := by
    cases processAnyLogoutRequest_outcome cx logout.profile text with
    | unreadable _ _ hprofile | noIssuer _ _ _ _ hprofile | unknownIssuer _ _ _ _ _ hprofile
    | verified _ _ _ _ _ _ hprofile =>
      exact (congrArg Profile.response hprofile).trans rfl
  unfold processRequestMsg
  dsimp only
  generalize processAnyLogoutRequest cx logout.profile text = result at hread ⊢
  obtain ⟨nameIdentifier, nameId, encryptedId, hdecrypted⟩ :=
    decryptRequest_eq cx result.2 (readLogoutRequest cx text).node
  rw [hdecrypted]
  split_ifs <;> exact ⟨hread, rfl⟩

/-- A refusal lowers the status. -/
theorem leaves_refuse {logout : Logout} {r : Samlp2StatusResponse} {rc : Rc} {code2 : String}
    (hrc : rc ≠ .ok) (hinitial : logout.initialRemoteProviderId = none)
    (hresponse : logout.profile.response = some (.samlp2LogoutResponse r)) :
    Leaves rc { logout with profile := setResponseStatusResponder logout.profile code2 } := by
  have hset : (setResponseStatusResponder logout.profile code2).response =
      some (.samlp2LogoutResponse { r with
        status := some (Status.set r.status saml2StatusCodeResponder (some code2)) }) := by
    unfold setResponseStatusResponder setResponseStatus
    rw [hresponse]
  refine .response _ hinitial hset ?_
  rw [topLevel_set]
  simp [hrc, saml2StatusCodeResponder, saml2StatusCodeSuccess]

theorem leaves_logoutPrincipal {cx : Context} {logout : Logout} {request : Samlp2LogoutRequest}
    {remoteProvider : Provider} {r : Samlp2StatusResponse}
    (hinitial : logout.initialRemoteProviderId = none)
    (hresponse : logout.profile.response = some (.samlp2LogoutResponse r))
    (hstatus : Status.topLevel r.status = some saml2StatusCodeSuccess)
    (hremote : logout.profile.remoteProviderId.isSome) :
    Leaves (logoutPrincipal cx logout request remoteProvider).1
      (logoutPrincipal cx logout request remoteProvider).2 := by
  unfold logoutPrincipal
  dsimp only
  split
  · exact leaves_refuse (by simp) hinitial hresponse
  · split
    · exact leaves_refuse (by simp) hinitial hresponse
    · rename_i session hsession
      split_ifs
      · exact leaves_refuse (by simp) hinitial hresponse
      · exact leaves_refuse (by simp) hinitial hresponse
      · exact leaves_refuse (by simp) hinitial hresponse
      · obtain ⟨id, hid⟩ := Option.isSome_iff_exists.mp hremote
        unfold Logout.removeRemoteAssertion
        dsimp only
        split_ifs
        · exact .aside r id rfl hid hresponse hstatus
        · exact .response r hinitial hresponse (iff_of_true hstatus rfl)

/-- A provider that is found has an ID. -/
theorem remoteProviderId_isSome {profile : Profile} {p : Provider}
    (h : profile.remoteProvider = some p) : profile.remoteProviderId.isSome := by
  obtain ⟨server, -, hserver⟩ := Option.bind_eq_some_iff.mp h
  cases hid : profile.remoteProviderId with
  | none =>
    rw [hid] at hserver
    cases hserver
  | some id => rfl

theorem leaves_validateRequest {cx : Context} {logout : Logout}
    (hinitial : logout.initialRemoteProviderId = none)
    (hresponse : logout.profile.response = none) :
    Leaves (validateRequest cx logout).1 (validateRequest cx logout).2 := by
  unfold validateRequest
  split
  · rename_i request hrequest
    split
    · exact .nothing (by simp) hinitial hresponse
    · rename_i issuer hissuer
      dsimp only
      split
      · exact .nothing (by simp) hinitial hresponse
      · rename_i remoteProvider hremote
        by_cases hsetup : setupMessageSignature cx
            { logout.profile with remoteProviderId := issuer.content } = .ok
        · rw [initResponse_of_ok statusClass_logout hsetup, if_neg (by simp)]
          refine leaves_logoutPrincipal hinitial rfl (topLevel_set _ _ _) ?_
          exact remoteProviderId_isSome hremote
        · rw [initResponse_of_ne_ok hsetup, if_pos hsetup]
          exact .response _ hinitial rfl (iff_of_false (by simp [Status.topLevel]) hsetup)
  · exact .nothing (by simp) hinitial hresponse

/-- The response that was put aside is Success still, though the logout may be partial. -/
theorem restoreInitialState_response (env : Env) {logout : Logout} {id : String}
    {r : Samlp2StatusResponse} (hinitial : logout.initialRemoteProviderId = some id)
    (hresponse : logout.initialResponse = some (.samlp2LogoutResponse r))
    (hstatus : Status.topLevel r.status = some saml2StatusCodeSuccess) :
    ∃ r', (restoreInitialState env logout).profile.response = some (.samlp2LogoutResponse r') ∧
      Status.topLevel r'.status = some saml2StatusCodeSuccess := by
  unfold restoreInitialState
  rw [hinitial]
  dsimp only
  split_ifs
  · unfold setResponseStatus
    dsimp only
    rw [hresponse]
    exact ⟨_, rfl, topLevel_set _ _ _⟩
  · exact ⟨r, hresponse, hstatus⟩

/-- What a validation has left is sent right. -/
theorem reports_sendResponse {cx : MessageContext} {validated : Rc} {logout : Logout}
    (h : Leaves validated logout) :
    Answer.Reports {
      validated
      built := (sendResponse cx logout).1
      profile := (sendResponse cx logout).2 } := by
  have hsend (hstatus : Status.topLevel
      (prepareResponse cx.toContext logout).2.profile.responseStatus =
        some saml2StatusCodeSuccess ↔ validated = .ok) : Answer.Reports {
      validated
      built := (sendResponse cx logout).1
      profile := (sendResponse cx logout).2 } := by
    unfold sendResponse
    dsimp only
    split_ifs with hrc
    · exact fun hbuilt => absurd hbuilt hrc
    · exact reports_buildResponse hstatus
  apply hsend
  unfold prepareResponse
  cases h with
  | nothing hvalidated hinitial hresponse =>
    dsimp only
    rw [restoreInitialState_of_none hinitial, hresponse]
    exact iff_of_false (denyRequest_status _ _ statusClass_logout) hvalidated
  | response r hinitial hresponse hstatus =>
    dsimp only
    rw [restoreInitialState_of_none hinitial, hresponse]
    simpa [LassoNode.isSamlp2StatusResponse, Profile.responseStatus, hresponse] using hstatus
  | aside r id hvalidated hinitial hresponse hstatus =>
    obtain ⟨r', hrestored, hstatus'⟩ := restoreInitialState_response cx.toEnv hinitial hresponse
      hstatus
    dsimp only
    rw [hrestored]
    simpa [LassoNode.isSamlp2StatusResponse, Profile.responseStatus, hrestored, hstatus'] using
      hvalidated

/-- The answer to a logout request says what the validation has returned. -/
theorem answer_reports (cx : MessageContext) {logout : Logout}
    (hinitial : logout.initialRemoteProviderId = none)
    (hresponse : logout.profile.response = none) (requestMsg : Bytes) :
    (answer cx logout requestMsg).Reports := by
  obtain ⟨hreceived, hreceived'⟩ := processRequestMsg_response cx.toContext logout requestMsg
  exact reports_sendResponse
    (leaves_validateRequest (hreceived'.trans hinitial) (hreceived.trans hresponse))

end Logout

/-! ## The shared validation -/

/-- The issuer of the request has been taken over as the remote provider. -/
def Addressed (profile : Profile) : Prop :=
  ∀ request ∈ requestAbstract profile, ∀ issuer ∈ request.issuer,
    profile.remoteProviderId = issuer.content

theorem Addressed.congr {before after : Profile} (h : Addressed before)
    (hrequest : requestAbstract after = requestAbstract before)
    (hremote : after.remoteProviderId = before.remoteProviderId) : Addressed after := by
  intro request hmem issuer hmem'
  rw [hrequest] at hmem
  exact hremote.trans (h request hmem issuer hmem')

theorem addressed_of_none {profile : Profile} (h : requestAbstract profile = none) :
    Addressed profile := by
  intro request hmem
  rw [h] at hmem
  cases hmem

theorem addressed_of_issuer {profile : Profile} {request : Samlp2RequestAbstract}
    (hrequest : requestAbstract profile = some request)
    (hissuer : ∀ issuer, request.issuer = some issuer →
      profile.remoteProviderId = issuer.content) : Addressed profile := by
  intro request' hmem issuer hmem'
  obtain rfl := Option.some.inj (hrequest.symm.trans hmem)
  exact hissuer issuer hmem'

/-- The request is one that a response is started for: its issuer is known, and the principal's
identity is there if it is needed. -/
structure Starts (profile : Profile) (needsIdentity : Bool) : Prop where
  issuer : ∃ request, requestAbstract profile = some request ∧ request.issuer.isSome
  identity : needsIdentity = true → profile.identity.isSome
  remoteProvider : profile.remoteProvider.isSome

section

variable {profile : Profile} {needsIdentity : Bool}

theorem validateRequest_of_starts (cx : Context)
    (toNode : Samlp2StatusResponse → LassoNode) {p : Provider} (haddressed : Addressed profile)
    (hstarts : Starts profile needsIdentity) (hremote : profile.remoteProvider = some p) :
    (checkSignatureStatus profile = .ok →
      Saml20.validateRequest cx profile needsIdentity toNode = (.ok p,
        (initResponse cx profile toNode {} saml2StatusCodeSuccess none).2)) ∧
    (checkSignatureStatus profile ≠ .ok → ∃ rc : ErrorRc,
      Saml20.validateRequest cx profile needsIdentity toNode = (.error rc,
        setResponseStatusRequester
          (initResponse cx profile toNode {} saml2StatusCodeSuccess none).2
          libStatusCodeInvalidSignature)) := by
  obtain ⟨request, hrequest, hissuer⟩ := hstarts.issuer
  obtain ⟨issuer, hissuer⟩ := Option.isSome_iff_exists.mp hissuer
  have hid := haddressed request hrequest issuer hissuer
  have hsame : { profile with remoteProviderId := issuer.content } = profile := by rw [← hid]
  obtain ⟨server, hserver, hprovider⟩ := Option.bind_eq_some_iff.mp hremote
  rw [hid] at hprovider
  have hidentity : ¬(needsIdentity && profile.identity.isNone) = true := by
    intro hmissing
    rw [Bool.and_eq_true, Option.isNone_iff_eq_none] at hmissing
    have hsome := hstarts.identity hmissing.1
    rw [hmissing.2] at hsome
    cases hsome
  have hvalidate : Saml20.validateRequest cx profile needsIdentity toNode =
      if h : checkSignatureStatus
          (initResponse cx profile toNode {} saml2StatusCodeSuccess none).2 ≠ .ok then
        (.error ⟨_, h⟩, setResponseStatusRequester
          (initResponse cx profile toNode {} saml2StatusCodeSuccess none).2
          libStatusCodeInvalidSignature)
      else (.ok p, (initResponse cx profile toNode {} saml2StatusCodeSuccess none).2) := by
    unfold Saml20.validateRequest
    rw [hrequest]
    dsimp only
    rw [if_neg hidentity, hissuer]
    dsimp only
    rw [hsame, hserver]
    dsimp only
    rw [hprovider]
  have hcheck : checkSignatureStatus
      (initResponse cx profile toNode {} saml2StatusCodeSuccess none).2 =
        checkSignatureStatus profile := by
    obtain ⟨node, hnode⟩ := initResponse_eq cx profile toNode {} saml2StatusCodeSuccess none
    rw [hnode]
    rfl
  rw [hvalidate]
  constructor
  · intro hok
    rw [dif_neg (by rw [hcheck]; exact not_not.mpr hok)]
  · intro hne
    rw [dif_pos (by rw [hcheck]; exact hne)]
    exact ⟨_, rfl⟩

theorem validateRequest_of_not_starts (cx : Context)
    (toNode : Samlp2StatusResponse → LassoNode) (haddressed : Addressed profile)
    (hstarts : ¬ Starts profile needsIdentity) :
    ∃ rc : ErrorRc,
      Saml20.validateRequest cx profile needsIdentity toNode = (.error rc, profile) := by
  unfold Saml20.validateRequest
  cases hrequest : requestAbstract profile with
  | none => exact ⟨_, rfl⟩
  | some request =>
    dsimp only
    by_cases hidentity : (needsIdentity && profile.identity.isNone) = true
    · rw [if_pos hidentity]
      exact ⟨_, rfl⟩
    · rw [if_neg hidentity]
      cases hissuer : request.issuer with
      | none => exact ⟨_, rfl⟩
      | some issuer =>
        have hid := haddressed request hrequest issuer hissuer
        have hsame : { profile with remoteProviderId := issuer.content } = profile := by rw [← hid]
        dsimp only
        rw [hsame]
        cases hserver : profile.server with
        | none => exact ⟨_, rfl⟩
        | some server =>
          dsimp only
          cases hprovider : server.getProvider issuer.content with
          | none => exact ⟨_, rfl⟩
          | some p =>
            refine absurd ⟨⟨request, hrequest, ?_⟩, ?_, ?_⟩ hstarts
            · rw [hissuer]
              rfl
            · intro hneeds
              cases hid : profile.identity with
              | none => simp [hneeds, hid] at hidentity
              | some identity => rfl
            · rw [Profile.remoteProvider, hserver, Option.bind_some, hid, hprovider]
              rfl

end

/-- The response with a status can be sent as the answer: the remote provider is known, has an URL
for it unless the answer goes back over SOAP, and the response can be written. -/
def Sends (cx : MessageContext) (profile : Profile) (toNode : Samlp2StatusResponse → LassoNode)
    (status : Option Status) (service : Option String) : Prop :=
  ∃ p, profile.remoteProvider = some p ∧
    HasMessage cx profile.server profile.msgRelayState
      (toNode { newStatusResponse profile with status })
      (if profile.httpRequestMethod = .soap then none
        else service.bind (getResponseUrl p · (httpMethodToBinding profile.httpRequestMethod)))
      profile.httpRequestMethod

theorem sends_iff (cx : MessageContext) (profile : Profile)
    {toNode : Samlp2StatusResponse → LassoNode} (h : StatusClass toNode) (status : Option Status)
    (service : Option String) :
    (responseMessage cx (withResponse profile toNode status) service
      profile.httpRequestMethod).1 = .ok ↔ Sends cx profile toNode status service := by
  have hremote : (withResponse profile toNode status).remoteProvider = profile.remoteProvider := rfl
  unfold responseMessage
  cases hprovider : getProvider (withResponse profile toNode status) with
  | error rc =>
    obtain ⟨hrc, hnone⟩ := getProvider_ne_ok hprovider
    refine iff_of_false hrc ?_
    rintro ⟨p, hp, -⟩
    rw [hremote, hp] at hnone
    cases hnone
  | ok p =>
    have hp : profile.remoteProvider = some p := getProvider_eq_ok.mp hprovider
    have hresponse : (withResponse profile toNode status).response.filter
        (·.isSamlp2StatusResponse) =
          some (toNode { newStatusResponse profile with status }) := by
      simp [withResponse, Option.filter, h.isStatusResponse]
    dsimp only
    rw [hresponse]
    refine messageByMethod_eq_ok.trans ⟨fun hmessage => ⟨p, hp, hmessage⟩, ?_⟩
    rintro ⟨p', hp', hmessage⟩
    obtain rfl := Option.some.inj (hp.symm.trans hp')
    exact hmessage

namespace AssertionQuery

/-! ## Assertion queries -/

section Received

variable {cx : Context} {profile : Profile} {requestMsg : Bytes}

theorem processSoapRequest_received :
    (processSoapRequest cx profile requestMsg).2.response = profile.response ∧
      Addressed (processSoapRequest cx profile requestMsg).2 := by
  unfold processSoapRequest
  dsimp only
  split
  · rename_i hrequest
    exact ⟨rfl, addressed_of_none hrequest⟩
  · rename_i request hrequest
    split
    · rename_i hissuer
      refine ⟨rfl, addressed_of_issuer hrequest fun issuer h => ?_⟩
      rw [hissuer] at h
      cases h
    · rename_i issuer hissuer
      have hcontent : ∀ issuer', request.issuer = some issuer' →
          issuer.content = issuer'.content := by
        intro issuer' h
        rw [Option.some.inj (hissuer.symm.trans h)]
      split
      · exact ⟨rfl, addressed_of_issuer hrequest hcontent⟩
      · exact ⟨rfl, addressed_of_issuer hrequest hcontent⟩

theorem processRequestMsg_received :
    (processRequestMsg cx profile requestMsg).2.response = profile.response ∧
      Addressed (processRequestMsg cx profile requestMsg).2 := by
  have hreceived :
      (processSoapRequest cx profile requestMsg).2.response = profile.response ∧
        Addressed (processSoapRequest cx profile requestMsg).2 := processSoapRequest_received
  unfold processRequestMsg
  generalize processSoapRequest cx profile requestMsg = result at hreceived ⊢
  dsimp only
  by_cases hrc : result.1 = .ok
  · rw [if_neg (not_not.mpr hrc)]
    split
    · rename_i query hquery
      split
      · exact hreceived
      · rename_i subject hsubject
        obtain ⟨nameIdentifier, hdecrypted⟩ :=
          processNameIdentifierDecryption_eq cx result.2 subject.nameId subject.encryptedId
        unfold decryptQuery
        dsimp only
        rw [hdecrypted]
        refine ⟨hreceived.1, hreceived.2.congr ?_ rfl⟩
        rw [requestAbstract, requestAbstract, hquery]
    · exact hreceived
  · rw [if_pos hrc]
    exact hreceived

end Received

/-- When an assertion query is answered right: a request that no response is started for is not
answered at all, since it cannot be signed; and a valid request has a response with its status,
since it can be signed, or none that could be sent. -/
structure Answers (cx : MessageContext) (received : Profile) : Prop where
  silent : ¬ Starts received false → setupMessageSignature cx.toContext received ≠ .ok
  signed : Starts received false → checkSignatureStatus received = .ok →
    setupMessageSignature cx.toContext received ≠ .ok → ¬ Sends cx received newResponse none none

theorem buildResponseMsg_of_some {cx : MessageContext} {profile : Profile} {response : LassoNode}
    (h : profile.response = some response) :
    buildResponseMsg cx profile = buildResponse cx profile none profile.httpRequestMethod := by
  unfold buildResponseMsg
  rw [h]
  rfl

/-- A response that is made up here comes without a message. -/
theorem buildResponseMsg_of_none (cx : MessageContext) {profile : Profile}
    (h : profile.response = none) :
    (buildResponseMsg cx profile).1 = setupMessageSignature cx.toContext profile ∧
      (buildResponseMsg cx profile).2.msgUrl = none ∧
      (buildResponseMsg cx profile).2.msgBody = none := by
  unfold buildResponseMsg
  rw [h]
  by_cases hsetup : setupMessageSignature cx.toContext profile = .ok
  · rw [initResponse_of_ok statusClass_query hsetup, hsetup]
    exact ⟨rfl, rfl, rfl⟩
  · rw [initResponse_of_ne_ok hsetup]
    exact ⟨rfl, rfl, rfl⟩

/-- The answer to an assertion query, once it is received. -/
theorem reports_iff_answers (cx : MessageContext) {profile : Profile}
    (hresponse : profile.response = none) (requestMsg : Bytes) :
    (answer cx profile requestMsg).Reports ↔
      Answers cx (processRequestMsg cx.toContext profile requestMsg).2 := by
  obtain ⟨hreceived, haddressed⟩ : _ ∧ Addressed (processRequestMsg cx.toContext profile
    requestMsg).2 := processRequestMsg_received
  unfold answer validateRequest
  generalize (processRequestMsg cx.toContext profile requestMsg).2 = received
    at hreceived haddressed ⊢
  have hnone := hreceived.trans hresponse
  dsimp only
  by_cases hstarts : Starts received false
  · obtain ⟨p, hremote⟩ := Option.isSome_iff_exists.mp hstarts.remoteProvider
    obtain ⟨hvalid, hinvalid⟩ := validateRequest_of_starts cx.toContext newResponse haddressed
      hstarts hremote
    by_cases hcheck : checkSignatureStatus received = .ok
    · rw [hvalid hcheck]
      by_cases hsetup : setupMessageSignature cx.toContext received = .ok
      · rw [initResponse_of_ok statusClass_query hsetup]
        dsimp only
        rw [buildResponseMsg_of_some rfl]
        refine iff_of_true (reports_buildResponse ?_) ⟨absurd hstarts, fun _ _ h => absurd hsetup h⟩
        rw [responseStatus_withResponse statusClass_query, topLevel_set]
        exact iff_of_true rfl rfl
      · have hsends := not_congr (sends_iff cx received statusClass_query none none)
        rw [initResponse_of_ne_ok hsetup]
        dsimp only
        rw [buildResponseMsg_of_some rfl, reports_iff_not_sent]
        · exact ⟨fun h => ⟨absurd hstarts, fun _ _ _ => hsends.mp h⟩,
            fun h => hsends.mpr (h.signed hstarts hcheck hsetup)⟩
        · rw [responseStatus_withResponse statusClass_query]
          simp [Status.topLevel]
    · obtain ⟨rc, hrefused⟩ := hinvalid hcheck
      obtain ⟨status, hresponse, hstatus⟩ := refused_initResponse cx.toContext received
        saml2StatusCodeSuccess none statusClass_query libStatusCodeInvalidSignature
      rw [hrefused, hresponse]
      dsimp only
      rw [buildResponseMsg_of_some rfl]
      refine iff_of_true (reports_buildResponse ?_) ⟨absurd hstarts, fun _ h => absurd h hcheck⟩
      rw [responseStatus_withResponse statusClass_query, hstatus]
      exact iff_of_false (by decide) rc.property
  · obtain ⟨rc, hrefused⟩ :=
      validateRequest_of_not_starts cx.toContext newResponse haddressed hstarts
    obtain ⟨hbuilt, hurl, hbody⟩ := buildResponseMsg_of_none cx hnone
    rw [hrefused]
    dsimp only
    constructor
    · intro hreports
      refine ⟨fun _ hsetup => ?_, fun h => absurd h hstarts⟩
      obtain ⟨hsent, -⟩ := hreports (hbuilt.trans hsetup)
      simp [hurl, hbody] at hsent
    · intro h hok
      exact absurd (hbuilt.symm.trans hok) (h.silent hstarts)

end AssertionQuery

namespace NameIdManagement

/-! ## Name identifier management -/

/-- The principal has a federation with the remote provider. -/
def Federated (profile : Profile) : Prop :=
  ∃ p, profile.remoteProvider = some p ∧ (profile.federationWith p.providerId).isSome

/-- The request is about the federation with the remote provider. -/
def Manages (profile : Profile) : Prop :=
  ∃ p federation request nameId, profile.remoteProvider = some p ∧
    profile.federationWith p.providerId = some federation ∧
    profile.request = some (.samlp2ManageNameIdRequest request) ∧
    request.nameId = some nameId ∧
    federation.verifyNameIdentifier (.saml2NameId nameId) = true

/-- The status of a response that nothing has lowered. -/
def successStatus : Status := Status.set none saml2StatusCodeSuccess none

/-- When a request to manage a name identifier is answered right. A valid request of a provider that
the principal has no federation with is refused, but the status stays Success; and one that is
carried out has a response without status, if it cannot be signed. -/
structure Answers (cx : MessageContext) (received : Profile) : Prop where
  federated : Starts received true → checkSignatureStatus received = .ok →
    setupMessageSignature cx.toContext received = .ok → Federated received ∨
      ¬ Sends cx received .samlp2ManageNameIdResponse (some successStatus)
        (some "ManageNameIDService")
  signed : Starts received true → checkSignatureStatus received = .ok →
    setupMessageSignature cx.toContext received ≠ .ok → ¬ Manages received ∨
      ¬ Sends cx received .samlp2ManageNameIdResponse none (some "ManageNameIDService")

/-- What receiving a request leaves in a new profile. -/
structure Received (received : Profile) : Prop where
  response : received.response = none
  addressed : Addressed received
  request : ∀ request ∈ received.request, ∃ r, request = .samlp2ManageNameIdRequest r

theorem Received.exists_request {received : Profile} (h : Received received)
    {needsIdentity : Bool} (hstarts : Starts received needsIdentity) :
    ∃ r, received.request = some (.samlp2ManageNameIdRequest r) := by
  obtain ⟨request, hrequest, -⟩ := hstarts.issuer
  cases hnode : received.request with
  | none =>
    rw [requestAbstract, hnode] at hrequest
    cases hrequest
  | some node =>
    obtain ⟨r, rfl⟩ := h.request node hnode
    exact ⟨r, rfl⟩

/-- What is stored of a request, before its name identifier is decrypted. -/
theorem processAnyRequest_received (cx : ManageContext) {profile : Profile}
    (hrequest : profile.request = none) (hresponse : profile.response = none)
    (requestMsg : Bytes) :
    let result := processAnyRequest .samlp2ManageNameIdRequest (·.toSamlp2RequestAbstract)
      cx.toContext (saml2NodeClass cx.toEnv cx.manageNameIdRequestInitFromXml) {} profile requestMsg
    Received result.2 ∧ (result.1 = .ok →
      requestAbstract result.2 =
        some (readRequest cx requestMsg).node.toSamlp2RequestAbstract) := by
  have houtcome := processAnyRequest_outcome .samlp2ManageNameIdRequest
    (·.toSamlp2RequestAbstract) cx.toContext
    (saml2NodeClass cx.toEnv cx.manageNameIdRequestInitFromXml) {} profile requestMsg
  dsimp only
  generalize processAnyRequest .samlp2ManageNameIdRequest _ _ _ _ _ _ = result at houtcome ⊢
  obtain ⟨rc, read⟩ := result
  have hstored : ∀ request : LassoNode, some request = some (.samlp2ManageNameIdRequest
      (readRequest cx requestMsg).node) → ∃ r, request = .samlp2ManageNameIdRequest r :=
    fun request h => ⟨_, Option.some.inj h⟩
  cases houtcome with
  | unreadable _ hrc hprofile =>
    dsimp only at hrc hprofile
    subst hprofile
    refine ⟨⟨hresponse, addressed_of_none ?_, fun request hmem => ?_⟩, fun h => absurd h hrc⟩
    · rw [requestAbstract, hrequest]
    · rw [hrequest] at hmem
      cases hmem
  | noIssuer method _ hissuer hrc hprofile =>
    dsimp only at hrc hprofile
    subst hprofile
    refine ⟨⟨hresponse, addressed_of_issuer rfl fun issuer h => ?_, fun request hmem => ?_⟩,
      fun h => absurd h hrc⟩
    · cases hissuer.symm.trans h
    · exact hstored request hmem.symm
  | unknownIssuer method _ issuer hissuer hrc hprofile _ =>
    dsimp only at hrc hprofile
    subst hprofile
    refine ⟨⟨hresponse, addressed_of_issuer rfl fun issuer' h => ?_, fun request hmem => ?_⟩,
      fun h => absurd h hrc⟩
    · obtain rfl := Option.some.inj (hissuer.symm.trans h)
      rfl
    · exact hstored request hmem.symm
  | verified method _ issuer hissuer p hrc hprofile _ =>
    dsimp only at hrc hprofile
    subst hprofile
    refine ⟨⟨hresponse, addressed_of_issuer rfl fun issuer' h => ?_, fun request hmem => ?_⟩,
      fun _ => rfl⟩
    · obtain rfl := Option.some.inj (hissuer.symm.trans h)
      rfl
    · exact hstored request hmem.symm

theorem processRequestMsg_received (cx : ManageContext) {profile : Profile}
    (hrequest : profile.request = none) (hresponse : profile.response = none)
    (requestMsg : Bytes) : Received (processRequestMsg cx profile requestMsg).2 := by
  obtain ⟨hread, habstract⟩ := processAnyRequest_received cx hrequest hresponse requestMsg
  unfold processRequestMsg
  generalize processAnyRequest .samlp2ManageNameIdRequest _ _ _ _ _ _ = result
    at hread habstract ⊢
  dsimp only
  by_cases hrc : result.1 = .ok
  · rw [if_neg (not_not.mpr hrc)]
    have hdecrypted : Received
        (decryptRequest cx.toContext result.2 (readRequest cx requestMsg).node).2 := by
      obtain ⟨nameIdentifier, hdecrypted⟩ := processNameIdentifierDecryption_eq cx.toContext
        result.2 (readRequest cx requestMsg).node.nameId
        (readRequest cx requestMsg).node.encryptedId
      unfold decryptRequest
      dsimp only
      rw [hdecrypted]
      exact ⟨hread.response, hread.addressed.congr (habstract hrc).symm rfl,
        fun request hmem => ⟨_, (Option.some.inj hmem).symm⟩⟩
    split_ifs
    · exact hdecrypted
    · exact hdecrypted
  · rw [if_pos hrc]
    exact hread

/-- The ways in which the last part of a validation can end, with a response in the profile. -/
inductive Managed (received : Profile) (status : Option Status) (result : Rc × Profile) : Prop where
  | notFederated (hfederated : ¬ Federated received) (hmanages : ¬ Manages received)
      (hrc : result.1 ≠ .ok)
      (hprofile : result.2 = withResponse received .samlp2ManageNameIdResponse status)
  | refused (hfederated : Federated received) (hmanages : ¬ Manages received)
      (hrc : result.1 ≠ .ok) (status' : Option Status)
      (hprofile : result.2 = withResponse received .samlp2ManageNameIdResponse status')
      (hstatus : Status.topLevel status' ≠ some saml2StatusCodeSuccess)
  | managed (hfederated : Federated received) (hmanages : Manages received)
      (hrc : result.1 = .ok) (identity : Option Identity)
      (hprofile : result.2 = { withResponse received .samlp2ManageNameIdResponse status with
        identity := identity })

theorem manages_iff {received : Profile} {p : Provider} {request : Samlp2ManageNameIdRequest}
    (hremote : received.remoteProvider = some p)
    (hrequest : received.request = some (.samlp2ManageNameIdRequest request)) :
    Manages received ↔ ∃ federation nameId,
      received.federationWith p.providerId = some federation ∧ request.nameId = some nameId ∧
        federation.verifyNameIdentifier (.saml2NameId nameId) = true := by
  constructor
  · rintro ⟨p', federation, request', nameId, hp, hfed, hreq, hname, hverify⟩
    obtain rfl := Option.some.inj (hremote.symm.trans hp)
    cases Option.some.inj (hrequest.symm.trans hreq)
    exact ⟨federation, nameId, hfed, hname, hverify⟩
  · rintro ⟨federation, nameId, hfed, hname, hverify⟩
    exact ⟨p, federation, request, nameId, hremote, hfed, hrequest, hname, hverify⟩

theorem manageNameId_managed {received : Profile} {p : Provider}
    {request : Samlp2ManageNameIdRequest} (hremote : received.remoteProvider = some p)
    (hrequest : received.request = some (.samlp2ManageNameIdRequest request))
    (status : Option Status) :
    Managed received status
      (manageNameId (withResponse received .samlp2ManageNameIdResponse status) p request) := by
  have hlowered (code1 code2 : String) :
      (setResponseStatus (withResponse received .samlp2ManageNameIdResponse status) code1
        (some code2)).2 = withResponse received .samlp2ManageNameIdResponse
          (some (Status.set status code1 (some code2))) :=
    statusClass_manage.set received _ code1 (some code2)
  have hmanages := manages_iff hremote hrequest
  have houtcome :=
    manageNameId_outcome (withResponse received .samlp2ManageNameIdResponse status) p request
  generalize manageNameId _ _ _ = result at houtcome ⊢
  cases houtcome with
  | notFederated hfederation =>
    replace hfederation : received.federationWith p.providerId = none := hfederation
    refine .notFederated ?_ ?_ (by simp) rfl
    · rintro ⟨p', hp, hsome⟩
      obtain rfl := Option.some.inj (hremote.symm.trans hp)
      rw [hfederation] at hsome
      cases hsome
    · rw [hmanages]
      simp [hfederation]
  | noNameId hfederation hnameId =>
    replace hfederation : received.federationWith p.providerId = some _ := hfederation
    refine .refused ⟨p, hremote, by rw [hfederation]; rfl⟩ ?_ (by simp) _ (hlowered _ _) ?_
    · rw [hmanages]
      simp [hnameId]
    · rw [topLevel_set]
      decide
  | unknownPrincipal hfederation hnameId hverify =>
    replace hfederation : received.federationWith p.providerId = some _ := hfederation
    refine .refused ⟨p, hremote, by rw [hfederation]; rfl⟩ ?_ (by simp) _ (hlowered _ _) ?_
    · rw [hmanages]
      simp [hfederation, hnameId, hverify]
    · rw [topLevel_set]
      decide
  | removed habout | changed habout =>
    have hfederation : received.federationWith p.providerId = some _ := habout.federationWith_eq
    exact .managed ⟨p, hremote, by rw [hfederation]; rfl⟩
      (hmanages.mpr ⟨_, _, hfederation, habout.nameId_eq, habout.verified⟩) rfl _ rfl

theorem buildResponseMsg_of_some {cx : MessageContext} {profile : Profile}
    {r : Samlp2StatusResponse} (h : profile.response = some (.samlp2ManageNameIdResponse r)) :
    buildResponseMsg cx profile =
      buildResponse cx profile (some "ManageNameIDService") profile.httpRequestMethod := by
  unfold buildResponseMsg
  rw [h]
  rfl

/-- A request that no response was started for is denied. -/
theorem reports_buildResponseMsg {cx : MessageContext} {profile : Profile} {validated : Rc}
    (hresponse : profile.response = none) (hvalidated : validated ≠ .ok) :
    Answer.Reports {
      validated
      built := (buildResponseMsg cx profile).1
      profile := (buildResponseMsg cx profile).2 } := by
  have hdenied := denyRequest_status cx.toContext profile statusClass_manage
  unfold buildResponseMsg
  rw [hresponse]
  simp only [Option.any_none, Bool.false_eq_true, if_false]
  generalize denyRequest cx.toContext profile .samlp2ManageNameIdResponse = result at hdenied ⊢
  by_cases hrc : result.1 = .ok
  · rw [if_neg (not_not.mpr hrc)]
    exact reports_buildResponse (iff_of_false hdenied hvalidated)
  · rw [if_pos hrc]
    exact fun hbuilt => absurd hbuilt hrc

/-- The answer after the last part of a validation, for the status that the response had before. -/
theorem reports_managed (cx : MessageContext) {received : Profile} {status : Option Status}
    {result : Rc × Profile} (h : Managed received status result) :
    Answer.Reports {
      validated := result.1
      built := (buildResponseMsg cx result.2).1
      profile := (buildResponseMsg cx result.2).2 } ↔
        (Status.topLevel status = some saml2StatusCodeSuccess → Federated received ∨
          ¬ Sends cx received .samlp2ManageNameIdResponse status (some "ManageNameIDService")) ∧
        (Status.topLevel status ≠ some saml2StatusCodeSuccess → ¬ Manages received ∨
          ¬ Sends cx received .samlp2ManageNameIdResponse status (some "ManageNameIDService")) := by
  have hsends :=
    not_congr (sends_iff cx received statusClass_manage status (some "ManageNameIDService"))
  cases h with
  | notFederated hfederated hmanages hrc hprofile =>
    rw [hprofile, buildResponseMsg_of_some rfl]
    by_cases htop : Status.topLevel status = some saml2StatusCodeSuccess
    · have hwrong : ¬(Status.topLevel status = some saml2StatusCodeSuccess ↔ result.1 = .ok) :=
        fun hiff => hrc (hiff.mp htop)
      refine Iff.trans (reports_iff_not_sent hwrong) ?_
      exact ⟨fun h => ⟨fun _ => .inr (hsends.mp h), absurd htop⟩,
        fun h => hsends.mpr ((h.1 htop).resolve_left hfederated)⟩
    · exact iff_of_true (reports_buildResponse (iff_of_false htop hrc))
        ⟨fun h => absurd h htop, fun _ => .inl hmanages⟩
  | refused hfederated hmanages hrc status' hprofile hstatus =>
    rw [hprofile, buildResponseMsg_of_some rfl]
    exact iff_of_true (reports_buildResponse (iff_of_false hstatus hrc))
      ⟨fun _ => .inl hfederated, fun _ => .inl hmanages⟩
  | managed hfederated hmanages hrc identity hprofile =>
    rw [hprofile, buildResponseMsg_of_some rfl]
    by_cases htop : Status.topLevel status = some saml2StatusCodeSuccess
    · exact iff_of_true (reports_buildResponse (iff_of_true htop hrc))
        ⟨fun _ => .inl hfederated, absurd htop⟩
    · have hwrong : ¬(Status.topLevel status = some saml2StatusCodeSuccess ↔ result.1 = .ok) :=
        fun hiff => htop (hiff.mpr hrc)
      refine Iff.trans (reports_iff_not_sent hwrong) ?_
      exact ⟨fun h => ⟨fun h' => absurd h' htop, fun _ => .inr (hsends.mp h)⟩,
        fun h => hsends.mpr ((h.2 htop).resolve_left (not_not.mpr hmanages))⟩

/-- The answer to a request, once it is received. -/
theorem reports_iff_answers (cx : MessageContext) {profile : Profile}
    (hrequest : profile.request = none) (hresponse : profile.response = none)
    (requestMsg : Bytes) :
    ∃ result, answer cx profile requestMsg = some result ∧
      (result.Reports ↔
        Answers cx (processRequestMsg cx.toManageContext profile requestMsg).2) := by
  have hreceived := processRequestMsg_received cx.toManageContext hrequest hresponse requestMsg
  unfold answer validateRequest
  generalize (processRequestMsg cx.toManageContext profile requestMsg).2 = received at hreceived ⊢
  dsimp only
  by_cases hstarts : Starts received true
  · obtain ⟨p, hremote⟩ := Option.isSome_iff_exists.mp hstarts.remoteProvider
    obtain ⟨hvalid, hinvalid⟩ := validateRequest_of_starts cx.toContext
      .samlp2ManageNameIdResponse hreceived.addressed hstarts hremote
    by_cases hcheck : checkSignatureStatus received = .ok
    · obtain ⟨request, hrequest⟩ := hreceived.exists_request hstarts
      have hstored (status : Option Status) :
          (withResponse received .samlp2ManageNameIdResponse status).request =
            some (.samlp2ManageNameIdRequest request) := hrequest
      have hmanaged (status : Option Status) :=
        reports_managed cx (manageNameId_managed hremote hrequest status)
      rw [hvalid hcheck]
      by_cases hsetup : setupMessageSignature cx.toContext received = .ok
      · have htop : Status.topLevel (some successStatus) = some saml2StatusCodeSuccess := rfl
        rw [initResponse_of_ok statusClass_manage hsetup]
        dsimp only
        rw [hstored]
        refine ⟨_, rfl, (hmanaged (some successStatus)).trans ?_⟩
        exact ⟨fun h => ⟨fun _ _ _ => h.1 htop, fun _ _ hne => absurd hsetup hne⟩,
          fun h => ⟨fun _ => h.federated hstarts hcheck hsetup, absurd htop⟩⟩
      · have htop : Status.topLevel none ≠ some saml2StatusCodeSuccess := by decide
        rw [initResponse_of_ne_ok hsetup]
        dsimp only
        rw [hstored]
        refine ⟨_, rfl, (hmanaged none).trans ?_⟩
        exact ⟨fun h => ⟨fun _ _ hok => absurd hok hsetup, fun _ _ _ => h.2 htop⟩,
          fun h => ⟨fun h' => absurd h' htop, fun _ => h.signed hstarts hcheck hsetup⟩⟩
    · obtain ⟨rc, hrefused⟩ := hinvalid hcheck
      obtain ⟨status, hresponse, hstatus⟩ := refused_initResponse cx.toContext received
        saml2StatusCodeSuccess none statusClass_manage libStatusCodeInvalidSignature
      rw [hrefused, hresponse]
      refine ⟨_, rfl, ?_⟩
      dsimp only
      rw [buildResponseMsg_of_some rfl]
      refine iff_of_true (reports_buildResponse ?_)
        ⟨fun _ h => absurd h hcheck, fun _ h => absurd h hcheck⟩
      rw [responseStatus_withResponse statusClass_manage, hstatus]
      exact iff_of_false (by decide) rc.property
  · obtain ⟨rc, hrefused⟩ := validateRequest_of_not_starts cx.toContext
      .samlp2ManageNameIdResponse hreceived.addressed hstarts
    rw [hrefused]
    exact ⟨_, rfl, iff_of_true (reports_buildResponseMsg hreceived.response rc.property)
      ⟨fun h => absurd h hstarts, fun h => absurd h hstarts⟩⟩

end NameIdManagement

/-! ## All three -/

/-- New profiles answer right: a logout always, the two others under their conditions on what they
have received. -/
theorem reports_iff (cx : MessageContext) (logout : Logout) (profile : Profile)
    (hinitial : logout.initialRemoteProviderId = none)
    (hlogout : logout.profile.response = none) (hrequest : profile.request = none)
    (hresponse : profile.response = none) (requestMsg : Bytes) :
    (Logout.answer cx logout requestMsg).Reports ∧
      (∃ result, NameIdManagement.answer cx profile requestMsg = some result ∧
        (result.Reports ↔ NameIdManagement.Answers cx
          (NameIdManagement.processRequestMsg cx.toManageContext profile requestMsg).2)) ∧
      ((AssertionQuery.answer cx profile requestMsg).Reports ↔ AssertionQuery.Answers cx
        (AssertionQuery.processRequestMsg cx.toContext profile requestMsg).2) :=
  ⟨Logout.answer_reports cx hinitial hlogout requestMsg,
    NameIdManagement.reports_iff_answers cx hrequest hresponse requestMsg,
    AssertionQuery.reports_iff_answers cx hresponse requestMsg⟩

/-! ### Alice -/

/-- The messages of `alice`, which can all be written. -/
def aliceMessageCx : MessageContext :=
  { NameIdManagement.agreeingCx with
    exportToBase64 := fun _ => some "response"
    exportToSoap := fun _ => some "<response/>"
    exportToXml := fun _ => none
    exportToQuery := fun _ _ => none
    newArtifact := fun _ => none }

/-- A new profile of `idp.example`, with an identity. -/
def alicePrincipal (identity : Option Identity) : Profile where
  server := some NameIdManagement.agreeingIdp
  identity := identity

/-- `sp.example` renames the principal that it knows, and the response says that it was done. -/
theorem alice_reported :
    ∃ result, NameIdManagement.answer aliceMessageCx
      (alicePrincipal (NameIdManagement.aliceProfile NameIdManagement.agreeingIdp
        "https://sp.example").identity) "<q>".toList = some result ∧ result.Reports := by
  obtain ⟨-, ⟨result, hresult, hreports⟩, -⟩ := reports_iff aliceMessageCx {}
    (alicePrincipal (NameIdManagement.aliceProfile NameIdManagement.agreeingIdp
      "https://sp.example").identity) rfl rfl rfl rfl "<q>".toList
  refine ⟨result, hresult, hreports.mpr ⟨fun _ _ _ => .inl ?_, fun _ _ h => absurd ?_ h⟩⟩
  · exact ⟨_, rfl, rfl⟩
  · rfl

/-- `sp.example` renames a principal who has no federation with it: the request is refused, and
the response says Success. An assertion query that cannot be read is answered without a message. -/
theorem alice_misreported :
    (∃ result, NameIdManagement.answer aliceMessageCx (alicePrincipal (some {})) "<q>".toList =
      some result ∧ ¬ result.Reports) ∧
    ¬ (AssertionQuery.answer aliceMessageCx (alicePrincipal (some {})) "<q>".toList).Reports := by
  constructor
  · refine ⟨_, rfl, fun h => ?_⟩
    have hrefused := (h rfl).2.mp rfl
    cases hrefused
  · intro h
    obtain hsent | hsent := (h rfl).1
    · cases hsent
    · cases hsent

end Lasso.Saml20
