import Lasso.Library.Run
import Lasso.Saml20.MustAuthenticate
import Lasso.Saml20.SingleSignOn

/-!
# The status of a response in single sign-on

An identity provider sets the status of its response when it reads the request, when it may not ask
the principal, and when it validates the request, any number of times. A setting without second
level keeps the second level of the one before.

## Main definitions

* `Effect` — what a call does to the status of the response.
* `StatusRun` — a login in a run of calls, with the last setting of its response.

## Main results

* `responseStatus_call` — the status after a call, by its effect.
* `lastWins_iff_fits` — the runs in which the last setting is the status.
-/

namespace Lasso.Saml20.SingleSignOn

/-- What `lasso_saml20_profile_set_response_status` is called with. -/
structure Setting where
  code1 : String
  code2 : Option String

/-- What a call does to the status of the response. -/
inductive Effect where
  | keep
  | set (setting : Setting)
  /-- A new response, which has no status if its signature cannot be set up. -/
  | renew (setting : Option Setting)

namespace Effect

/-- The status after a call. -/
def apply : Effect → Option Status → Option Status
  | keep, status => status
  | set setting, status => some (Status.set status setting.code1 setting.code2)
  | renew setting, _ => setting.map fun setting => Status.set none setting.code1 setting.code2

/-- The last setting of the response after a call. -/
def last : Effect → Option Setting → Option Setting
  | keep, setting => setting
  | set setting, _ => some setting
  | renew setting, _ => setting

end Effect

/-- The status is the one of a setting. -/
def Setting.IsStatus (setting : Setting) (status : Option Status) : Prop :=
  Status.topLevel status = some setting.code1 ∧ Status.secondLevel status = setting.code2

/-! ## The calls -/

/-- The calls of an identity provider about a response. -/
inductive Call where
  /-- `lasso_login_process_authn_request_msg` -/
  | process (authnRequestMsg : Option Bytes)
  /-- `lasso_login_must_authenticate` -/
  | mustAuthenticate
  /-- `lasso_login_validate_request_msg` -/
  | validate (authenticationResult isConsentObtained : Bool) (uniqueId : String)

/-- The login after a call. -/
def call (cx : Context) (login : Login) : Call → Login
  | .process msg => (processAuthnRequestMsg cx login msg).2
  | .mustAuthenticate =>
    { login with profile := (Saml20.mustAuthenticate cx.toEnv login.profile).2 }
  | .validate authenticationResult isConsentObtained uniqueId =>
    (validateRequestMsg login authenticationResult isConsentObtained uniqueId).2

/-- The part of `processAuthnRequest` before the answer: the login and the response that the answer
is made with, or what is returned without one. -/
def prepareAnswer (login : Login) : Except (Rc × Login) (Login × Samlp2StatusResponse) :=
  match login.profile.request with
  | none => .error (.profile .missingRequest, login)
  | some (.samlp2AuthnRequest request) =>
    let response : Samlp2StatusResponse := { inResponseTo := request.id }
    let login := { login with protocolProfile := .none }
    match request.issuer.bind (·.content), login.profile.remoteProvider with
    | none, _ => .error (.profile .invalidRequest, login)
    | some _, none => .error (.profile .unknownProvider, login)
    | some _, some remoteProvider =>
      let profile := setRequestRoles login.profile
      if (request.protocolBinding.isSome ∨ request.assertionConsumerServiceURL.isSome) ∧
          request.assertionConsumerServiceIndex ≠ -1 then
        .error (.profile .invalidRequest, { login with profile })
      else
        let (rc, protocolProfile, request) := findProtocolProfile remoteProvider request
        let login := { login with
          protocolProfile
          profile := { profile with request := some (.samlp2AuthnRequest request) } }
        if rc = .ok then .ok (login, response) else .error (rc, login)
  | some _ => .error (.profile .invalidMsg, login)

/-- The login that a call gives to `answerAuthnRequest`, if it gets that far. -/
def answered (cx : Context) (login : Login) : Option Bytes → Option Login
  | none => (prepareAnswer login).toOption.map (·.1)
  | some text =>
    let (rc, profile) := processAnyAuthnRequest cx login.profile text
    if rc = .ok then (prepareAnswer { login with profile }).toOption.map (·.1) else none

/-- The setting of an answer. -/
def answerSetting (profile : Profile) : Setting :=
  if mustVerifyAuthnRequestSignature profile ∧ profile.signatureStatus ≠ .ok then
    { code1 := saml2StatusCodeRequester, code2 := some libStatusCodeInvalidSignature }
  else { code1 := saml2StatusCodeSuccess, code2 := none }

/-- The setting of a validation. -/
def validateSetting (login : Login) (authenticationResult isConsentObtained : Bool)
    (uniqueId : String) : Setting :=
  if !authenticationResult then
    { code1 := saml2StatusCodeResponder, code2 := some saml2StatusCodeRequestDenied }
  else if mustVerifyAuthnRequestSignature login.profile ∧ login.profile.signatureStatus ≠ .ok then
    { code1 := saml2StatusCodeRequester, code2 := some libStatusCodeInvalidSignature }
  else
    match (processFederation login isConsentObtained uniqueId).1 with
    | .ok => { code1 := saml2StatusCodeSuccess, code2 := none }
    | .login .federationNotFound =>
      { code1 := saml2StatusCodeRequester, code2 := some libStatusCodeFederationDoesNotExist }
    | _ => { code1 := saml2StatusCodeResponder, code2 := some saml2StatusCodeRequestDenied }

/-- A setting has an effect on a SAML 2.0 response only. -/
def Setting.effect (setting : Setting) (profile : Profile) : Effect :=
  if profile.response.any (·.isSamlp2StatusResponse) then .set setting else .keep

/-- A request that may not be asked about is refused to a principal without an identity. -/
def setsNoPassive (env : Env) (profile : Profile) : Bool :=
  match profile.request with
  | some (.samlp2AuthnRequest request) =>
    !(request.forceAuthn && !request.isPassive) &&
      !(!matchesSession env profile.session request && !request.isPassive) &&
        (profile.identity.isNone && request.isPassive)
  | _ => false

/-- The effect of a call. -/
def effect (cx : Context) (login : Login) : Call → Effect
  | .process msg =>
    match answered cx login msg with
    | none => .keep
    | some login =>
      .renew (if setupMessageSignature cx login.profile = .ok then
        some (answerSetting login.profile) else none)
  | .mustAuthenticate =>
    if setsNoPassive cx.toEnv login.profile then
      Setting.effect { code1 := saml2StatusCodeResponder, code2 := some saml2StatusCodeNoPassive }
        login.profile
    else .keep
  | .validate authenticationResult isConsentObtained uniqueId =>
    (validateSetting login authenticationResult isConsentObtained uniqueId).effect login.profile

/-! ## The status after a call -/

section

variable {cx : Context} {login : Login} {profile : Profile}

theorem responseStatus_setResponseStatus (profile : Profile) (setting : Setting) :
    (setResponseStatus profile setting.code1 setting.code2).2.responseStatus =
      (setting.effect profile).apply profile.responseStatus := by
  unfold setResponseStatus Setting.effect
  cases hresponse : profile.response with
  | none => rfl
  | some node =>
    cases node <;>
      simp [Profile.responseStatus, hresponse, LassoNode.isSamlp2StatusResponse, Effect.apply]

/-- A new response has the setting that it is made with, if its signature can be set up. -/
theorem responseStatus_initResponse (cx : Context) (profile : Profile)
    (response : Samlp2StatusResponse) (hnew : response.status = none) (setting : Setting) :
    (initResponse cx profile
      (fun response => .samlp2Response { toSamlp2StatusResponse := response }) response
      setting.code1 setting.code2).2.responseStatus =
        (Effect.renew (if setupMessageSignature cx profile = .ok then some setting else none)).apply
          profile.responseStatus := by
  have hsetup (response : LassoNode) :
      setupMessageSignature cx { profile with response := some response } =
        setupMessageSignature cx profile := rfl
  unfold initResponse
  extract_lets statusResponse prepared
  have hprepared : setupMessageSignature cx prepared = setupMessageSignature cx profile := hsetup _
  have hstatus : statusResponse.status = none := hnew
  cases hcode : setupMessageSignature cx profile with
  | ok =>
    rw [hprepared, hcode, if_pos rfl]
    exact congrArg (fun status => some (Status.set status setting.code1 setting.code2)) hstatus
  | _ =>
    rw [hprepared, hcode, if_neg (by simp)]
    exact hstatus

theorem processAuthnRequest_eq (cx : Context) (login : Login) :
    processAuthnRequest cx login =
      match prepareAnswer login with
      | .error result => result
      | .ok (login, response) => answerAuthnRequest cx login response := by
  unfold processAuthnRequest prepareAnswer
  cases login.profile.request with
  | none => rfl
  | some node =>
    cases node with
    | samlp2AuthnRequest request =>
      dsimp only
      cases request.issuer.bind (·.content) with
      | none => rfl
      | some issuer =>
        cases login.profile.remoteProvider with
        | none => rfl
        | some remoteProvider =>
          dsimp only
          split_ifs <;> rfl
    | _ => rfl

/-- The preparation of an answer leaves the old response alone, and the new one has no status. -/
theorem prepareAnswer_cases (login : Login) :
    (∃ rc after, prepareAnswer login = .error (rc, after) ∧
        after.profile.response = login.profile.response) ∨
      ∃ after response, prepareAnswer login = .ok (after, response) ∧ response.status = none := by
  unfold prepareAnswer
  dsimp only
  split
  · exact .inl ⟨_, _, rfl, rfl⟩
  · split
    · exact .inl ⟨_, _, rfl, rfl⟩
    · exact .inl ⟨_, _, rfl, rfl⟩
    · split_ifs
      · exact .inl ⟨_, _, rfl, rfl⟩
      · exact .inr ⟨_, _, rfl, rfl⟩
      · exact .inl ⟨_, _, rfl, rfl⟩
  · exact .inl ⟨_, _, rfl, rfl⟩

theorem responseStatus_answerAuthnRequest (cx : Context) (login : Login)
    {response : Samlp2StatusResponse} (hnew : response.status = none) :
    (answerAuthnRequest cx login response).2.profile.responseStatus =
      (Effect.renew (if setupMessageSignature cx login.profile = .ok then
        some (answerSetting login.profile) else none)).apply login.profile.responseStatus := by
  unfold answerAuthnRequest answerSetting
  dsimp only
  split_ifs with hverdict hsetup
  all_goals
    rw [responseStatus_initResponse cx login.profile response hnew { code1 := _, code2 := _ }]
    simp only [*, if_true, if_false]

theorem processAuthnRequest_response_of_error {result : Rc × Login}
    (h : prepareAnswer login = .error result) :
    (processAuthnRequest cx login).2.profile.response = login.profile.response := by
  rcases prepareAnswer_cases login with ⟨rc, after, hprepare, hresponse⟩ | ⟨after, _, hprepare, -⟩
  · rw [processAuthnRequest_eq, hprepare]
    exact hresponse
  · rw [h] at hprepare
    cases hprepare

/-- The status after an answer to a stored request. -/
theorem responseStatus_processAuthnRequest (cx : Context) (login : Login) :
    (processAuthnRequest cx login).2.profile.responseStatus =
      (effect cx login (.process none)).apply login.profile.responseStatus := by
  unfold effect answered
  rcases prepareAnswer_cases login with ⟨rc, after, hprepare, hresponse⟩ | ⟨after, response,
    hprepare, hnew⟩
  · have hkept := @processAuthnRequest_response_of_error cx _ _ hprepare
    rw [hprepare]
    unfold Profile.responseStatus
    rw [hkept]
    rfl
  · rw [processAuthnRequest_eq, hprepare]
    exact responseStatus_answerAuthnRequest cx after hnew

theorem processAnyAuthnRequest_response (cx : Context) (profile : Profile) (text : Bytes) :
    (processAnyAuthnRequest cx profile text).2.response = profile.response := by
  cases processAnyAuthnRequest_outcome cx profile text with
  | unreadable _ _ hprofile | noIssuer _ _ _ _ hprofile | unknownIssuer _ _ _ _ _ hprofile
  | verified _ _ _ _ _ _ hprofile =>
    exact (congrArg Profile.response hprofile).trans rfl

theorem responseStatus_congr {a b : Profile} (h : a.response = b.response) :
    a.responseStatus = b.responseStatus := by
  unfold Profile.responseStatus
  rw [h]

theorem responseStatus_processAuthnRequestMsg (cx : Context) (login : Login)
    (msg : Option Bytes) :
    (processAuthnRequestMsg cx login msg).2.profile.responseStatus =
      (effect cx login (.process msg)).apply login.profile.responseStatus := by
  cases msg with
  | none => exact responseStatus_processAuthnRequest cx login
  | some text =>
    have hkept := responseStatus_congr (processAnyAuthnRequest_response cx login.profile text)
    rw [processAuthnRequestMsg_some]
    unfold effect answered
    dsimp only
    by_cases hrc : (processAnyAuthnRequest cx login.profile text).1 = .ok
    · rw [if_pos hrc, if_pos hrc, responseStatus_processAuthnRequest, ← hkept]
      rfl
    · rw [if_neg hrc, if_neg hrc]
      exact hkept

theorem responseStatus_mustAuthenticate (env : Env) (profile : Profile) :
    (Saml20.mustAuthenticate env profile).2.responseStatus =
      (if setsNoPassive env profile then
        Setting.effect { code1 := saml2StatusCodeResponder, code2 := some saml2StatusCodeNoPassive }
          profile
      else .keep).apply profile.responseStatus := by
  have hset := responseStatus_setResponseStatus profile
    { code1 := saml2StatusCodeResponder, code2 := some saml2StatusCodeNoPassive }
  unfold Saml20.mustAuthenticate setsNoPassive
  cases profile.request with
  | none => rfl
  | some node =>
    cases node with
    | samlp2AuthnRequest request =>
      dsimp only
      split_ifs <;> simp_all [setResponseStatusResponder, Effect.apply]
    | _ => rfl

/-- A federation is found or made without looking at the response. -/
theorem processFederation_response (login : Login) (isConsentObtained : Bool) (uniqueId : String) :
    (processFederation login isConsentObtained uniqueId).2.profile.response =
      login.profile.response := by
  unfold processFederation
  dsimp only
  repeat' split
  all_goals rfl

theorem effect_congr {a b : Profile} (h : a.response = b.response) (setting : Setting) :
    setting.effect a = setting.effect b := by
  unfold Setting.effect
  rw [h]

theorem responseStatus_validateRequestMsg (login : Login)
    (authenticationResult isConsentObtained : Bool) (uniqueId : String) :
    (validateRequestMsg login authenticationResult isConsentObtained
        uniqueId).2.profile.responseStatus =
      ((validateSetting login authenticationResult isConsentObtained uniqueId).effect
        login.profile).apply login.profile.responseStatus := by
  have hset (profile : Profile) (code1 : String) (code2 : Option String) :=
    responseStatus_setResponseStatus profile { code1, code2 }
  have hkept := processFederation_response login isConsentObtained uniqueId
  unfold validateRequestMsg validateSetting
  dsimp only
  by_cases hdenied : (!authenticationResult) = true
  · rw [if_pos hdenied, if_pos hdenied]
    exact hset login.profile _ _
  · rw [if_neg hdenied, if_neg hdenied]
    by_cases hverdict : mustVerifyAuthnRequestSignature login.profile ∧
        login.profile.signatureStatus ≠ .ok
    · rw [if_pos hverdict, if_pos hverdict]
      exact hset login.profile _ _
    · rw [if_neg hverdict, if_neg hverdict]
      rcases hresult : processFederation login isConsentObtained uniqueId with ⟨rc, after⟩
      rw [hresult] at hkept
      rw [← responseStatus_congr hkept, ← effect_congr hkept]
      cases rc with
      | login error => cases error <;> exact hset after.profile _ _
      | _ => exact hset after.profile _ _

/-- The status of the response changes as the effect of the call says. -/
theorem responseStatus_call (cx : Context) (login : Login) (c : Call) :
    (call cx login c).profile.responseStatus =
      (effect cx login c).apply login.profile.responseStatus := by
  cases c with
  | process msg => exact responseStatus_processAuthnRequestMsg cx login msg
  | mustAuthenticate => exact responseStatus_mustAuthenticate cx.toEnv login.profile
  | validate authenticationResult isConsentObtained uniqueId =>
    exact responseStatus_validateRequestMsg login authenticationResult isConsentObtained uniqueId

end

/-! ## Runs -/

/-- A login in a run of calls. -/
structure StatusRun where
  login : Login
  /-- The last setting of the response of the login. -/
  setting : Option Setting := none

namespace StatusRun

def step (cx : Context) (s : StatusRun) (c : Call) : StatusRun where
  login := call cx s.login c
  setting := (effect cx s.login c).last s.setting

/-- The status of the response is the last setting. -/
def LastWins (s : StatusRun) : Prop :=
  ∀ setting ∈ s.setting, setting.IsStatus s.login.profile.responseStatus

/-- A call that sets no second level is made while the response has none. -/
def Fits (cx : Context) (s : StatusRun) (c : Call) : Prop :=
  ∀ setting, effect cx s.login c = .set setting → setting.code2 = none →
    Status.secondLevel s.login.profile.responseStatus = none

variable {cx : Context} {s : StatusRun}

/-- A setting without second level keeps the one that is there. -/
theorem isStatus_set (setting : Setting) (status : Option Status) :
    setting.IsStatus (some (Status.set status setting.code1 setting.code2)) ↔
      (setting.code2 = none → Status.secondLevel status = none) := by
  obtain ⟨code1, code2⟩ := setting
  cases code2 with
  | some code2 => simp [Setting.IsStatus, Status.set, Status.topLevel, Status.secondLevel]
  | none =>
    cases status with
    | none => simp [Setting.IsStatus, Status.set, Status.topLevel, Status.secondLevel]
    | some status =>
      obtain ⟨_ | statusCode⟩ := status <;>
        simp [Setting.IsStatus, Status.set, Status.topLevel, Status.secondLevel]

/-- A call keeps the property just when it fits. -/
theorem lastWins_step (s : StatusRun) (c : Call) (h : s.LastWins) :
    (s.step cx c).LastWins ↔ s.Fits cx c := by
  have hstatus := responseStatus_call cx s.login c
  unfold LastWins Fits
  simp only [step, hstatus]
  cases heffect : effect cx s.login c with
  | keep =>
    apply iff_of_true
    · exact h
    · intro setting hset
      cases hset
  | set setting =>
    simpa [Effect.last, Effect.apply] using isStatus_set setting s.login.profile.responseStatus
  | renew setting =>
    apply iff_of_true
    · intro new hnew
      rw [Effect.last] at hnew
      rw [Option.mem_def.mp hnew]
      exact (isStatus_set new none).mpr fun _ => rfl
    · intro setting hset
      cases hset

/-- In a run on a login, the status is the last setting after every call just when every call fits
the state in which it is made. -/
theorem lastWins_iff_fits (cx : Context) (login : Login) (calls : List Call) :
    (∀ before, before <+: calls → (before.foldl (step cx) { login }).LastWins) ↔
      ∀ before c, before ++ [c] <+: calls → (before.foldl (step cx) { login }).Fits cx c := by
  apply Run.forall_prefix_iff
  · intro s c hwins
    exact lastWins_step s c hwins
  · intro setting hsetting
    cases hsetting

/-! ## A second attempt -/

/-- An identity provider with a stored request for a transient NameID. -/
def retryLogin : Login where
  profile := {
    server := some (Server.addProvider
      { provider := {
          providerId := some "https://idp.example", role := .idp, conformance := .saml20 } }
      { providerId := some "https://sp.example", role := .sp, conformance := .saml20 }).2
    remoteProviderId := some "https://sp.example"
    request := some (.samlp2AuthnRequest {
      id := some "_q"
      issuer := some { content := some "https://sp.example" }
      protocolBinding := some saml2MetadataBindingPost
      nameIdPolicy := some { format := some saml2NameIdentifierFormatTransient } }) }

/-- The principal fails to authenticate, and then does not. -/
def retryCalls : List Call :=
  [.process none, .validate false true "_f", .validate true true "_f"]

/-- The status says that a successful request was denied. -/
theorem retry_keeps_secondLevel :
    ¬ ∀ (cx : Context) (login : Login) (calls : List Call),
      (calls.foldl (step cx) { login }).LastWins := by
  intro h
  have hwins := h .refusing retryLogin retryCalls
    { code1 := saml2StatusCodeSuccess, code2 := none } rfl
  have hsecond : Status.secondLevel (retryCalls.foldl (step .refusing)
      { login := retryLogin }).login.profile.responseStatus =
        some saml2StatusCodeRequestDenied := rfl
  rw [hwins.2] at hsecond
  cases hsecond

end StatusRun

end Lasso.Saml20.SingleSignOn
