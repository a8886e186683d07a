import Lasso.Saml20.LogoutResponse

/-!
# The outcome of a single logout

A service provider asks for a logout, the identity provider asks the others one after the other,
and answers the first one. No step but the validation removes an assertion, so the number of
assertions at the end is the one after the validation, and the answer reports a partial logout if
that number is not zero, whatever the others have answered.

## Main definitions

* `Logout.singleLogout` — the run.
* `Logout.ReportsOutcome` — the answer that the run should end with.

## Main results

* `Logout.Waiting.ask` — what asking a provider keeps.
* `Logout.reportsOutcome_iff` — when the answer is right.
-/

namespace Lasso

/-- The providers that `lasso_session_count_assertions` counts. -/
def Session.countedProviders (env : Env) (s : Session) : List String :=
  if env.thinSessions then s.nidAndSessionIndexes.keys else s.assertions.keys

namespace Saml20.Logout

/-! ## The run -/

/-- A request to another provider, and the message that comes back. -/
structure SloAsk where
  remoteProviderId : String
  httpMethod : HttpMethod
  uniqueId : String
  responseMsg : Bytes

/-- The message is a LogoutResponse of the provider that was asked. -/
structure SloAsk.Answered (cx : LogoutContext) (a : SloAsk) : Prop where
  readable : (requestMethod (readLogoutResponse cx a.responseMsg).format).isSome
  issuer : ∃ issuer, (readLogoutResponse cx a.responseMsg).node.issuer = some issuer ∧
    isValidIssuer issuer = true ∧ issuer.content = some a.remoteProviderId

/-- The provider has answered with status Success. -/
def SloAsk.Succeeds (cx : LogoutContext) (a : SloAsk) : Prop :=
  Status.topLevel (readLogoutResponse cx a.responseMsg).node.status = some saml2StatusCodeSuccess

/-- Ask one provider. -/
def ask (cx : LogoutContext) (logout : Logout) (a : SloAsk) : Logout :=
  let logout := (initRequestById cx logout (some a.remoteProviderId) a.httpMethod a.uniqueId).2
  (processResponseMsg cx logout a.responseMsg).2

/-- Validate the request of the first provider, ask the others, and build the answer. -/
def singleLogout (cx : LogoutContext) (logout : Logout) (asks : List SloAsk) : Logout :=
  (buildResponseMsg cx (asks.foldl (ask cx) (validateRequest cx.toContext logout).2)).2

/-- The provider whose request is stored. -/
def initiator (logout : Logout) : Option String :=
  ((requestAbstract logout.profile).bind (·.issuer)).bind (·.content)

/-- A new logout object with a request of a service provider that the validation accepts. -/
structure Initiated (cx : LogoutContext) (logout : Logout) : Prop where
  initial : logout.initialRemoteProviderId = none
  valid : (validateRequest cx.toContext logout).1 = .ok
  serviceProvider : ∃ request p,
    logout.profile.request = some (.samlp2LogoutRequest request) ∧
      issuerProvider logout.profile request.toSamlp2RequestAbstract = some p ∧ p.role = .sp

/-- The answer in the profile is one to the initiator, with the given second-level status. -/
structure AnswersInitiator (logout : Logout) (profile : Profile)
    (secondLevel : Option String → Prop) : Prop where
  remoteProviderId : profile.remoteProviderId = initiator logout
  success : Status.topLevel profile.responseStatus = some saml2StatusCodeSuccess
  secondLevel : secondLevel (Status.secondLevel profile.responseStatus)

/-- If all providers answered with Success, the initiator is told so; if not, it is told that the
logout is partial. -/
def ReportsOutcome (cx : LogoutContext) (logout : Logout) (asks : List SloAsk) : Prop :=
  ((∀ a ∈ asks, a.Succeeds cx) →
    AnswersInitiator logout (singleLogout cx logout asks).profile
      (· ≠ some saml2StatusCodePartialLogout)) ∧
  ((∃ a ∈ asks, ¬ a.Succeeds cx) →
    AnswersInitiator logout (singleLogout cx logout asks).profile
      (· = some saml2StatusCodePartialLogout))

/-- The session has a counted assertion of another provider than the initiator. -/
def HasOthers (env : Env) (logout : Logout) : Prop :=
  ∃ session ∈ logout.profile.session, ∃ p ∈ session.countedProviders env,
    some p ≠ initiator logout

/-! ## What is counted -/

section Count

variable {env : Env} {s : Session}

theorem countAssertions_eq (env : Env) (s : Session) :
    s.countAssertions env = (s.countedProviders env).length := by
  unfold Session.countAssertions Session.countedProviders
  split_ifs <;> rfl

theorem mem_countedProviders_removeAssertion {p q : String} (hp : p ≠ "") :
    q ∈ (s.removeAssertion (some p)).2.countedProviders env ↔
      q ∈ s.countedProviders env ∧ q ≠ p := by
  unfold Session.removeAssertion Session.countedProviders
  dsimp only
  rw [if_neg hp]
  by_cases hmem : p ∈ s.assertions ∨ p ∈ s.nidAndSessionIndexes
  · rw [if_pos hmem]
    split_ifs
    · exact AList.mem_erase.trans and_comm
    · exact AList.mem_erase.trans and_comm
  · rw [if_neg hmem]
    have hkept : ∀ {q}, (q ∈ s.assertions ∨ q ∈ s.nidAndSessionIndexes) → q ≠ p :=
      fun hq h => hmem (h ▸ hq)
    split_ifs
    · exact (and_iff_left_of_imp fun hq => hkept (.inr hq)).symm
    · exact (and_iff_left_of_imp fun hq => hkept (.inl hq)).symm

/-- After the removal something is counted if and only if another provider was. -/
theorem countAssertions_removeAssertion_pos {p : String} (hp : p ≠ "") :
    0 < (s.removeAssertion (some p)).2.countAssertions env ↔
      ∃ q ∈ s.countedProviders env, q ≠ p := by
  rw [countAssertions_eq, List.length_pos_iff_exists_mem]
  exact exists_congr fun q => mem_countedProviders_removeAssertion hp

end Count

/-! ## What asking a provider keeps -/

section

variable {cx : LogoutContext} {logout : Logout}

/-- The server, the session up to its list of providers, and what was put aside are the same. -/
structure Keeps (env : Env) (before after : Logout) : Prop where
  server : after.profile.server = before.profile.server
  counted : after.profile.session.map (·.countedProviders env) =
    before.profile.session.map (·.countedProviders env)
  initialRemoteProviderId : after.initialRemoteProviderId = before.initialRemoteProviderId
  initialResponse : after.initialResponse = before.initialResponse

theorem Keeps.refl (env : Env) (logout : Logout) : Keeps env logout logout :=
  ⟨rfl, rfl, rfl, rfl⟩

theorem Keeps.trans {env : Env} {a b c : Logout} (h : Keeps env a b) (h' : Keeps env b c) :
    Keeps env a c where
  server := h'.server.trans h.server
  counted := h'.counted.trans h.counted
  initialRemoteProviderId := h'.initialRemoteProviderId.trans h.initialRemoteProviderId
  initialResponse := h'.initialResponse.trans h.initialResponse

/-- A profile with the same server and session may take the place of another. -/
theorem Keeps.of_profile {env : Env} {profile : Profile}
    (hserver : profile.server = logout.profile.server)
    (hsession : profile.session = logout.profile.session) :
    Keeps env logout { logout with profile } :=
  ⟨hserver, congrArg (Option.map _) hsession, rfl, rfl⟩

theorem setupRequest_keeps (cx : Context) (profile : Profile) (server : Server)
    (toNode : Samlp2RequestAbstract → LassoNode) (uniqueId : String) (httpMethod : HttpMethod)
    (rc : Rc) :
    (setupRequest cx profile server toNode uniqueId httpMethod rc).2.1.server = profile.server ∧
      (setupRequest cx profile server toNode uniqueId httpMethod rc).2.1.session =
        profile.session := by
  unfold setupRequest
  dsimp only
  split <;> exact ⟨rfl, rfl⟩

theorem profileInitRequest_keeps (cx : LogoutContext) (profile : Profile)
    (remoteProviderId : Option String) (toNode : Samlp2RequestAbstract → LassoNode)
    (uniqueId : String) (httpMethod : HttpMethod) (kind : String) :
    let after :=
      (Saml20.initRequest cx profile remoteProviderId toNode uniqueId httpMethod kind).2.1
    after.server = profile.server ∧ after.session = profile.session := by
  unfold Saml20.initRequest
  dsimp only
  repeat' split
  all_goals first | exact ⟨rfl, rfl⟩ | exact setupRequest_keeps _ _ _ _ _ _ _

theorem initRequest_keeps (cx : LogoutContext) (logout : Logout) (remoteProvider : Provider)
    (httpMethod : HttpMethod) (uniqueId : String) (env : Env) :
    Keeps env logout (initRequest cx logout remoteProvider httpMethod uniqueId).2 := by
  have hkeeps := profileInitRequest_keeps cx logout.profile remoteProvider.providerId
    (fun request => .samlp2LogoutRequest { toSamlp2RequestAbstract := request }) uniqueId
    httpMethod "SingleLogoutService"
  unfold initRequest
  generalize Saml20.initRequest cx logout.profile _ _ _ _ _ = result at hkeeps ⊢
  obtain ⟨rc, profile, request⟩ := result
  dsimp only at hkeeps ⊢
  repeat' split
  all_goals exact .of_profile hkeeps.1 hkeeps.2

theorem getProviderIndex_countedProviders (foreachOrder : List String → List String)
    (s : Session) (index : Nat) (env : Env) :
    (s.getProviderIndex foreachOrder index).2.countedProviders env = s.countedProviders env := by
  unfold Session.getProviderIndex Session.initProviderIds
  dsimp only
  split_ifs <;> rfl

theorem providerToAsk_countedProviders (cx : LogoutContext) (s : Session)
    (remoteProviderId : Option String) (env : Env) :
    (providerToAsk cx s remoteProviderId).2.countedProviders env = s.countedProviders env := by
  unfold providerToAsk
  split
  · rfl
  · exact getProviderIndex_countedProviders _ s 0 env

theorem initRequestById_keeps (cx : LogoutContext) (logout : Logout)
    (remoteProviderId : Option String) (httpMethod : HttpMethod) (uniqueId : String) (env : Env) :
    Keeps env logout (initRequestById cx logout remoteProviderId httpMethod uniqueId).2 := by
  unfold initRequestById
  split
  · exact .refl env logout
  · rename_i session hfilter
    have hsession : logout.profile.session = some session :=
      (Option.filter_eq_some_iff.mp hfilter).1
    have hcounted := providerToAsk_countedProviders cx session remoteProviderId env
    generalize providerToAsk cx session remoteProviderId = listed at hcounted
    have hlisted : Keeps env logout { logout with profile := { logout.profile with
        remoteProviderId := listed.1, session := some listed.2 } } :=
      ⟨rfl, by simp [hsession, hcounted], rfl, rfl⟩
    dsimp only
    split_ifs
    · exact hlisted
    · split
      · exact hlisted
      · exact hlisted.trans (initRequest_keeps cx _ _ httpMethod uniqueId env)

/-- Reading a response of `providerId` keeps the server and the session, and makes it the remote
provider. -/
theorem processAnyResponse_keeps (cx : Context) (cls : NodeClass Samlp2StatusResponse)
    (profile : Profile) (text : Bytes) :
    let after := (processAnyResponse .samlp2LogoutResponse cx cls {} profile text).2
    after.server = profile.server ∧ after.session = profile.session := by
  unfold processAnyResponse
  dsimp only
  repeat' split
  all_goals exact ⟨rfl, rfl⟩

theorem processAnyResponse_remoteProviderId {cx : Context} {cls : NodeClass Samlp2StatusResponse}
    {profile : Profile} {text : Bytes} {issuer : Saml2NameId}
    (hserver : profile.server.isSome)
    (hreadable : (requestMethod
      (initFromMessageWithFormat cx.toEnv cls {} text .unknown).format).isSome)
    (hissuer : (initFromMessageWithFormat cx.toEnv cls {} text .unknown).node.issuer =
      some issuer) (hvalid : isValidIssuer issuer = true) :
    (processAnyResponse .samlp2LogoutResponse cx cls {} profile text).2.remoteProviderId =
      issuer.content := by
  obtain ⟨server, hserver⟩ := Option.isSome_iff_exists.mp hserver
  obtain ⟨method, hmethod⟩ := Option.isSome_iff_exists.mp hreadable
  unfold processAnyResponse
  simp only [hserver, hmethod, hissuer, Option.filter_some, hvalid, if_true]
  split
  · rfl
  · split <;> rfl

/-- What a response changes besides the profile is the flag for a partial logout; the initial state
is restored only if nothing is counted any more. -/
theorem processResponseMsg_eq (cx : LogoutContext) (logout : Logout) (text : Bytes) :
    ∃ partialLogout,
      let read := { logout with
        profile := (processAnyResponse .samlp2LogoutResponse cx.toContext
          (saml2NodeClass cx.toEnv cx.samlp2LogoutResponseInitFromXml) {} logout.profile text).2
        partialLogout := partialLogout }
      (processResponseMsg cx logout text).2 =
        if read.profile.session.any (·.countAssertions cx.toEnv = 0) then
          restoreInitialState cx.toEnv read
        else read := by
  unfold processResponseMsg
  dsimp only
  split_ifs
  all_goals exact ⟨_, rfl⟩

/-! ## The two states of a run -/

/-- The initiator waits for its answer, and something is counted. -/
structure Waiting (env : Env) (logout : Logout) (id : String) (r : Samlp2StatusResponse) :
    Prop where
  initialRemoteProviderId : logout.initialRemoteProviderId = some id
  initialResponse : logout.initialResponse = some (.samlp2LogoutResponse r)
  counted : ∃ session, logout.profile.session = some session ∧
    session.countedProviders env ≠ []

theorem Waiting.of_keeps {env : Env} {before after : Logout} {id : String}
    {r : Samlp2StatusResponse} (h : Waiting env before id r) (hkeeps : Keeps env before after) :
    Waiting env after id r := by
  obtain ⟨session, hsession, hcounted⟩ := h.counted
  have hmap := hkeeps.counted
  rw [hsession, Option.map_some] at hmap
  obtain ⟨session', hsession', hsame⟩ := Option.map_eq_some_iff.mp hmap
  exact ⟨hkeeps.initialRemoteProviderId.trans h.initialRemoteProviderId,
    hkeeps.initialResponse.trans h.initialResponse, session', hsession', hsame ▸ hcounted⟩

/-- However a provider answers, the initiator goes on waiting. -/
theorem Waiting.ask {id : String} {r : Samlp2StatusResponse}
    (h : Waiting cx.toEnv logout id r) (a : SloAsk) :
    Waiting cx.toEnv (ask cx logout a) id r := by
  unfold Logout.ask
  dsimp only
  have hasked := h.of_keeps (initRequestById_keeps cx logout (some a.remoteProviderId)
    a.httpMethod a.uniqueId cx.toEnv)
  generalize (initRequestById cx logout (some a.remoteProviderId) a.httpMethod a.uniqueId).2 =
    asked at hasked ⊢
  obtain ⟨partialLogout, hresult⟩ := processResponseMsg_eq cx asked a.responseMsg
  obtain ⟨-, hsession⟩ := processAnyResponse_keeps cx.toContext
    (saml2NodeClass cx.toEnv cx.samlp2LogoutResponseInitFromXml) asked.profile a.responseMsg
  obtain ⟨session, hasked', hcounted⟩ := hasked.counted
  rw [hasked'] at hsession
  have hcount : session.countAssertions cx.toEnv ≠ 0 := by
    rw [countAssertions_eq]
    exact fun hzero => hcounted (List.length_eq_zero_iff.mp hzero)
  rw [hresult]
  dsimp only
  rw [hsession, if_neg (by simpa using hcount)]
  exact ⟨hasked.initialRemoteProviderId, hasked.initialResponse, session, hsession, hcounted⟩

theorem Waiting.foldl_ask {id : String} {r : Samlp2StatusResponse}
    (h : Waiting cx.toEnv logout id r) (asks : List SloAsk) :
    Waiting cx.toEnv (asks.foldl (Logout.ask cx) logout) id r := by
  induction asks generalizing logout with
  | nil => exact h
  | cons a asks ih => exact ih (h.ask a)

theorem restoreInitialState_of_none {env : Env} (h : logout.initialRemoteProviderId = none) :
    restoreInitialState env logout = logout := by
  unfold restoreInitialState
  rw [h]

/-- No initiator waits. -/
structure Idle (logout : Logout) : Prop where
  initialRemoteProviderId : logout.initialRemoteProviderId = none
  server : logout.profile.server.isSome

/-- If nobody waits, the provider that has answered is the remote one. -/
theorem Idle.ask (h : Idle logout) {a : SloAsk} (ha : a.Answered cx) :
    Idle (ask cx logout a) ∧
      (ask cx logout a).profile.remoteProviderId = some a.remoteProviderId := by
  unfold Logout.ask
  dsimp only
  have hkeeps := initRequestById_keeps cx logout (some a.remoteProviderId)
    a.httpMethod a.uniqueId cx.toEnv
  generalize (initRequestById cx logout (some a.remoteProviderId) a.httpMethod a.uniqueId).2 =
    asked at hkeeps ⊢
  have hserver : asked.profile.server.isSome := by
    rw [hkeeps.server]
    exact h.server
  obtain ⟨partialLogout, hresult⟩ := processResponseMsg_eq cx asked a.responseMsg
  obtain ⟨issuer, hissuer, hvalid, hcontent⟩ := ha.issuer
  have hremote := processAnyResponse_remoteProviderId hserver ha.readable hissuer hvalid
  have hread := processAnyResponse_keeps cx.toContext
    (saml2NodeClass cx.toEnv cx.samlp2LogoutResponseInitFromXml) asked.profile a.responseMsg
  have hnone : asked.initialRemoteProviderId = none :=
    hkeeps.initialRemoteProviderId.trans h.initialRemoteProviderId
  have hsame : (processResponseMsg cx asked a.responseMsg).2 = { asked with
      profile := (processAnyResponse .samlp2LogoutResponse cx.toContext
        (saml2NodeClass cx.toEnv cx.samlp2LogoutResponseInitFromXml) {} asked.profile
        a.responseMsg).2
      partialLogout := partialLogout } := by
    rw [hresult]
    dsimp only
    split_ifs
    · exact restoreInitialState_of_none hnone
    · rfl
  rw [hsame]
  refine ⟨⟨hnone, ?_⟩, hremote.trans hcontent⟩
  rw [hread.1]
  exact hserver

theorem Idle.foldl_ask (h : Idle logout) {asks : List SloAsk} (hasks : ∀ a ∈ asks, a.Answered cx)
    (hne : asks ≠ []) :
    Idle (asks.foldl (Logout.ask cx) logout) ∧ ∃ a ∈ asks,
      (asks.foldl (Logout.ask cx) logout).profile.remoteProviderId =
        some a.remoteProviderId := by
  induction asks generalizing logout with
  | nil => exact absurd rfl hne
  | cons a asks ih =>
    obtain ⟨hidle, hremote⟩ := h.ask (hasks a List.mem_cons_self)
    rw [List.foldl_cons]
    rcases eq_or_ne asks [] with rfl | hne
    · exact ⟨hidle, a, List.mem_cons_self, hremote⟩
    · obtain ⟨hidle', b, hb, hremote'⟩ :=
        ih hidle (fun b hb => hasks b (List.mem_cons_of_mem a hb)) hne
      exact ⟨hidle', b, List.mem_cons_of_mem a hb, hremote'⟩

/-! ## The answer -/

/-- A stored LogoutResponse is the one that is sent. -/
theorem buildResponseMsg_profile {r : Samlp2StatusResponse}
    (h : (restoreInitialState cx.toEnv logout).profile.response =
      some (.samlp2LogoutResponse r)) :
    (buildResponseMsg cx logout).2.profile = (restoreInitialState cx.toEnv logout).profile := by
  unfold buildResponseMsg
  dsimp only
  rw [h]
  simp only [Option.any_some, LassoNode.isSamlp2StatusResponse, if_true]
  split_ifs <;> rfl

theorem buildResponseMsg_remoteProviderId (cx : LogoutContext) (logout : Logout) :
    (buildResponseMsg cx logout).2.profile.remoteProviderId =
      (restoreInitialState cx.toEnv logout).profile.remoteProviderId := by
  have hinit (code1 : String) (code2 : Option String) :
      (initResponse cx.toContext (restoreInitialState cx.toEnv logout).profile
        .samlp2LogoutResponse {} code1 code2).2.remoteProviderId =
          (restoreInitialState cx.toEnv logout).profile.remoteProviderId := by
    obtain ⟨node, hnode⟩ := initResponse_eq cx.toContext
      (restoreInitialState cx.toEnv logout).profile .samlp2LogoutResponse {} code1 code2
    rw [hnode]
  unfold buildResponseMsg
  dsimp only
  split_ifs
  all_goals first | rfl | exact hinit _ _

/-- The profile that the answer to an initiator that waits is built from. -/
theorem Waiting.answer {id : String} {r : Samlp2StatusResponse}
    (h : Waiting cx.toEnv logout id r) :
    (Logout.buildResponseMsg cx logout).2.profile = { logout.profile with
      remoteProviderId := some id
      request := logout.initialRequest
      response := some (.samlp2LogoutResponse { r with
        status := some (Status.set r.status saml2StatusCodeSuccess
          (some saml2StatusCodePartialLogout)) }) } := by
  obtain ⟨session, hsession, hcounted⟩ := h.counted
  have hcount : 0 < session.countAssertions cx.toEnv := by
    rw [countAssertions_eq]
    exact List.length_pos_iff.mpr hcounted
  have hrestored : (restoreInitialState cx.toEnv logout).profile = { logout.profile with
      remoteProviderId := some id
      request := logout.initialRequest
      response := some (.samlp2LogoutResponse { r with
        status := some (Status.set r.status saml2StatusCodeSuccess
          (some saml2StatusCodePartialLogout)) }) } := by
    unfold restoreInitialState
    rw [h.initialRemoteProviderId]
    dsimp only
    rw [hsession, if_pos (.inr (by simpa using hcount)), h.initialResponse]
    rfl
  rw [buildResponseMsg_profile (by rw [hrestored]), hrestored]

/-- The initiator that waits gets a partial logout. -/
theorem Waiting.buildResponseMsg {id : String} {r : Samlp2StatusResponse}
    (h : Waiting cx.toEnv logout id r) :
    let profile := (buildResponseMsg cx logout).2.profile
    profile.remoteProviderId = some id ∧
      Status.topLevel profile.responseStatus = some saml2StatusCodeSuccess ∧
      Status.secondLevel profile.responseStatus = some saml2StatusCodePartialLogout := by
  dsimp only
  rw [h.answer]
  exact ⟨rfl, rfl, rfl⟩

/-! ## The start -/

/-- A new LogoutResponse gets its status once its signature is set up. -/
theorem initResponse_eq_ok {cx : Context} {profile : Profile} {code1 : String}
    {code2 : Option String}
    (h : (initResponse cx profile .samlp2LogoutResponse {} code1 code2).1 = .ok) :
    ∃ r, (initResponse cx profile .samlp2LogoutResponse {} code1 code2).2 =
        { profile with response := some (.samlp2LogoutResponse r) } ∧
      r.status = some (Status.set none code1 code2) := by
  unfold initResponse at h ⊢
  dsimp only at h ⊢
  split at h
  · exact ⟨_, rfl, rfl⟩
  · rename_i hne
    exact absurd h hne

/-- An accepted validation has removed the assertion of the issuer. -/
theorem logoutPrincipal_eq_ok {cx : Context} {logout : Logout} {request : Samlp2LogoutRequest}
    {p : Provider} (h : (logoutPrincipal cx logout request p).1 = .ok) :
    ∃ session, logout.profile.session = some session ∧
      (logoutPrincipal cx logout request p).2 =
        logout.removeRemoteAssertion cx.toEnv session p := by
  unfold logoutPrincipal at h ⊢
  dsimp only at h ⊢
  split at h
  · cases h
  · split at h
    · cases h
    · rename_i session hsession
      refine ⟨session, hsession, ?_⟩
      split_ifs at h ⊢
      rfl

theorem validateRequest_eq_ok {cx : Context} {logout : Logout}
    (h : (validateRequest cx logout).1 = .ok) :
    ∃ request p session r, logout.profile.request = some (.samlp2LogoutRequest request) ∧
      issuerProvider logout.profile request.toSamlp2RequestAbstract = some p ∧
      logout.profile.session = some session ∧
      r.status = some (Status.set none saml2StatusCodeSuccess none) ∧
      (validateRequest cx logout).2 =
        Logout.removeRemoteAssertion cx.toEnv
          { logout with profile := { logout.profile with
              remoteProviderId := initiator logout
              response := some (.samlp2LogoutResponse r) } } session p := by
  unfold validateRequest at h ⊢
  split at h
  · rename_i request hrequest
    split at h
    · cases h
    · rename_i issuer hissuer
      have hinitiator : initiator logout = issuer.content := by
        simp [initiator, requestAbstract, hrequest, hissuer]
      simp only [hrequest]
      dsimp only at h
      split at h
      · cases h
      · rename_i p hprovider
        have hknown : issuerProvider logout.profile request.toSamlp2RequestAbstract = some p := by
          rw [issuerProvider, hissuer]
          exact hprovider
        split_ifs at h with hinit
        · exact absurd h hinit
        · obtain ⟨r, hresponse, hstatus⟩ := initResponse_eq_ok (not_not.mp hinit)
          obtain ⟨session, hsession, hremoved⟩ := logoutPrincipal_eq_ok h
          rw [hresponse] at hsession hremoved
          refine ⟨request, p, session, r, rfl, hknown, hsession, hstatus, ?_⟩
          rw [hrequest] at hprovider hinit hresponse hremoved
          rw [hinitiator, hprovider]
          dsimp only
          rw [if_neg hinit, hresponse]
          exact hremoved
  · cases h

/-- After an accepted validation the initiator waits, if something else is counted; if not, its
answer is there already. -/
theorem Initiated.validateRequest (h : Initiated cx logout) :
    ∃ id r, initiator logout = some id ∧
      r.status = some (Status.set none saml2StatusCodeSuccess none) ∧
      let after := (validateRequest cx.toContext logout).2
      (HasOthers cx.toEnv logout ∧ Waiting cx.toEnv after id r ∨
        ¬ HasOthers cx.toEnv logout ∧ Idle after ∧ after.profile.remoteProviderId = some id ∧
          after.profile.response = some (.samlp2LogoutResponse r)) := by
  obtain ⟨request, p, session, r, hrequest, hp, hsession, hstatus, hafter⟩ :=
    validateRequest_eq_ok h.valid
  obtain ⟨request', p', hrequest', hp', hrole⟩ := h.serviceProvider
  obtain rfl : request = request' := by simpa [hrequest] using hrequest'
  obtain rfl : p = p' := by simpa [hp] using hp'
  -- the issuer is known to the server, so it is not the empty string
  obtain ⟨server, id, hserver, hinitiator, hid⟩ : ∃ server id,
      logout.profile.server = some server ∧ initiator logout = some id ∧ id ≠ "" := by
    unfold issuerProvider at hp
    obtain ⟨issuer, hissuer, hknown⟩ := Option.bind_eq_some_iff.mp hp
    obtain ⟨server, hserver, hfound⟩ := Option.bind_eq_some_iff.mp hknown
    cases hcontent : issuer.content with
    | none => simp [hcontent, Server.getProvider] at hfound
    | some id =>
      refine ⟨server, id, hserver, ?_, ?_⟩
      · simp [initiator, requestAbstract, hrequest, hissuer, hcontent]
      · rintro rfl
        simp [hcontent, Server.getProvider] at hfound
  have hothers : HasOthers cx.toEnv logout ↔
      0 < (session.removeAssertion (some id)).2.countAssertions cx.toEnv := by
    rw [countAssertions_removeAssertion_pos hid, HasOthers, hsession, hinitiator]
    simp
  refine ⟨id, r, hinitiator, hstatus, ?_⟩
  dsimp only
  rw [hafter, hinitiator]
  unfold Logout.removeRemoteAssertion
  dsimp only
  by_cases hcount : 0 < (session.removeAssertion (some id)).2.countAssertions cx.toEnv
  · rw [if_pos ⟨hrole, hcount⟩]
    refine .inl ⟨hothers.mpr hcount, rfl, rfl, _, rfl, ?_⟩
    rw [countAssertions_eq] at hcount
    exact List.length_pos_iff.mp hcount
  · rw [if_neg fun hboth => hcount hboth.2]
    exact .inr ⟨fun hmore => hcount (hothers.mp hmore), ⟨h.initial, by simp [hserver]⟩, rfl, rfl⟩

/-! ## When the answer is right -/

/-- With other providers in the session the answer is a partial logout, whatever was answered. -/
theorem Initiated.answersPartial (h : Initiated cx logout) (hothers : HasOthers cx.toEnv logout)
    (asks : List SloAsk) :
    AnswersInitiator logout (singleLogout cx logout asks).profile
      (· = some saml2StatusCodePartialLogout) := by
  obtain ⟨id, r, hinitiator, -, hstate⟩ := h.validateRequest
  rcases hstate with ⟨-, hwaiting⟩ | ⟨hnone, -⟩
  · obtain ⟨hid, hsuccess, hpartial⟩ := (hwaiting.foldl_ask asks).buildResponseMsg
    exact ⟨hid.trans hinitiator.symm, hsuccess, hpartial⟩
  · exact absurd hothers hnone

/-- If nobody is asked, the answer is the one made by the validation. -/
theorem Initiated.answersSuccess (h : Initiated cx logout)
    (hothers : ¬ HasOthers cx.toEnv logout) :
    AnswersInitiator logout (singleLogout cx logout []).profile
      (· ≠ some saml2StatusCodePartialLogout) := by
  obtain ⟨id, r, hinitiator, hstatus, hstate⟩ := h.validateRequest
  rcases hstate with ⟨hmore, -⟩ | ⟨-, hidle, hremote, hresponse⟩
  · exact absurd hmore hothers
  · unfold singleLogout
    rw [List.foldl_nil]
    set after := (Logout.validateRequest cx.toContext logout).2
    have hrestored : restoreInitialState cx.toEnv after = after :=
      restoreInitialState_of_none hidle.initialRemoteProviderId
    have hbuilt : (buildResponseMsg cx after).2.profile = after.profile := by
      rw [buildResponseMsg_profile (hrestored.symm ▸ hresponse), hrestored]
    have hresponseStatus : (buildResponseMsg cx after).2.profile.responseStatus =
        some (Status.set none saml2StatusCodeSuccess none) := by
      rw [hbuilt, Profile.responseStatus, hresponse]
      exact hstatus
    refine ⟨?_, ?_, ?_⟩
    · rw [hbuilt, hremote, hinitiator]
    · rw [hresponseStatus]
      rfl
    · rw [hresponseStatus]
      decide

/-- If nothing is counted, the provider that was asked last gets the answer. -/
theorem Initiated.not_answersInitiator (h : Initiated cx logout)
    (hothers : ¬ HasOthers cx.toEnv logout) {asks : List SloAsk} (hne : asks ≠ [])
    (hasks : ∀ a ∈ asks, a.Answered cx ∧ some a.remoteProviderId ≠ initiator logout)
    (secondLevel : Option String → Prop) :
    ¬ AnswersInitiator logout (singleLogout cx logout asks).profile secondLevel := by
  obtain ⟨id, r, -, -, hstate⟩ := h.validateRequest
  rcases hstate with ⟨hmore, -⟩ | ⟨-, hidle, -⟩
  · exact absurd hmore hothers
  · obtain ⟨hidle', a, ha, hlast⟩ := hidle.foldl_ask (fun a ha => (hasks a ha).1) hne
    have hremote := buildResponseMsg_remoteProviderId cx
      (asks.foldl (ask cx) (Logout.validateRequest cx.toContext logout).2)
    rw [restoreInitialState_of_none hidle'.initialRemoteProviderId, hlast] at hremote
    intro hanswer
    exact (hasks a ha).2 (hremote.symm.trans hanswer.remoteProviderId)

/-- The answer reports the outcome if and only if there was no other provider and none was asked, or
there were others and one of them has not answered with Success. -/
theorem reportsOutcome_iff {asks : List SloAsk} (h : Initiated cx logout)
    (hasks : ∀ a ∈ asks, a.Answered cx ∧ some a.remoteProviderId ≠ initiator logout) :
    ReportsOutcome cx logout asks ↔
      (¬ HasOthers cx.toEnv logout ∧ asks = []) ∨
        (HasOthers cx.toEnv logout ∧ ∃ a ∈ asks, ¬ a.Succeeds cx) := by
  by_cases hothers : HasOthers cx.toEnv logout
  · have hpartial := h.answersPartial hothers asks
    constructor
    · rintro ⟨hall, -⟩
      refine .inr ⟨hothers, ?_⟩
      by_contra hnone
      push Not at hnone
      exact (hall hnone).secondLevel hpartial.secondLevel
    · rintro (⟨hnot, -⟩ | ⟨-, a, ha, hfails⟩)
      · exact absurd hothers hnot
      · exact ⟨fun hall => absurd (hall a ha) hfails, fun _ => hpartial⟩
  · rcases eq_or_ne asks [] with rfl | hne
    · exact iff_of_true ⟨fun _ => h.answersSuccess hothers, by simp⟩ (.inl ⟨hothers, rfl⟩)
    · have hwrong := h.not_answersInitiator hothers hne hasks
      refine iff_of_false ?_ ?_
      · rintro ⟨hall, hsome⟩
        by_cases hsucceed : ∀ a ∈ asks, a.Succeeds cx
        · exact hwrong _ (hall hsucceed)
        · push Not at hsucceed
          exact hwrong _ (hsome hsucceed)
      · rintro (⟨-, hnil⟩ | ⟨hmore, -⟩)
        · exact hne hnil
        · exact hothers hmore

end

/-! ## Two service providers -/

def sloProvider (id : String) : Provider where
  providerId := some id
  role := .sp
  conformance := .saml20

def sloServer : Server :=
  (Server.addProvider (Server.addProvider
    { provider := { providerId := some "https://idp.example", conformance := .saml20 } }
    (sloProvider "https://sp1.example")).2 (sloProvider "https://sp2.example")).2

/-- The assertion by which `alice` is logged in at either provider. -/
def sloAssertion : Saml2Assertion where
  id := some "_a"
  subject := some { nameId := some { content := some "alice" } }
  authnStatement := [{ sessionIndex := some "_s" }]

def sloSession : Session :=
  (Session.addAssertion Env.refusing (Session.addAssertion Env.refusing {}
    (some "https://sp1.example") (.saml2Assertion sloAssertion)).2
    (some "https://sp2.example") (.saml2Assertion sloAssertion)).2

/-- The first provider has asked to log out `alice`. -/
def sloLogout : Logout where
  profile := {
    server := some sloServer
    session := some sloSession
    request := some (.samlp2LogoutRequest {
      issuer := some { content := some "https://sp1.example" }
      nameId := some { content := some "alice" }
      sessionIndex := some "_s" }) }

/-- Every posted message is a LogoutResponse of the second provider with the status `code`. -/
def sloCx (code : String) : LogoutContext :=
  { Context.refusing with
    base64Decode := fun _ _ => (3, "<m>".toList)
    parseMemory := fun _ => some (.element (some saml2ProtocolHref) "LogoutResponse" [] [])
    samlp2LogoutResponseInitFromXml := fun r _ => (.ok, { r with
      issuer := some { content := some "https://sp2.example" }
      status := some { statusCode := some { value := some code } } })
    foreachOrder := id
    encryptNameId := fun _ _ => none
    buildResponse := fun _ _ _ => .ok }

def sloAsk : SloAsk where
  remoteProviderId := "https://sp2.example"
  httpMethod := .soap
  uniqueId := "_r"
  responseMsg := "m".toList

theorem sloLogout_initiated (code : String) : Initiated (sloCx code) sloLogout where
  initial := rfl
  valid := by rfl
  serviceProvider := ⟨_, sloProvider "https://sp1.example", rfl, by rfl, rfl⟩

theorem sloAsk_answered (code : String) : sloAsk.Answered (sloCx code) where
  readable := by rfl
  issuer := ⟨_, by rfl, by rfl, rfl⟩

theorem sloLogout_hasOthers (code : String) : HasOthers (sloCx code).toEnv sloLogout := by
  have hcounted : "https://sp2.example" ∈ sloSession.assertions.keys := by decide
  exact ⟨sloSession, rfl, "https://sp2.example", hcounted, by decide⟩

/-- The only other provider has answered with Success, and the logout is reported as partial. -/
theorem complete_logout_reported_partial :
    Initiated (sloCx saml2StatusCodeSuccess) sloLogout ∧
      sloAsk.Answered (sloCx saml2StatusCodeSuccess) ∧
      sloAsk.Succeeds (sloCx saml2StatusCodeSuccess) ∧
      ¬ ReportsOutcome (sloCx saml2StatusCodeSuccess) sloLogout [sloAsk] := by
  have hsucceeds : sloAsk.Succeeds (sloCx saml2StatusCodeSuccess) := by rfl
  refine ⟨sloLogout_initiated _, sloAsk_answered _, hsucceeds, fun hreports => ?_⟩
  have hpartial := (sloLogout_initiated _).answersPartial
    (sloLogout_hasOthers saml2StatusCodeSuccess) [sloAsk]
  exact (hreports.1 (by simpa using hsucceeds)).secondLevel hpartial.secondLevel

theorem reportsOutcome_iff_refused :
    ReportsOutcome (sloCx saml2StatusCodeResponder) sloLogout [sloAsk] := by
  refine (reportsOutcome_iff (sloLogout_initiated _) ?_).mpr (.inr ⟨sloLogout_hasOthers _, ?_⟩)
  · rintro a ha
    obtain rfl := List.mem_singleton.mp ha
    exact ⟨sloAsk_answered _, by decide⟩
  · refine ⟨sloAsk, List.mem_singleton_self _, fun hsucceeds => ?_⟩
    have hcode : saml2StatusCodeResponder = saml2StatusCodeSuccess := Option.some.inj hsucceeds
    exact absurd hcode (by decide)

end Saml20.Logout

end Lasso
