import Lasso.Saml20.AuthnRequestMessage

/-!
# An authentication request from one provider to the other

A service provider builds a request for the redirect binding, and the identity provider processes
what arrives at its endpoint.

## Main definitions

* `RequestingLogin.fillIn` — what the application adds between the two calls.
* `signsRequest` — the request goes out with a signature.
* `Consumable` — the identity provider finds out where the response has to go.

## Main results

* `authnRequest_delivered` — what the identity provider makes of the request.
* `agreeing_accepted` — two providers that know each other's metadata do not refuse a signature.
-/

namespace Lasso.Saml20

namespace RequestingLogin

/-- The application completes the request, and sets a relay state. -/
def fillIn (login : RequestingLogin) (request : Samlp2AuthnRequest) (relayState : Option String) :
    RequestingLogin :=
  { login with
    profile := { login.profile with
      request := some (.samlp2AuthnRequest request), msgRelayState := relayState } }

/-- The signature context with which a message is built. -/
def usedSignature (login : RequestingLogin) : SignatureContext :=
  if mustSign login.profile then login.signature else noSignature

/-- The endpoint of the identity provider for requests over redirect. -/
def endpoint (login : RequestingLogin) : Option String :=
  login.profile.remoteProvider.bind (getUrl · "SingleSignOnService" "HTTP-Redirect")

section

variable {cx : AuthnRequestContext} {login sent : RequestingLogin} {request : Samlp2AuthnRequest}

theorem exportToQuery_ne_none {env : SigningEnv} {msg : QueryMessage}
    {msgRelayState : Option CString} {context : SignatureContext} {rc : Rc} {query : Option Bytes}
    (h : exportToQuery env msg msgRelayState context = .returns (rc, query)) (hrc : rc = .ok) :
    ∃ bytes, query = some bytes := by
  subst hrc
  unfold exportToQuery at h
  split at h
  · cases h
  · simp only [unsignedQuery_eq] at h
    split_ifs at h
    · split at h
      · cases h
      · cases h
      · cases h
        exact ⟨_, rfl⟩
    · cases h
      exact ⟨_, rfl⟩

/-- A redirect that is built goes to the endpoint, with the request in its query. -/
theorem buildHttpRedirect_eq_ok {url : String}
    (h : login.buildHttpRedirect cx request url = .returns (.ok, sent)) :
    ∃ signature query, exportToQuery cx.toSigningEnv
        (deflatedMessage cx.toDeflateEnv false
          (cx.writeAuthnRequest request login.destination signature))
        (login.profile.msgRelayState.map fun relayState => toCString relayState.toList)
        login.signature = .returns (.ok, some query) ∧
      sent.msgUrl = some (concatUrlQuery url (String.ofList query)) := by
  unfold buildHttpRedirect queryMessage at h
  dsimp only at h
  split at h
  · cases h
  · rename_i rc query hquery
    by_cases hrc : rc = .ok
    · subst hrc
      simp only [ne_eq, not_true_eq_false, if_false, Asserted.returns.injEq, Prod.mk.injEq,
        true_and] at h
      obtain ⟨bytes, rfl⟩ := exportToQuery_ne_none hquery rfl
      exact ⟨_, bytes, hquery, by rw [← h]; rfl⟩
    · rw [if_pos hrc, Asserted.returns.injEq, Prod.mk.injEq] at h
      exact absurd h.1 hrc

/-- The message of a request over redirect. -/
theorem buildAuthnRequestMsg_eq_ok (hredirect : login.httpMethod = .redirect)
    (hrequest : login.profile.request = some (.samlp2AuthnRequest request))
    (h : login.buildAuthnRequestMsg cx = .returns (.ok, sent)) :
    ∃ url signature query, login.endpoint = some url ∧
      exportToQuery cx.toSigningEnv
        (deflatedMessage cx.toDeflateEnv false (cx.writeAuthnRequest request (some url) signature))
        (login.profile.msgRelayState.map fun relayState => toCString relayState.toList)
        login.usedSignature = .returns (.ok, some query) ∧
      sent.msgUrl = some (concatUrlQuery url (String.ofList query)) := by
  unfold buildAuthnRequestMsg at h
  simp only [hredirect, reduceCtorEq, if_false] at h
  split_ifs at h with hid hremote
  · cases h
  · cases h
  · unfold buildSaml20AuthnRequestMsg at h
    simp only [hrequest, reduceCtorEq, if_false, false_and] at h
    unfold buildRequestMsg at h
    dsimp only at h
    cases hprovider : getProvider login.profile with
    | error rc =>
      have hrc := (getProvider_ne_ok hprovider).1
      simp only [hprovider, Except.map, Asserted.returns.injEq, Prod.mk.injEq] at h
      exact absurd h.1 hrc
    | ok provider =>
      simp only [hprovider, Except.map, reduceCtorEq, if_false] at h
      have hremote := getProvider_eq_ok.mp hprovider
      cases hurl : getUrl provider "SingleSignOnService" (httpMethodToBinding .redirect) with
      | none => simp [hurl] at h
      | some url =>
        simp only [hurl, buildByMethod] at h
        obtain ⟨signature, query, hquery, hmsgUrl⟩ := buildHttpRedirect_eq_ok h
        refine ⟨url, signature, query, ?_, hquery, hmsgUrl⟩
        rw [endpoint, hremote]
        exact hurl

end

/-! ## Initialisation -/

section

variable {cx : AuthnRequestContext} {profile : Profile}

/-- The profile has a request, and its signature can be set up. -/
def Signable (cx : AuthnRequestContext) (profile : Profile) : Prop :=
  profile.request.isSome = true ∧ setupMessageSignature cx.toContext profile = .ok

theorem setupRequest_signed {server : Server} {toNode : Samlp2RequestAbstract → LassoNode}
    {uniqueId : String} {httpMethod : HttpMethod} {rc : Rc}
    (h : (setupRequest cx.toContext profile server toNode uniqueId httpMethod rc).1 = .ok) :
    Signable cx (setupRequest cx.toContext profile server toNode uniqueId httpMethod rc).2.1 := by
  have hsign := (@setupRequest_eq_ok_iff cx.toLogoutContext profile toNode uniqueId httpMethod
    server rc).mp h
  have hprofile := @setupRequest_profile cx.toLogoutContext profile toNode uniqueId httpMethod
    server rc
  rw [hprofile]
  exact ⟨rfl, hsign.2⟩

theorem chooseProvider_ne_ok {server : Server} {remoteProviderId : Option String}
    {firstInSession : Bool} {rc : Rc}
    (h : chooseProvider cx.toLogoutContext profile remoteProviderId firstInSession server =
      .error rc) : rc ≠ .ok := by
  unfold chooseProvider at h
  split at h
  · cases h
  · split_ifs at h
    split at h
    · cases h
      simp
    · cases h

theorem initRequestTo_signed {server : Server} {toNode : Samlp2RequestAbstract → LassoNode}
    {uniqueId id : String} {httpMethod : HttpMethod} {protocolType : MdProtocolType}
    (h : (initRequestTo cx.toLogoutContext profile toNode uniqueId httpMethod protocolType server
      id).1 = .ok) :
    Signable cx (initRequestTo cx.toLogoutContext profile toNode uniqueId httpMethod protocolType
      server id).2.1 := by
  unfold initRequestTo at h ⊢
  dsimp only at h ⊢
  split
  · rename_i rc hprovider
    rw [hprovider] at h
    exact absurd h (getProvider_ne_ok hprovider).1
  · rename_i remoteProvider hprovider
    rw [hprovider] at h
    dsimp only at h ⊢
    generalize (if httpMethod = .any then
      getFirstMethod server.provider remoteProvider protocolType else httpMethod) = method at h ⊢
    by_cases hnone : method = .none
    · rw [if_pos hnone] at h
      cases h
    · rw [if_neg hnone] at h ⊢
      exact setupRequest_signed h

theorem initProfileRequest_signed {remoteProviderId : Option String} {firstInSession : Bool}
    {toNode : Samlp2RequestAbstract → LassoNode} {uniqueId : String} {httpMethod : HttpMethod}
    {protocolType : MdProtocolType}
    (h : (initProfileRequest cx.toLogoutContext profile remoteProviderId firstInSession toNode
      uniqueId httpMethod protocolType).1 = .ok) :
    Signable cx (initProfileRequest cx.toLogoutContext profile remoteProviderId firstInSession
      toNode uniqueId httpMethod protocolType).2.1 := by
  unfold initProfileRequest at h ⊢
  by_cases hinvalid : httpMethod ∈ [HttpMethod.none, .idpInitiated, .get]
  · rw [if_pos hinvalid] at h
    cases h
  · rw [if_neg hinvalid] at h ⊢
    cases hserver : profile.server with
    | none =>
      rw [hserver] at h
      cases h
    | some server =>
      simp only [hserver] at h ⊢
      by_cases hpaos : httpMethod = .paos
      · rw [if_pos hpaos] at h ⊢
        exact setupRequest_signed h
      · rw [if_neg hpaos] at h ⊢
        cases hchosen : chooseProvider cx.toLogoutContext profile remoteProviderId firstInSession
            server with
        | error rc =>
          rw [hchosen] at h
          exact absurd h (chooseProvider_ne_ok hchosen)
        | ok chosen =>
          obtain ⟨id, chosenProfile⟩ := chosen
          cases id with
          | none =>
            rw [hchosen] at h
            cases h
          | some id =>
            rw [hchosen] at h
            exact initRequestTo_signed h

/-- The signature of a request that was initialised is the one for its recipient. -/
theorem initAuthnRequest_signature {login started : RequestingLogin}
    {remoteProviderId : Option String} {uniqueId : String} {httpMethod : HttpMethod}
    (h : login.initAuthnRequest cx remoteProviderId uniqueId httpMethod = (.ok, started)) :
    started.signature = attachedSignature cx started.profile ∧
      setupMessageSignature cx.toContext started.profile = .ok := by
  have hinit {l : RequestingLogin}
      (h : l.initSaml20AuthnRequest cx uniqueId httpMethod = (.ok, started)) :
      started.signature = attachedSignature cx started.profile ∧
        setupMessageSignature cx.toContext started.profile = .ok := by
    unfold initSaml20AuthnRequest at h
    dsimp only at h
    by_cases hrc : (initProfileRequest cx.toLogoutContext l.profile l.profile.remoteProviderId false
        (fun request => .samlp2AuthnRequest { toSamlp2RequestAbstract := request }) uniqueId
        httpMethod .singleSignOn).1 = .ok
    · obtain ⟨hrequest, hsigned⟩ := initProfileRequest_signed hrc
      rw [if_neg (not_not.mpr hrc), Prod.mk.injEq] at h
      rw [← h.2]
      exact ⟨if_pos hrequest, hsigned⟩
    · rw [if_pos hrc] at h
      exact absurd (congrArg Prod.fst h) hrc
  unfold initAuthnRequest at h
  split at h
  · cases h
  · dsimp only at h
    split_ifs at h
    · exact hinit h
    · split at h
      · cases h
      · split at h
        · cases h
        · exact hinit h

end

end RequestingLogin

/-! ## At the identity provider -/

/-- The identity provider finds out where the response has to go. -/
def Consumable (sp : Provider) (request : Samlp2AuthnRequest) : Prop :=
  ¬ ((request.protocolBinding.isSome ∨ request.assertionConsumerServiceURL.isSome) ∧
      request.assertionConsumerServiceIndex ≠ -1) ∧
    (findProtocolProfile sp request).1 = .ok

/-- The text of a request is read back as that request. -/
def Transmissible (cx : AuthnRequestContext) (request : Samlp2AuthnRequest) : Prop :=
  ∀ destination signature,
    RoundTrips cx.toDeflateEnv (cx.writeAuthnRequest request destination signature) ∧
      (cx.samlp2AuthnRequestInitFromXml {}
        (cx.parseMemory (cx.writeAuthnRequest request destination signature).val)).2 = request

section

variable {cx : Context} {idp : Login} {request : Samlp2AuthnRequest}

theorem answerAuthnRequest_eq_ok_iff {login : Login} {response : Samlp2StatusResponse} :
    (answerAuthnRequest cx login response).1 = .ok ↔
      (mustVerifyAuthnRequestSignature login.profile = true →
        login.profile.signatureStatus = .ok) := by
  constructor
  · exact answerAuthnRequest_eq_ok
  · intro hgood
    unfold answerAuthnRequest
    dsimp only
    rw [if_neg fun hbad => hbad.2 (hgood hbad.1)]

/-- A request of a known provider is accepted just if it says where the response goes and its
signature is good wherever it is looked at. -/
theorem processAuthnRequest_eq_ok_iff {sp : Provider} {issuer : String}
    (hrequest : idp.profile.request = some (.samlp2AuthnRequest request))
    (hissuer : request.issuer.bind (·.content) = some issuer)
    (hsp : idp.profile.remoteProvider = some sp) :
    (processAuthnRequest cx idp).1 = .ok ↔
      Consumable sp request ∧ (mustVerifyAuthnRequestSignature idp.profile = true →
        idp.profile.signatureStatus = .ok) := by
  obtain ⟨hstatus, hmust⟩ := setRequestRoles_sameVerdict idp.profile
  unfold processAuthnRequest Consumable
  simp only [hrequest, hissuer, hsp]
  by_cases hconflict : (request.protocolBinding.isSome ∨
      request.assertionConsumerServiceURL.isSome) ∧ request.assertionConsumerServiceIndex ≠ -1
  · simp [hconflict]
  · by_cases hfound : (findProtocolProfile sp request).1 = .ok
    · simp only [hfound, not_false_eq_true, hconflict, true_and, if_true, if_false]
      rw [answerAuthnRequest_eq_ok_iff, ← hstatus, ← hmust]
      exact Iff.rfl
    · simp [hconflict, hfound]

/-- What the processing of a request leaves as it was. -/
structure KeepsRequest (request : Samlp2AuthnRequest) (before after : Profile) : Prop where
  remoteProviderId : after.remoteProviderId = before.remoteProviderId
  msgRelayState : after.msgRelayState = before.msgRelayState
  request : ∃ binding, after.request =
    some (.samlp2AuthnRequest { request with protocolBinding := binding })

theorem findProtocolProfile_request (sp : Provider) (request : Samlp2AuthnRequest) :
    ∃ binding, (findProtocolProfile sp request).2.2 =
      { request with protocolBinding := binding } := by
  unfold findProtocolProfile
  split
  · exact ⟨request.protocolBinding, rfl⟩
  · exact ⟨request.protocolBinding, rfl⟩
  · split_ifs
    · exact ⟨request.protocolBinding, rfl⟩
    · exact ⟨request.protocolBinding, rfl⟩
  · split
    · exact ⟨request.protocolBinding, rfl⟩
    · exact ⟨_, rfl⟩

theorem answerAuthnRequest_keeps (cx : Context) (login : Login) (response : Samlp2StatusResponse)
    (binding : Option String)
    (h : login.profile.request =
      some (.samlp2AuthnRequest { request with protocolBinding := binding })) :
    KeepsRequest request login.profile (answerAuthnRequest cx login response).2.profile := by
  unfold answerAuthnRequest
  dsimp only
  split_ifs
  all_goals
    obtain ⟨node, hprofile⟩ := initResponse_eq cx login.profile _ response _ _
    rw [hprofile]
    exact ⟨rfl, rfl, binding, h⟩

theorem processAuthnRequest_keeps
    (hrequest : idp.profile.request = some (.samlp2AuthnRequest request)) :
    KeepsRequest request idp.profile (processAuthnRequest cx idp).2.profile := by
  have hsame {after : Profile} (hrequest : after.request = some (.samlp2AuthnRequest request))
      (hid : after.remoteProviderId = idp.profile.remoteProviderId)
      (hrelay : after.msgRelayState = idp.profile.msgRelayState) :
      KeepsRequest request idp.profile after := ⟨hid, hrelay, request.protocolBinding, hrequest⟩
  unfold processAuthnRequest
  simp only [hrequest]
  split
  · exact hsame hrequest rfl rfl
  · exact hsame hrequest rfl rfl
  · rename_i sp _ _
    split_ifs
    · exact hsame hrequest rfl rfl
    · obtain ⟨binding, hbinding⟩ := findProtocolProfile_request sp request
      have hkept := @answerAuthnRequest_keeps request cx
        { idp with
          protocolProfile := (findProtocolProfile sp request).2.1
          profile := { setRequestRoles idp.profile with
            request := some (.samlp2AuthnRequest (findProtocolProfile sp request).2.2) } }
        { inResponseTo := request.id } binding (by rw [hbinding])
      exact ⟨hkept.remoteProviderId, hkept.msgRelayState, hkept.request⟩
    · obtain ⟨binding, hbinding⟩ := findProtocolProfile_request sp request
      exact ⟨rfl, rfl, binding, by rw [hbinding]⟩

end

/-! ## From one to the other -/

section

variable {cx : AuthnRequestContext} {login sent : RequestingLogin} {request : Samlp2AuthnRequest}
  {relayState : Option String} {spId : String} {idp : Login} {idpServer : Server} {sp : Provider}

/-- The request goes out with a signature. -/
def signsRequest (cx : AuthnRequestContext) (login : RequestingLogin) : Bool :=
  cx.okSignatureMethod login.usedSignature.signatureMethod

/-- The relay state is a text of bytes. -/
def IsText (relayState : Option String) : Prop :=
  ∀ text ∈ relayState, ∀ c ∈ text.toList, c ≠ '\x00' ∧ c.toNat < 256

/-- The message of the service provider, at the identity provider that knows it. -/
structure Exchange (cx : AuthnRequestContext) (login : RequestingLogin)
    (request : Samlp2AuthnRequest) (relayState : Option String) (idp : Login) (sp : Provider) :
    Prop where
  documented : cx.toDeflateEnv.Documented
  signing : cx.toSigningEnv.Documented
  verifies : cx.verifySignatureFlag = true
  redirect : login.httpMethod = .redirect
  transmissible : Transmissible cx request
  relayState : IsText relayState
  endpoint : ∀ url ∈ login.endpoint, ∀ component ∈ ownComponents url,
    Uninvolved cx.toEnv component
  known : ∃ server issuer, idp.profile.server = some server ∧ request.issuer = some issuer ∧
    issuer.content.isSome ∧ server.getProvider issuer.content = some sp
  knows : Knows cx.toSigningEnv sp login.signature.signatureKey

/-- A profile has the request, its sender and its relay state. -/
structure HoldsRequest (request : Samlp2AuthnRequest) (relayState : Option String)
    (profile : Profile) : Prop where
  remoteProviderId : profile.remoteProviderId = request.issuer.bind (·.content)
  msgRelayState : profile.msgRelayState = relayState
  request : ∃ binding, profile.request =
    some (.samlp2AuthnRequest { request with protocolBinding := binding })

theorem knows_usedSignature (h : Knows cx.toSigningEnv sp login.signature.signatureKey) :
    Knows cx.toSigningEnv sp login.usedSignature.signatureKey := by
  unfold RequestingLogin.usedSignature
  split_ifs
  · exact h
  · exact ⟨h.conformance, h.hasKeys, fun key hkey => by cases hkey⟩

theorem map_toCString (h : IsText relayState) :
    ((relayState.map fun text => toCString text.toList).map (·.val)).map String.ofList =
      relayState := by
  cases relayState with
  | none => rfl
  | some text =>
    rw [Option.map_some, Option.map_some, Option.map_some, toCString_val (h text rfl),
      String.ofList_toList]

/-- What the identity provider has when it looks at the signature. -/
structure Stored (cx : AuthnRequestContext) (login : RequestingLogin)
    (request : Samlp2AuthnRequest) (relayState : Option String) (idp : Login) (sp : Provider)
    (stored : Profile) : Prop where
  holds : stored.request = some (.samlp2AuthnRequest request)
  remoteProviderId : stored.remoteProviderId = request.issuer.bind (·.content)
  remoteProvider : stored.remoteProvider = some sp
  msgRelayState : stored.msgRelayState = relayState
  server : stored.server = idp.profile.server
  signatureVerifyHint : stored.signatureVerifyHint = idp.profile.signatureVerifyHint
  signatureStatus : stored.signatureStatus = .ok ↔ signsRequest cx login = true

/-- What arrives is stored as it was sent, and its signature is looked at. -/
theorem stored_of_exchange (h : Exchange cx login request relayState idp sp)
    (hbuild : (login.fillIn request relayState).buildAuthnRequestMsg cx = .returns (.ok, sent)) :
    ∃ msgUrl stored, sent.msgUrl = some msgUrl ∧ login.profile.remoteProvider.isSome ∧
      processAuthnRequestMsg cx.toContext idp (some (queryStringOf msgUrl)) =
        processAuthnRequest cx.toContext { idp with profile := stored } ∧
      Stored cx login request relayState idp sp stored := by
  have hredirect : (login.fillIn request relayState).httpMethod = .redirect := h.redirect
  have hrequest : (login.fillIn request relayState).profile.request =
      some (.samlp2AuthnRequest request) := rfl
  obtain ⟨url, signature, query, hurl, hquery, hmsgUrl⟩ :=
    RequestingLogin.buildAuthnRequestMsg_eq_ok hredirect hrequest hbuild
  obtain ⟨hroundTrips, hparsed⟩ := h.transmissible (some url) signature
  obtain ⟨server, issuer, hserver, hissuer, -, hsp⟩ := h.known
  set received := queryStringOf (concatUrlQuery url (String.ofList query)) with hreceived
  have hdelivered : Delivered cx.toEnv query received := by
    have hown := @delivered_of_endpoint cx.toEnv url (String.ofList query) (h.endpoint url hurl)
    rwa [String.toList_ofList] at hown
  obtain ⟨text, -, htext, -⟩ := queryComponents_exported hquery
  obtain ⟨hbuilt, hne⟩ := deflatedMessage_eq_some h.documented htext
  have hread : readAuthnRequest cx.toContext received = { format := .query, node := request } := by
    have hmessage : readAuthnRequest cx.toContext received = _ :=
      read_delivered h.documented.unescapes hquery hdelivered htext hne (hroundTrips _ hbuilt)
    rwa [hparsed] at hmessage
  have hrelay := relaystate_delivered h.documented.unescapes hquery hdelivered
  have hverify := verifyQuerySignature_delivered h.signing h.verifies hquery hdelivered
    (knows_usedSignature h.knows)
  have houtcome := processAnyAuthnRequest_outcome cx.toContext idp.profile received
  rw [hread] at houtcome
  have hprovider : issuerProvider idp.profile request.toSamlp2RequestAbstract = some sp := by
    rw [issuerProvider, hissuer, hserver]
    exact hsp
  cases houtcome with
  | unreadable hmethod _ _ => cases hmethod
  | noIssuer _ _ hnone _ _ => cases hissuer.symm.trans hnone
  | unknownIssuer _ _ _ _ _ _ hnone => cases hprovider.symm.trans hnone
  | verified method hmethod issuer' hissuer' sp' hrc hprofile hsp' =>
    cases hprovider.symm.trans hsp'
    cases hissuer.symm.trans hissuer'
    refine ⟨_, (processAnyAuthnRequest cx.toContext idp.profile received).2, hmsgUrl, ?_, ?_, ?_⟩
    · obtain ⟨remoteProvider, hremote, -⟩ := Option.bind_eq_some_iff.mp hurl
      exact Option.isSome_iff_exists.mpr ⟨remoteProvider, hremote⟩
    · rw [processAuthnRequestMsg_some, ← hreceived, if_pos hrc]
    · rw [hprofile]
      constructor
      · rfl
      · rw [hissuer]
        rfl
      · -- the server is the one of the profile, the remote provider the issuer
        change (idp.profile.server.bind fun server => server.getProvider issuer.content) = some sp
        rw [hserver]
        exact hsp
      · change (getRelaystateFromQuery cx.toEnv received).map String.ofList = relayState
        rw [hrelay]
        exact map_toCString h.relayState
      · rfl
      · rfl
      · exact hverify

/-- A request that is stored is accepted if it says where the response goes, and is signed where a
signature is asked for. -/
theorem Stored.accepted_iff {stored : Profile} (h : Exchange cx login request relayState idp sp)
    (hstored : Stored cx login request relayState idp sp stored) :
    (processAuthnRequest cx.toContext { idp with profile := stored }).1 = .ok ↔
      Consumable sp request ∧ (mustVerifyAuthnRequestSignature stored = true →
        signsRequest cx login = true) := by
  obtain ⟨_, issuer, -, hissuer, hcontent, -⟩ := h.known
  obtain ⟨spId, hspId⟩ := Option.isSome_iff_exists.mp hcontent
  have hok := @processAuthnRequest_eq_ok_iff cx.toContext { idp with profile := stored } request sp
    spId hstored.holds (by rw [hissuer]; exact hspId) hstored.remoteProvider
  rw [← hstored.signatureStatus]
  exact hok

/-- However the endpoint looks and whatever the providers agreed on: the identity provider answers
the service provider, has its request and its relay state, and a good signature just if the metadata
that the service provider has made it sign. It accepts the request if it knows where to respond, and
if the signature is there wherever its own metadata ask for one. -/
theorem authnRequest_delivered (h : Exchange cx login request relayState idp sp)
    (hbuild : (login.fillIn request relayState).buildAuthnRequestMsg cx = .returns (.ok, sent)) :
    ∃ msgUrl, sent.msgUrl = some msgUrl ∧
      let result := processAuthnRequestMsg cx.toContext idp (some (queryStringOf msgUrl))
      HoldsRequest request relayState result.2.profile ∧
        (result.2.profile.signatureStatus = .ok ↔ signsRequest cx login = true) ∧
        (result.1 = .ok ↔ Consumable sp request ∧
          (mustVerifyAuthnRequestSignature result.2.profile = true →
            signsRequest cx login = true)) := by
  obtain ⟨msgUrl, stored, hmsgUrl, -, hprocess, hstored⟩ := stored_of_exchange h hbuild
  have hkept := @processAuthnRequest_keeps cx.toContext { idp with profile := stored } request
    hstored.holds
  obtain ⟨⟨hstatus, hmust⟩, -⟩ :=
    processAuthnRequest_spec cx.toContext { idp with profile := stored }
  refine ⟨msgUrl, hmsgUrl, ?_⟩
  rw [hprocess]
  refine ⟨⟨hkept.remoteProviderId.trans hstored.remoteProviderId,
    hkept.msgRelayState.trans hstored.msgRelayState, hkept.request⟩, ?_, ?_⟩
  · rw [hstatus]
    exact hstored.signatureStatus
  · rw [hmust]
    exact hstored.accepted_iff h

/-- The two providers know each other's metadata, go by them, and sign if they have to. -/
structure Agreeing (cx : AuthnRequestContext) (login : RequestingLogin) (idp : Login)
    (sp : Provider) : Prop where
  signs : cx.signMessages = true
  loads : ∀ server id, cx.loadSignatureContext server id = .ok →
    cx.okSignatureMethod (cx.signatureContext server id).signatureMethod = true
  signatureHint : login.profile.signatureHint = .maybe
  signatureVerifyHint : idp.profile.signatureVerifyHint = .maybe
  ofSp : ∀ server ∈ login.profile.server,
    authnRequestSigned server.provider = authnRequestSigned sp
  ofIdp : ∀ server ∈ idp.profile.server, ∀ remoteProvider ∈ login.profile.remoteProvider,
    wantAuthnRequestSigned remoteProvider = wantAuthnRequestSigned server.provider

/-- Where the identity provider asks for a signature, the service provider makes one. -/
theorem Agreeing.signs_of_mustVerify {stored : Profile} (hagree : Agreeing cx login idp sp)
    (hstored : Stored cx login request relayState idp sp stored)
    (hremote : login.profile.remoteProvider.isSome)
    (hsignature : login.signature = attachedSignature cx login.profile)
    (hsetup : setupMessageSignature cx.toContext login.profile = .ok)
    (hmust : mustVerifyAuthnRequestSignature stored = true) : signsRequest cx login = true := by
  obtain ⟨remoteProvider, hremote⟩ := Option.isSome_iff_exists.mp hremote
  obtain ⟨server, hserver, -⟩ := Option.bind_eq_some_iff.mp hremote
  have hsigns : mustSign login.profile = true := by
    rw [mustVerifyAuthnRequestSignature, hstored.signatureVerifyHint, hagree.signatureVerifyHint,
      hstored.server, hstored.remoteProvider] at hmust
    rw [mustSign, hagree.signatureHint, hserver, hremote]
    simp only [Option.any_some, Bool.or_eq_true] at hmust ⊢
    rcases hmust with hwant | hsp
    · right
      obtain ⟨idpServer, hidp, hwant⟩ := Option.any_eq_true _ _ |>.mp hwant
      rw [hagree.ofIdp idpServer hidp remoteProvider hremote]
      exact hwant
    · left
      rw [hagree.ofSp server hserver]
      exact hsp
  have hsetup' : cx.loadSignatureContext server login.profile.remoteProviderId = .ok := by
    simpa [setupMessageSignature, hagree.signatureHint, hagree.signs, hserver] using hsetup
  have hattached : login.signature =
      cx.signatureContext server login.profile.remoteProviderId := by
    rw [hsignature]
    simp [attachedSignature, hagree.signatureHint, hagree.signs, hserver, hsetup']
  rw [signsRequest, RequestingLogin.usedSignature, if_pos hsigns, hattached]
  exact hagree.loads _ _ hsetup'

/-- Two providers that have each other's metadata and go by them never disagree about the signature
of a request: it is accepted just if it says where the response goes. -/
theorem agreeing_accepted {start : RequestingLogin} {remoteProviderId : Option String}
    {uniqueId : String} {httpMethod : HttpMethod}
    (hinit : start.initAuthnRequest cx remoteProviderId uniqueId httpMethod = (.ok, login))
    (h : Exchange cx login request relayState idp sp) (hagree : Agreeing cx login idp sp)
    (hbuild : (login.fillIn request relayState).buildAuthnRequestMsg cx = .returns (.ok, sent)) :
    ∃ msgUrl, sent.msgUrl = some msgUrl ∧
      ((processAuthnRequestMsg cx.toContext idp (some (queryStringOf msgUrl))).1 = .ok ↔
        Consumable sp request) := by
  obtain ⟨msgUrl, stored, hmsgUrl, hremote, hprocess, hstored⟩ := stored_of_exchange h hbuild
  obtain ⟨hsignature, hsetup⟩ := RequestingLogin.initAuthnRequest_signature hinit
  refine ⟨msgUrl, hmsgUrl, ?_⟩
  rw [hprocess, hstored.accepted_iff h]
  constructor
  · rintro ⟨hconsumable, -⟩
    exact hconsumable
  · intro hconsumable
    exact ⟨hconsumable, hagree.signs_of_mustVerify hstored hremote hsignature hsetup⟩

end

/-! ## A signed request -/

/-- A request that asks for the response over POST. -/
def askedRequest : Samlp2AuthnRequest where
  id := some "_q"
  issuer := some { content := some "sp" }
  protocolBinding := some saml2MetadataBindingPost

/-- Requests are written as the short message, and the short message is read as the request. -/
def deliveryCx : AuthnRequestContext :=
  { redirectDeflateEnv, askingCx with
    toEnv := redirectDeflateEnv.toEnv
    samlp2AuthnRequestInitFromXml := fun _ _ => (.ok, askedRequest)
    manageNameIdRequestInitFromXml := fun r _ => (.castFailed, r)
    manageNameIdResponseInitFromXml := fun r _ => (.castFailed, r)
    encryptText := fun _ _ => none
    exportToBase64 := fun _ => none
    exportToSoap := fun _ => none
    exportToXml := fun _ => none
    exportToQuery := fun _ _ => none
    newArtifact := fun _ => none
    signMessages := true
    signatureContext := fun _ _ => { signatureMethod := .rsaSha256, signatureKey := redirectKey }
    writeAuthnRequest := fun _ _ _ => shortText
    exportAuthnRequest := fun _ _ _ _ => none
    buildPaosRequest := fun _ _ _ _ => (.ok, none) }

/-- An identity provider that wants its requests signed. -/
def wantingIdp : Provider where
  providerId := some "idp"
  role := .idp
  conformance := .saml20
  descriptors := (AList.insert "idp SingleSignOnService HTTP-Redirect" ["https://idp/sso?tenant=1"]
    (AList.insert "idp WantAuthnRequestsSigned" ["true"] ∅))
  endpoints := [{
    role := .idp
    kind := "SingleSignOnService"
    binding := saml2MetadataBindingRedirect
    url := "https://idp/sso?tenant=1" }]

/-- The login of the service provider before the request. -/
def askingLogin : RequestingLogin where
  profile := {
    server := some (Server.addProvider { provider := { redirectProvider with role := .sp } }
      wantingIdp).2 }

/-- The login after it has initialised the request. -/
def askedLogin : RequestingLogin :=
  (askingLogin.initAuthnRequest deliveryCx (some "idp") "_q" .redirect).2

/-- The identity provider that knows the service provider. -/
def answeringLogin : Login where
  profile := {
    server := some (Server.addProvider { provider := wantingIdp } redirectProvider).2 }

theorem askedLogin_ok :
    askingLogin.initAuthnRequest deliveryCx (some "idp") "_q" .redirect = (.ok, askedLogin) := rfl

theorem exists_sent : ∃ sent, (askedLogin.fillIn askedRequest (some "a&b")).buildAuthnRequestMsg
    deliveryCx = .returns (.ok, sent) := ⟨_, rfl⟩

theorem askedLogin_exchange :
    Exchange deliveryCx askedLogin askedRequest (some "a&b") answeringLogin redirectProvider where
  documented := ⟨redirectDeflateEnv_documented.unescapes, redirectDeflateEnv_documented.decodes,
    redirectDeflateEnv_documented.encodes, redirectDeflateEnv_documented.deflated,
    redirectDeflateEnv_documented.inflates, redirectDeflateEnv_documented.inflated⟩
  signing := ⟨redirectDeflateEnv_signing.unescapes, redirectDeflateEnv_signing.digestSize_pos,
    redirectDeflateEnv_signing.decodes⟩
  verifies := rfl
  redirect := rfl
  transmissible _ _ := ⟨redirectDeflateEnv_roundTrips, rfl⟩
  relayState text htext := by
    obtain rfl := Option.some.inj htext
    exact cString_of_all (by decide)
  endpoint url hurl := by
    obtain rfl : "https://idp/sso?tenant=1" = url := Option.some.inj hurl
    exact uninvolved_tenant
  known := ⟨_, _, rfl, rfl, rfl, rfl⟩
  knows := by
    have hknows := redirectProvider_knows
    exact ⟨hknows.conformance, hknows.hasKeys, hknows.keyPair⟩

theorem askedLogin_agreeing :
    Agreeing deliveryCx askedLogin answeringLogin redirectProvider where
  signs := rfl
  loads _ _ _ := rfl
  signatureHint := rfl
  signatureVerifyHint := rfl
  ofSp server hserver := by
    cases hserver
    rfl
  ofIdp server hserver remoteProvider hremote := by
    cases hserver
    cases hremote
    rfl

theorem consumable_askedRequest : Consumable redirectProvider askedRequest := ⟨by decide, rfl⟩

/-- The request is signed since the identity provider wants it to be. -/
theorem askedRequest_signed :
    ∃ sent msgUrl, (askedLogin.fillIn askedRequest (some "a&b")).buildAuthnRequestMsg deliveryCx =
        .returns (.ok, sent) ∧ sent.msgUrl = some msgUrl ∧
      let result := processAuthnRequestMsg deliveryCx.toContext answeringLogin
        (some (queryStringOf msgUrl))
      result.2.profile.msgRelayState = some "a&b" ∧ result.2.profile.signatureStatus = .ok ∧
        result.1 = .ok := by
  obtain ⟨sent, hsent⟩ := exists_sent
  obtain ⟨msgUrl, hmsgUrl, hholds, hstatus, hok⟩ :=
    authnRequest_delivered askedLogin_exchange hsent
  have hsigned : signsRequest deliveryCx askedLogin = true := by decide
  exact ⟨sent, msgUrl, hsent, hmsgUrl, hholds.msgRelayState, hstatus.mpr hsigned,
    hok.mpr ⟨consumable_askedRequest, fun _ => hsigned⟩⟩

theorem askedRequest_accepted :
    ∃ sent msgUrl, (askedLogin.fillIn askedRequest (some "a&b")).buildAuthnRequestMsg deliveryCx =
        .returns (.ok, sent) ∧ sent.msgUrl = some msgUrl ∧
      (processAuthnRequestMsg deliveryCx.toContext answeringLogin
        (some (queryStringOf msgUrl))).1 = .ok := by
  obtain ⟨sent, hsent⟩ := exists_sent
  obtain ⟨msgUrl, hmsgUrl, hok⟩ :=
    agreeing_accepted askedLogin_ok askedLogin_exchange askedLogin_agreeing hsent
  exact ⟨sent, msgUrl, hsent, hmsgUrl, hok.mpr consumable_askedRequest⟩

end Lasso.Saml20
