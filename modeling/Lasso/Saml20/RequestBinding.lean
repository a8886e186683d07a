import Lasso.Saml20.LogoutResponse

/-!
# The binding of a request

A request for which no method is given is sent over the first one of the remote provider to which the
local provider can receive the response. The scan for it keeps the last method that it passed over.

## Main definitions

* `getFirstMethod`, `acceptMethod` — the two scans over the endpoints.
* `initProfileRequest` — `lasso_saml20_profile_init_request` for every protocol.
* `PassedOver` — all that the remote provider has was passed over.

## Main results

* `initProfileRequest_eq_initRequest` — the part of it that other profiles use.
* `overSupportedBinding_iff` — when a request is initialised over a supported binding.
-/

namespace Lasso.Saml20

/-! ## The scans -/

/-- `LassoMdProtocolType` -/
inductive MdProtocolType where
  | federationTermination
  | nameIdentifierMapping
  | registerNameIdentifier
  | singleLogout
  | singleSignOn
  | artifactResolution
  | manageNameId
  | assertionIdRequest
  | authnQuery
  | authz
  | attribute
  | last
deriving DecidableEq

/-- `profile_names` -/
def profileNames : MdProtocolType → Option String
  | .federationTermination => some ""
  | .nameIdentifierMapping => some "NameIDMappingService"
  | .registerNameIdentifier => some ""
  | .singleLogout => some "SingleLogoutService"
  | .singleSignOn => some "SingleSignOnService"
  | .artifactResolution => some "ArtifactResolutionService"
  | .manageNameId => some "ManageNameIDService"
  | .assertionIdRequest => some "AssertionIDRequestService"
  | .authnQuery => some "AuthnQueryService"
  | .authz => some "AuthzService"
  | .attribute => some "AttributeService"
  | .last => none

/-- The kind of the endpoints at which a response is received. -/
def responseKind (protocolType : MdProtocolType) (kind : String) : String :=
  if protocolType = .singleSignOn then "AssertionConsumerService" else kind

/-- The loop of `lasso_saml20_provider_get_first_http_method`. -/
def firstMethod (provider : Provider) (protocolType : MdProtocolType) (kind : String)
    (result : HttpMethod) : List EndpointType → HttpMethod
  | [] => result
  | e :: es =>
    if e.kind = kind then
      let result := bindingUriToHttpMethod e.binding
      -- a synchronous method needs another one for receiving the response on the local side
      if isSynchronous result && !hasSynchronousMethods provider (responseKind protocolType kind)
      then firstMethod provider protocolType kind result es
      else if result ≠ .none then result
      else firstMethod provider protocolType kind result es
    else firstMethod provider protocolType kind result es

/-- `lasso_saml20_provider_get_first_http_method` -/
def getFirstMethod (provider remoteProvider : Provider) (protocolType : MdProtocolType) :
    HttpMethod :=
  match profileNames protocolType with
  | none => .none
  | some kind => firstMethod provider protocolType kind .none remoteProvider.endpoints

/-- `lasso_saml20_provider_accept_http_method` -/
def acceptMethod (remoteProvider : Provider) (protocolType : MdProtocolType)
    (httpMethod : HttpMethod) : Bool :=
  (profileNames protocolType).any (acceptHttpMethod remoteProvider · httpMethod)

/-! ## The request -/

section

variable (cx : LogoutContext) (profile : Profile) (remoteProviderId : Option String)
  (firstInSession : Bool) (toNode : Samlp2RequestAbstract → LassoNode) (uniqueId : String)
  (httpMethod : HttpMethod) (protocolType : MdProtocolType)

/-- The provider to send the request to: the given one, the first one of the session, or the first
one of the server. -/
def chooseProvider (server : Server) : Except Rc (Option String × Profile) :=
  match remoteProviderId with
  | some remoteProviderId => .ok (some remoteProviderId, profile)
  | none =>
    if firstInSession then
      match profile.session with
      | none => .error (.profile .sessionNotFound)
      | some session =>
        let (providerId, session) := session.getProviderIndex cx.foreachOrder 0
        .ok (providerId, { profile with session := some session })
    else .ok ((cx.foreachOrder server.providers.keys).head?, profile)

/-- The request to the provider that is chosen. -/
def initRequestTo (server : Server) (remoteProviderId : String) :
    Rc × Profile × Samlp2RequestAbstract :=
  let profile := { profile with remoteProviderId := some remoteProviderId }
  match getProvider profile with
  | .error rc => (rc, profile, {})
  | .ok remoteProvider =>
    -- set the name identifier
    let profile := { profile with
      nameIdentifier := match profile.getNameIdentifier with
        | some (.saml2NameId nameId) => some (.saml2NameId nameId)
        | _ => profile.nameIdentifier }
    let httpMethod :=
      if httpMethod = .any then getFirstMethod server.provider remoteProvider protocolType
      else httpMethod
    if httpMethod = .none then (.profile .unsupportedProfile, profile, {})
    else
      -- a method that is not accepted does not stop the function
      setupRequest cx.toContext profile server toNode uniqueId httpMethod
        (if acceptMethod remoteProvider protocolType httpMethod then .ok
          else .profile .unsupportedProfile)

/-- `lasso_saml20_profile_init_request`, given the identifier of the request. -/
def initProfileRequest : Rc × Profile × Samlp2RequestAbstract :=
  if httpMethod ∈ [.none, .idpInitiated, .get] then (.profile .invalidHttpMethod, profile, {})
  else
    match profile.server with
    | none => (.profile .missingServer, profile, {})
    | some server =>
      -- with PAOS the client determines the remote provider
      if httpMethod = .paos then
        setupRequest cx.toContext profile server toNode uniqueId httpMethod .ok
      else
        match chooseProvider cx profile remoteProviderId firstInSession server with
        | .error rc => (rc, profile, {})
        | .ok (none, profile) => (.profile .cannotFindAProvider, profile, {})
        | .ok (some remoteProviderId, profile) =>
          initRequestTo cx profile toNode uniqueId httpMethod protocolType server remoteProviderId

end

/-! ## The promise -/

/-- The provider has a synchronous endpoint for receiving the response. -/
def ReceivesSynchronously (provider : Provider) (protocolType : MdProtocolType) : Prop :=
  ∃ kind ∈ profileNames protocolType, ∃ e ∈ provider.endpoints,
    e.kind = responseKind protocolType kind ∧
      isSynchronous (bindingUriToHttpMethod e.binding) = true

/-- The methods of the endpoints of a provider for a protocol, in the order of the list. -/
def serviceMethods (provider : Provider) (protocolType : MdProtocolType) : List HttpMethod :=
  (profileNames protocolType).elim [] fun kind =>
    (provider.endpoints.filter (·.kind = kind)).map (bindingUriToHttpMethod ·.binding)

/-- The remote provider accepts the stored method; if it was left to the function and is
synchronous, the response can be received. -/
def OverSupportedBinding (requested : HttpMethod) (protocolType : MdProtocolType)
    (profile : Profile) : Prop :=
  ∃ server remoteProvider, profile.server = some server ∧
    server.getProvider profile.remoteProviderId = some remoteProvider ∧
    acceptMethod remoteProvider protocolType profile.httpRequestMethod = true ∧
    (requested = .any → isSynchronous profile.httpRequestMethod = true →
      ReceivesSynchronously server.provider protocolType)

/-- The response cannot be received, the remote provider has synchronous or unknown methods only,
and its last one is synchronous and accepted. -/
structure PassedOver (provider remoteProvider : Provider) (protocolType : MdProtocolType) :
    Prop where
  not_receives : ¬ ReceivesSynchronously provider protocolType
  forall_methods : ∀ method ∈ serviceMethods remoteProvider protocolType,
    isSynchronous method = true ∨ method = .none
  last_synchronous :
    isSynchronous ((serviceMethods remoteProvider protocolType).getLastD .none) = true
  last_accepted : acceptMethod remoteProvider protocolType
    ((serviceMethods remoteProvider protocolType).getLastD .none) = true

/-- A request to the provider is signed, or need not be. -/
def CanSign (cx : Context) (profile : Profile) (remoteProviderId : String) : Prop :=
  setupMessageSignature cx { profile with remoteProviderId := some remoteProviderId } = .ok

section

variable {provider remoteProvider : Provider} {protocolType : MdProtocolType} {kind : String}

theorem hasSynchronousMethods_iff (hkind : profileNames protocolType = some kind) :
    hasSynchronousMethods provider (responseKind protocolType kind) = true ↔
      ReceivesSynchronously provider protocolType := by
  simp [hasSynchronousMethods, ReceivesSynchronously, hkind]

/-- If all methods are passed over or unknown, the last one is left. -/
theorem firstMethod_of_forall {es : List EndpointType} {result : HttpMethod}
    (hreceives : hasSynchronousMethods provider (responseKind protocolType kind) = false)
    (h : ∀ method ∈ (es.filter (·.kind = kind)).map (bindingUriToHttpMethod ·.binding),
      isSynchronous method = true ∨ method = .none) :
    firstMethod provider protocolType kind result es =
      ((es.filter (·.kind = kind)).map (bindingUriToHttpMethod ·.binding)).getLastD result := by
  induction es generalizing result with
  | nil => rfl
  | cons e es ih =>
    by_cases hkind : e.kind = kind
    · simp only [hkind, decide_true, List.filter_cons_of_pos, List.map_cons,
        List.forall_mem_cons] at h
      obtain ⟨hmethod, hrest⟩ := h
      rw [firstMethod, if_pos hkind, hreceives, List.filter_cons_of_pos (by simpa using hkind),
        List.map_cons, List.getLastD_cons]
      rcases hmethod with hsync | hnone
      · rw [if_pos (by simp [hsync])]
        exact ih hrest
      · rw [hnone, if_neg (by simp [isSynchronous]), if_neg (by simp)]
        exact ih hrest
    · rw [List.filter_cons_of_neg (by simpa using hkind)] at h ⊢
      rw [firstMethod, if_neg hkind]
      exact ih h

/-- A method that is not synchronous is taken before one that is passed over. -/
theorem firstMethod_of_exists {es : List EndpointType} {result : HttpMethod}
    (hreceives : hasSynchronousMethods provider (responseKind protocolType kind) = false)
    (h : ∃ method ∈ (es.filter (·.kind = kind)).map (bindingUriToHttpMethod ·.binding),
      isSynchronous method = false ∧ method ≠ .none) :
    isSynchronous (firstMethod provider protocolType kind result es) = false := by
  induction es generalizing result with
  | nil => simp at h
  | cons e es ih =>
    by_cases hkind : e.kind = kind
    · rw [List.filter_cons_of_pos (by simpa using hkind), List.map_cons] at h
      rw [firstMethod, if_pos hkind, hreceives]
      by_cases hsync : isSynchronous (bindingUriToHttpMethod e.binding) = true
      · rw [if_pos (by simp [hsync])]
        apply ih
        simpa [hsync] using h
      · rw [if_neg (by simp [hsync])]
        by_cases hnone : bindingUriToHttpMethod e.binding = .none
        · rw [if_neg (not_not.mpr hnone)]
          apply ih
          simpa [hnone] using h
        · rw [if_pos hnone]
          simpa using hsync
    · rw [List.filter_cons_of_neg (by simpa using hkind)] at h
      rw [firstMethod, if_neg hkind]
      exact ih h

/-- The method that is found is synchronous and accepted, and the response cannot be received, if
and only if all of them were passed over. -/
theorem passedOver_iff :
    PassedOver provider remoteProvider protocolType ↔
      acceptMethod remoteProvider protocolType
          (getFirstMethod provider remoteProvider protocolType) = true ∧
        isSynchronous (getFirstMethod provider remoteProvider protocolType) = true ∧
        ¬ ReceivesSynchronously provider protocolType := by
  cases hkind : profileNames protocolType with
  | none =>
    have hfirst : getFirstMethod provider remoteProvider protocolType = .none := by
      simp [getFirstMethod, hkind]
    refine iff_of_false (fun h => ?_) (by simp [hfirst, isSynchronous])
    have hlast := h.last_synchronous
    simp [serviceMethods, hkind, isSynchronous] at hlast
  | some kind =>
    have hfirst : getFirstMethod provider remoteProvider protocolType =
        firstMethod provider protocolType kind .none remoteProvider.endpoints := by
      simp [getFirstMethod, hkind]
    have hmethods : serviceMethods remoteProvider protocolType =
        (remoteProvider.endpoints.filter (·.kind = kind)).map
          (bindingUriToHttpMethod ·.binding) := by
      simp [serviceMethods, hkind]
    constructor
    · intro h
      have hreceives := h.not_receives
      rw [← hasSynchronousMethods_iff hkind, Bool.not_eq_true] at hreceives
      have hlast : getFirstMethod provider remoteProvider protocolType =
          (serviceMethods remoteProvider protocolType).getLastD .none := by
        rw [hfirst, hmethods]
        exact firstMethod_of_forall hreceives (hmethods ▸ h.forall_methods)
      rw [hlast]
      exact ⟨h.last_accepted, h.last_synchronous, h.not_receives⟩
    · rintro ⟨haccepted, hsync, hnot⟩
      have hreceives := hnot
      rw [← hasSynchronousMethods_iff hkind, Bool.not_eq_true] at hreceives
      have hforall : ∀ method ∈ serviceMethods remoteProvider protocolType,
          isSynchronous method = true ∨ method = .none := by
        by_contra hother
        push Not at hother
        obtain ⟨method, hmethod, hasync, hnone⟩ := hother
        rw [hfirst, firstMethod_of_exists hreceives
          ⟨method, hmethods ▸ hmethod, by simpa using hasync, hnone⟩] at hsync
        cases hsync
      have hlast : getFirstMethod provider remoteProvider protocolType =
          (serviceMethods remoteProvider protocolType).getLastD .none := by
        rw [hfirst, hmethods]
        exact firstMethod_of_forall hreceives (hmethods ▸ hforall)
      exact ⟨hnot, hforall, hlast ▸ hsync, hlast ▸ haccepted⟩

end

/-! ## When it is kept -/

section

variable {cx : LogoutContext} {profile : Profile} {remoteProviderId : Option String}
  {firstInSession : Bool} {toNode : Samlp2RequestAbstract → LassoNode} {uniqueId : String}
  {httpMethod : HttpMethod} {protocolType : MdProtocolType}

/-- For a protocol other than single sign-on a response is received where a request is. -/
theorem getFirstMethod_eq_getFirstHttpMethod {provider remoteProvider : Provider} {kind : String}
    (hkind : profileNames protocolType = some kind) (hsso : protocolType ≠ .singleSignOn) :
    getFirstMethod provider remoteProvider protocolType =
      getFirstHttpMethod provider remoteProvider kind := by
  have hloop (es : List EndpointType) (result : HttpMethod) :
      firstMethod provider protocolType kind result es =
        firstHttpMethod provider kind result es := by
    induction es generalizing result with
    | nil => rfl
    | cons e es ih => simp only [firstMethod, firstHttpMethod, responseKind, hsso, if_false, ih]
  simp [getFirstMethod, hkind, getFirstHttpMethod, hloop]

/-- Without the providers of the session and for a protocol other than single sign-on the function
is `initRequest`. -/
theorem initProfileRequest_eq_initRequest {kind : String}
    (hkind : profileNames protocolType = some kind) (hsso : protocolType ≠ .singleSignOn) :
    initProfileRequest cx profile remoteProviderId false toNode uniqueId httpMethod protocolType =
      initRequest cx profile remoteProviderId toNode uniqueId httpMethod kind := by
  have haccept (remoteProvider : Provider) (method : HttpMethod) :
      acceptMethod remoteProvider protocolType method =
        acceptHttpMethod remoteProvider kind method := by
    simp [acceptMethod, hkind]
  have hrequest (server : Server) (id : String) :
      initRequestTo cx profile toNode uniqueId httpMethod protocolType server id =
        match getProvider { profile with remoteProviderId := some id } with
        | .error rc => (rc, { profile with remoteProviderId := some id }, {})
        | .ok remoteProvider =>
          let profile := { profile with
            remoteProviderId := some id
            nameIdentifier :=
              match ({ profile with remoteProviderId := some id } : Profile).getNameIdentifier with
              | some (.saml2NameId nameId) => some (.saml2NameId nameId)
              | _ => profile.nameIdentifier }
          let httpMethod :=
            if httpMethod = .any then getFirstHttpMethod server.provider remoteProvider kind
            else httpMethod
          if httpMethod = .none then (.profile .unsupportedProfile, profile, {})
          else setupRequest cx.toContext profile server toNode uniqueId httpMethod
            (if acceptHttpMethod remoteProvider kind httpMethod then .ok
              else .profile .unsupportedProfile) := by
    simp only [initRequestTo, getFirstMethod_eq_getFirstHttpMethod hkind hsso, haccept]
  unfold initProfileRequest initRequest
  by_cases hinvalid : httpMethod ∈ [HttpMethod.none, .idpInitiated, .get]
  · simp only [if_pos hinvalid]
  · simp only [if_neg hinvalid]
    cases hserver : profile.server with
    | none => rfl
    | some server =>
      simp only [hserver] at hrequest
      dsimp only
      by_cases hpaos : httpMethod = .paos
      · simp only [if_pos hpaos]
      · simp only [if_neg hpaos]
        cases remoteProviderId with
        | none =>
          simp only [chooseProvider, Bool.false_eq_true, if_false, Option.none_or]
          cases (cx.foreachOrder server.providers.keys).head? with
          | none => rfl
          | some id => exact hrequest server id
        | some id => exact hrequest server id

theorem setupRequest_eq_ok_iff {server : Server} {rc : Rc} :
    (setupRequest cx.toContext profile server toNode uniqueId httpMethod rc).1 = .ok ↔
      rc = .ok ∧ setupMessageSignature cx.toContext profile = .ok := by
  have hsame (request : LassoNode) : setupMessageSignature cx.toContext
      { profile with httpRequestMethod := httpMethod, request := some request } =
        setupMessageSignature cx.toContext profile := rfl
  unfold setupRequest
  simp only [hsame]
  split
  · rename_i hsign
    simp [hsign]
  · rename_i hsign
    exact iff_of_false hsign fun h => hsign h.2

theorem setupRequest_profile (server : Server) (rc : Rc) :
    (setupRequest cx.toContext profile server toNode uniqueId httpMethod rc).2.1 =
      { profile with
        httpRequestMethod := httpMethod
        request := some (toNode {
          id := some uniqueId, issuer := some { content := server.provider.providerId } }) } := by
  unfold setupRequest
  dsimp only
  split <;> rfl

/-- The function stops unless a provider is found; then the two scans decide. -/
theorem initRequestTo_iff {server : Server} {id : String} (hserver : profile.server = some server) :
    ((initRequestTo cx profile toNode uniqueId httpMethod protocolType server id).1 = .ok →
        OverSupportedBinding httpMethod protocolType
          (initRequestTo cx profile toNode uniqueId httpMethod protocolType server id).2.1) ↔
      (httpMethod = .any → ∀ remoteProvider ∈ server.getProvider (some id),
        PassedOver server.provider remoteProvider protocolType →
          ¬ CanSign cx.toContext profile id) := by
  have hsign (nameIdentifier : Option LassoNode) :
      setupMessageSignature cx.toContext { profile with
        server := some server
        remoteProviderId := some id
        nameIdentifier := nameIdentifier } = .ok ↔ CanSign cx.toContext profile id := by
    rw [← hserver]
    rfl
  unfold initRequestTo
  cases hremote : server.getProvider (some id) with
  | none => simp [getProvider, hserver, hremote]
  | some remoteProvider =>
    simp only [getProvider, hserver, hremote, Option.mem_def, Option.some.injEq, forall_eq']
    have hscan : httpMethod = .any →
        (if httpMethod = .any then getFirstMethod server.provider remoteProvider protocolType
          else httpMethod) = getFirstMethod server.provider remoteProvider protocolType :=
      fun hany => if_pos hany
    have hgiven : httpMethod ≠ .any →
        (if httpMethod = .any then getFirstMethod server.provider remoteProvider protocolType
          else httpMethod) = httpMethod := fun hany => if_neg hany
    generalize (if httpMethod = .any then getFirstMethod server.provider remoteProvider protocolType
      else httpMethod) = method at hscan hgiven ⊢
    by_cases hnone : method = .none
    · subst hnone
      rw [if_pos rfl]
      refine iff_of_true (fun h => nomatch h) fun hany hpassed => ?_
      have hsync := (passedOver_iff.mp hpassed).2.1
      rw [← hscan hany] at hsync
      cases hsync
    · rw [if_neg hnone, setupRequest_eq_ok_iff, setupRequest_profile, hsign]
      simp only [OverSupportedBinding, hremote, Option.some.injEq, exists_and_left,
        exists_eq_left', ite_eq_left_iff, reduceCtorEq, imp_false, not_not]
      rw [passedOver_iff]
      constructor
      · rintro h hany ⟨haccepted, hsync, hnot⟩ hsign
        rw [← hscan hany] at haccepted hsync
        exact hnot ((h ⟨haccepted, hsign⟩).2 hany hsync)
      · rintro h ⟨haccepted, hsign⟩
        refine ⟨haccepted, fun hany hsync => ?_⟩
        by_contra hnot
        rw [hscan hany] at haccepted hsync
        exact h hany ⟨haccepted, hsync, hnot⟩ hsign

theorem chooseProvider_server {server : Server} {id : Option String} {profile' : Profile}
    (h : chooseProvider cx profile remoteProviderId firstInSession server = .ok (id, profile')) :
    profile'.server = profile.server ∧ ∀ id : String,
      CanSign cx.toContext profile' id ↔ CanSign cx.toContext profile id := by
  unfold chooseProvider at h
  split at h
  · cases h
    exact ⟨rfl, fun _ => Iff.rfl⟩
  · split_ifs at h
    · split at h
      · cases h
      · cases h
        exact ⟨rfl, fun _ => Iff.rfl⟩
    · cases h
      exact ⟨rfl, fun _ => Iff.rfl⟩

end

/-- A return code of 0 means that the request goes over a supported binding, if and only if a method
was given, or not all methods of the remote provider are passed over, or the request cannot be
signed. -/
theorem overSupportedBinding_iff (cx : LogoutContext) (profile : Profile)
    (remoteProviderId : Option String) (firstInSession : Bool)
    (toNode : Samlp2RequestAbstract → LassoNode) (uniqueId : String) (httpMethod : HttpMethod)
    (protocolType : MdProtocolType) (hpaos : httpMethod ≠ .paos) :
    ((initProfileRequest cx profile remoteProviderId firstInSession toNode uniqueId httpMethod
          protocolType).1 = .ok →
        OverSupportedBinding httpMethod protocolType (initProfileRequest cx profile
          remoteProviderId firstInSession toNode uniqueId httpMethod protocolType).2.1) ↔
      (httpMethod = .any → ∀ server ∈ profile.server, ∀ id profile',
        chooseProvider cx profile remoteProviderId firstInSession server =
            .ok (some id, profile') →
          ∀ remoteProvider ∈ server.getProvider (some id),
            PassedOver server.provider remoteProvider protocolType →
              ¬ CanSign cx.toContext profile id) := by
  unfold initProfileRequest
  by_cases hinvalid : httpMethod ∈ [HttpMethod.none, .idpInitiated, .get]
  · rw [if_pos hinvalid]
    refine iff_of_true (fun h => nomatch h) ?_
    rintro rfl
    simp at hinvalid
  · rw [if_neg hinvalid]
    cases hserver : profile.server with
    | none => exact iff_of_true (fun h => nomatch h) fun _ _ h => nomatch h
    | some server =>
      simp only [if_neg hpaos, Option.mem_def, Option.some.injEq, forall_eq']
      cases hchosen : chooseProvider cx profile remoteProviderId firstInSession server with
      | error rc =>
        refine iff_of_true (fun h => ?_) fun _ _ _ h => nomatch h
        dsimp only at h
        subst h
        unfold chooseProvider at hchosen
        split at hchosen
        · cases hchosen
        · split_ifs at hchosen
          split at hchosen <;> cases hchosen
      | ok chosen =>
        obtain ⟨id, profile'⟩ := chosen
        obtain ⟨hsame, hsign⟩ := chooseProvider_server hchosen
        cases id with
        | none =>
          refine iff_of_true (fun h => nomatch h) fun _ id _ h => ?_
          cases h
        | some id =>
          dsimp only
          rw [initRequestTo_iff (hsame.trans hserver), hsign]
          simp only [Except.ok.injEq, Prod.mk.injEq, Option.some.injEq, and_imp]
          constructor
          · rintro h hany id' profile'' rfl rfl
            exact h hany
          · intro h hany
            exact h hany id profile' rfl rfl

/-! ## An identity provider with redirect alone -/

/-- Every parser fails, and a table is visited in its order. -/
def askingCx : LogoutContext where
  toContext := .refusing
  samlp2LogoutResponseInitFromXml r _ := (.castFailed, r)
  foreachOrder := id
  encryptNameId _ _ := none
  buildResponse _ _ _ := .ok

def redirectIdp : Provider where
  providerId := some "https://idp.example"
  role := .idp
  endpoints := [{
    role := .idp
    kind := "SingleSignOnService"
    binding := saml2MetadataBindingRedirect
    url := "https://idp.example/sso" }]

/-- A service provider that receives responses over the binding. -/
def consumingProfile (binding : String) : Profile where
  server := some (Server.addProvider {
    provider := {
      providerId := some "https://sp.example"
      role := .sp
      endpoints := [{
        role := .sp
        kind := "AssertionConsumerService"
        binding
        url := "https://sp.example/acs" }] } } redirectIdp).2

/-- The request of a service provider for single sign-on, over any method. -/
def consumingRequest (binding : String) : Rc × Profile × Samlp2RequestAbstract :=
  initProfileRequest askingCx (consumingProfile binding) none false .samlp2RequestAbstract "_q" .any
    .singleSignOn

/-- A service provider that receives responses over PAOS only asks over a redirect. -/
theorem paosConsumer_redirected :
    (consumingRequest saml2MetadataBindingPaos).1 = .ok ∧
      ¬ OverSupportedBinding .any .singleSignOn (consumingRequest saml2MetadataBindingPaos).2.1 := by
  refine ⟨by decide, ?_⟩
  rintro ⟨server, remoteProvider, hserver, -, -, hreceives⟩
  obtain ⟨kind, -, e, he, -, hsync⟩ := hreceives rfl (by decide)
  cases hserver
  obtain rfl : e = _ := List.mem_singleton.mp he
  exact absurd hsync (by decide)

theorem overSupportedBinding_postConsumer :
    (consumingRequest saml2MetadataBindingPost).1 = .ok ∧
      OverSupportedBinding .any .singleSignOn (consumingRequest saml2MetadataBindingPost).2.1 := by
  have hok : (consumingRequest saml2MetadataBindingPost).1 = .ok := by decide
  refine ⟨hok, (overSupportedBinding_iff askingCx (consumingProfile saml2MetadataBindingPost) none
    false .samlp2RequestAbstract "_q" .any .singleSignOn (by decide)).mpr ?_ hok⟩
  rintro - server hserver id profile' - remoteProvider - hpassed
  cases hserver
  exact absurd ⟨_, rfl, _, List.mem_singleton_self _, rfl, by decide⟩ hpassed.not_receives

end Lasso.Saml20
