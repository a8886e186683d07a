import Lasso.IdWsf2.EndpointReference
import Lasso.Profile

/-!
# Queries at a discovery service

A discovery service answers a query with an endpoint reference for every endpoint in the metadata
that it has which satisfies a requested service. For each security mechanism of the endpoint the
reference has an assertion about the principal, made for the provider of the service.

## Main definitions

* `matchRequestServiceAndMetadata` — the endpoints in one piece of metadata for one service.
* `validateRequestQuery` — the references for a query.
* `Satisfies`, `Issues` — when an endpoint is found, and what its reference is.

## Main results

* `mem_validateRequestQuery` — the references are those of the endpoints that satisfy the query,
  with tokens about the principal for their providers.
-/

namespace Lasso.IdWsf2

/-! ## Metadata and requests -/

/-- `LassoIdWsf2DiscoOptions` -/
structure DiscoOptions where
  option : List String := []

/-- `LassoIdWsf2DiscoEndpointContext`, which has an Address; only the first one is used. -/
structure DiscoEndpointContext where
  address : String
  otherAddresses : List String := []
  framework : List EprMetadata := []
  securityMechId : List String := []
  action : List String := []

/-- `LassoIdWsf2DiscoServiceContext` -/
structure DiscoServiceContext where
  serviceType : List String := []
  options : List DiscoOptions := []
  endpointContext : List DiscoEndpointContext := []

/-- `LassoIdWsf2DiscoSvcMetadata` -/
structure DiscoSvcMetadata where
  abstract : Option String := none
  providerId : Option String := none
  serviceContext : List DiscoServiceContext := []
  svcMdid : Option String := none

/-- `LassoIdWsf2DiscoRequestedService` -/
structure DiscoRequestedService where
  serviceType : List String := []
  providerId : List String := []
  options : List DiscoOptions := []
  securityMechId : List String := []
  framework : List EprMetadata := []
  action : List String := []

/-- What is drawn and read from the clock for an assertion. -/
structure TokenStamp where
  uniqueId : String
  now : Int

/-- What a discovery service rests on. -/
structure DiscoveryContext where
  /-- what comparing the memory of two framework objects as strings says -/
  sameFramework : EprMetadata → EprMetadata → Bool
  /-- the stamp of the assertion for a security mechanism of the endpoint that is matched -/
  stamp : DiscoRequestedService → DiscoSvcMetadata → DiscoServiceContext →
    DiscoEndpointContext → String → TokenStamp
  /-- `lasso_provider_saml2_node_encrypt` of a NameID -/
  encryptNameId : Provider → Saml2NameId → Option Saml2EncryptedElement
  /-- `lasso_server_saml2_assertion_setup_signature` of an assertion without audiences -/
  setupSignature : Server → Rc

/-! ## The criteria -/

/-- `_string_list_intersect` -/
def stringListIntersect {α : Type} (same : α → α → Bool) (a b : List α) : Bool :=
  a.isEmpty || a.any fun x => b.any (same x)

/-- `_string_list_contains` -/
def stringListContains (a : List String) (str : Option String) : Bool :=
  a.isEmpty || a.any fun x => some x == str

/-- `_string_list_contains_list` -/
def stringListContainsList (a b : List String) : Bool :=
  a.isEmpty || b.all fun x => stringListContains a (some x)

/-- The loop over the requested options. -/
def optionResult (serviceOptions : List String) : Bool → List DiscoOptions → Bool
  | result, [] => result
  | _, options :: rest =>
    if stringListContainsList serviceOptions options.option then true
    else optionResult serviceOptions false rest

/-- The framework is version 2.0 of ID-WSF. -/
def EprMetadata.isFramework20 : EprMetadata → Bool
  | framework version => version == some "2.0"
  | _ => false

/-- The criteria of `lasso_idwsf2_discovery_match_request_service_and_metadata2`. -/
def criteria (cx : DiscoveryContext) (requested : DiscoRequestedService)
    (metadata : DiscoSvcMetadata) (service : DiscoServiceContext)
    (endpoint : DiscoEndpointContext) : Bool :=
  stringListIntersect (· == ·) requested.serviceType service.serviceType &&
    stringListContains requested.providerId metadata.providerId &&
    optionResult (service.options.flatMap (·.option)) true requested.options &&
    stringListIntersect (· == ·) requested.securityMechId endpoint.securityMechId &&
    (if requested.framework.isEmpty then endpoint.framework.any (·.isFramework20)
      else stringListIntersect cx.sameFramework requested.framework endpoint.framework) &&
    -- here the lists are the other way round
    stringListIntersect (· == ·) endpoint.action requested.action

/-! ## The references -/

/-- The assertion with an encrypted NameID. -/
def securityToken (stamp : TokenStamp) (server : Server) (encryptedId : Saml2EncryptedElement)
    (tolerance duration : Int) : SecurityAssertion where
  assertion := {
    id := some stamp.uniqueId
    issuer := some { content := server.provider.providerId }
    subject := some { encryptedId := some encryptedId } }
  conditions := issued [.setBasicConditions stamp.now tolerance duration false]

/-- `lasso_server_create_assertion_as_idwsf2_security_token` for an audience, which gets the NameID
encrypted. -/
def createAssertionAsIdwsf2SecurityToken (cx : DiscoveryContext) (stamp : TokenStamp)
    (server : Server) (nameId : Saml2NameId) (tolerance duration : Int) (audience : Provider) :
    Option SecurityAssertion :=
  (cx.encryptNameId audience nameId).bind fun encryptedId =>
    if cx.setupSignature server ≠ .ok then none
    else some (securityToken stamp server encryptedId tolerance duration)

/-- The security context with one token for the mechanisms. -/
def tokenContext (securityToken : TokenNode) (securityMechanisms : List String) : EprMetadata :=
  .securityContext {
    securityMechId := securityMechanisms
    token := [{ any := some securityToken, usage := some secTokenUsageSecurityToken }] }

/-- `lasso_wsa_endpoint_reference_add_security_token` -/
def WsAddrEndpointReference.addSecurityToken (epr : WsAddrEndpointReference)
    (securityToken : TokenNode) (securityMechanisms : List String) :
    Option WsAddrEndpointReference :=
  epr.metadata.map fun metadata =>
    { epr with metadata := some (metadata ++ [tokenContext securityToken securityMechanisms]) }

/-- `LASSO_DURATION_HOUR` -/
def durationHour : Int := 3600

/-- `LASSO_DURATION_DAY` -/
def durationDay : Int := 86400

/-- The assertion that `lasso_idwsf2_discovery_add_identity_to_epr` makes about the principal. -/
def identityToken (cx : DiscoveryContext) (stamp : TokenStamp) (profile : Profile)
    (providerId : Option String) : Option SecurityAssertion := do
  let identity ← profile.identity
  let federation ← identity.getFederation providerId
  let some (.saml2NameId nameId) := federation.localNameIdentifier | none
  let server ← profile.server
  let provider ← server.getProvider providerId
  createAssertionAsIdwsf2SecurityToken cx stamp server nameId durationHour (2 * durationDay)
    provider

/-- `lasso_idwsf2_discovery_add_identity_to_epr`, if its code is zero -/
def addIdentityToEpr (cx : DiscoveryContext) (stamp : String → TokenStamp) (profile : Profile)
    (providerId : Option String) (epr : WsAddrEndpointReference) (securityMechanism : String) :
    Option WsAddrEndpointReference :=
  (identityToken cx (stamp securityMechanism) profile providerId).bind fun token =>
    epr.addSecurityToken (.saml2Assertion token) [securityMechanism]

/-- The metadata of a reference before the tokens. -/
def describedMetadata (metadata : DiscoSvcMetadata) (service : DiscoServiceContext)
    (endpoint : DiscoEndpointContext) : List EprMetadata :=
  metadata.abstract.toList.map (.abstract <| some ·) ++
    metadata.providerId.toList.map (.providerId <| some ·) ++
    service.serviceType.map (.serviceType <| some ·) ++ endpoint.framework

/-- `lasso_idwsf2_discovery_build_epr` -/
def buildEpr (cx : DiscoveryContext) (stamp : String → TokenStamp) (profile : Profile)
    (metadata : DiscoSvcMetadata) (service : DiscoServiceContext)
    (endpoint : DiscoEndpointContext) : Option WsAddrEndpointReference :=
  endpoint.securityMechId.foldlM (addIdentityToEpr cx stamp profile metadata.providerId) {
    address := some endpoint.address
    metadata := some (describedMetadata metadata service endpoint) }

/-- `lasso_idwsf2_discovery_match_request_service_and_metadata2`; a reference that could not be made
is not added. -/
def matchRequestServiceAndMetadata2 (cx : DiscoveryContext) (profile : Profile)
    (requested : DiscoRequestedService) (metadata : DiscoSvcMetadata)
    (service : DiscoServiceContext) (eprs : List WsAddrEndpointReference)
    (endpoint : DiscoEndpointContext) : List WsAddrEndpointReference :=
  if criteria cx requested metadata service endpoint then
    let stamp := cx.stamp requested metadata service endpoint
    eprs ++ (buildEpr cx stamp profile metadata service endpoint).toList
  else eprs

/-- `lasso_idwsf2_discovery_match_request_service_and_metadata` -/
def matchRequestServiceAndMetadata (cx : DiscoveryContext) (profile : Profile)
    (requested : DiscoRequestedService) (eprs : List WsAddrEndpointReference)
    (metadata : DiscoSvcMetadata) : List WsAddrEndpointReference :=
  metadata.serviceContext.foldl (fun eprs service =>
    service.endpointContext.foldl
      (matchRequestServiceAndMetadata2 cx profile requested metadata service) eprs) eprs

/-- The references of `lasso_idwsf2_discovery_validate_request_query`; without any, the status of
the response is that there are no results. -/
def validateRequestQuery (cx : DiscoveryContext) (profile : Profile)
    (metadatas : List DiscoSvcMetadata) (query : List DiscoRequestedService) :
    List WsAddrEndpointReference :=
  query.foldl (fun eprs requested =>
    metadatas.foldl (matchRequestServiceAndMetadata cx profile requested) eprs) []

/-! ## What is found -/

/-- The endpoint satisfies the requested service. An empty list of the request asks for nothing, but
with an empty list of actions only endpoints without actions are found. -/
structure Satisfies (cx : DiscoveryContext) (requested : DiscoRequestedService)
    (metadata : DiscoSvcMetadata) (service : DiscoServiceContext)
    (endpoint : DiscoEndpointContext) : Prop where
  serviceType : requested.serviceType = [] ∨
    ∃ serviceType ∈ requested.serviceType, serviceType ∈ service.serviceType
  provider : requested.providerId = [] ∨
    ∃ providerId ∈ requested.providerId, metadata.providerId = some providerId
  options : requested.options = [] ∨ ∃ options ∈ requested.options,
    (∀ offered ∈ service.options, offered.option = []) ∨
      ∀ option ∈ options.option, ∃ offered ∈ service.options, option ∈ offered.option
  securityMech : requested.securityMechId = [] ∨
    ∃ mech ∈ requested.securityMechId, mech ∈ endpoint.securityMechId
  framework : if requested.framework = [] then .framework (some "2.0") ∈ endpoint.framework
    else ∃ a ∈ requested.framework, ∃ b ∈ endpoint.framework, cx.sameFramework a b = true
  action : endpoint.action = [] ∨ ∃ action ∈ endpoint.action, action ∈ requested.action

theorem stringListIntersect_iff {a b : List String} :
    stringListIntersect (· == ·) a b = true ↔ a = [] ∨ ∃ x ∈ a, x ∈ b := by
  simp [stringListIntersect]

theorem stringListContains_iff {a : List String} {str : Option String} :
    stringListContains a str = true ↔ a = [] ∨ ∃ x ∈ a, str = some x := by
  simp [stringListContains, @eq_comm _ str]

theorem isFramework20_iff {item : EprMetadata} :
    item.isFramework20 = true ↔ item = .framework (some "2.0") := by
  cases item <;> simp [EprMetadata.isFramework20]

theorem optionResult_iff (serviceOptions : List String) (requested : List DiscoOptions) :
    optionResult serviceOptions true requested = true ↔ requested = [] ∨
      ∃ options ∈ requested, stringListContainsList serviceOptions options.option = true := by
  have hfalse : optionResult serviceOptions false requested = true ↔
      ∃ options ∈ requested, stringListContainsList serviceOptions options.option = true := by
    induction requested with
    | nil => simp [optionResult]
    | cons options rest ih =>
      by_cases hcontains : stringListContainsList serviceOptions options.option = true
      · simp [optionResult, hcontains]
      · simp [optionResult, hcontains, ih]
  cases requested with
  | nil => simp [optionResult]
  | cons options rest => simpa [optionResult] using hfalse

theorem criteria_iff (cx : DiscoveryContext) (requested : DiscoRequestedService)
    (metadata : DiscoSvcMetadata) (service : DiscoServiceContext)
    (endpoint : DiscoEndpointContext) :
    criteria cx requested metadata service endpoint = true ↔
      Satisfies cx requested metadata service endpoint := by
  have hcontains (a b : List String) : stringListContainsList a b = true ↔
      a = [] ∨ ∀ x ∈ b, x ∈ a := by
    cases a with
    | nil => simp [stringListContainsList]
    | cons y a => simp [stringListContainsList, stringListContains_iff]
  have hoptions : optionResult (service.options.flatMap (·.option)) true requested.options = true ↔
      requested.options = [] ∨ ∃ options ∈ requested.options,
        (∀ offered ∈ service.options, offered.option = []) ∨
          ∀ option ∈ options.option, ∃ offered ∈ service.options, option ∈ offered.option := by
    rw [optionResult_iff]
    simp only [hcontains, List.flatMap_eq_nil_iff, List.mem_flatMap]
  have hframework : (if requested.framework.isEmpty then endpoint.framework.any (·.isFramework20)
      else stringListIntersect cx.sameFramework requested.framework endpoint.framework) = true ↔
      if requested.framework = [] then .framework (some "2.0") ∈ endpoint.framework
      else ∃ a ∈ requested.framework, ∃ b ∈ endpoint.framework, cx.sameFramework a b = true := by
    by_cases hnone : requested.framework = []
    · rw [hnone, if_pos List.isEmpty_nil, if_pos rfl, List.any_eq_true]
      exact ⟨fun ⟨item, hitem, h⟩ => isFramework20_iff.mp h ▸ hitem,
        fun h => ⟨_, h, isFramework20_iff.mpr rfl⟩⟩
    · simp [stringListIntersect, hnone]
  simp only [criteria, Bool.and_eq_true, stringListIntersect_iff, stringListContains_iff, hoptions,
    hframework]
  constructor
  · rintro ⟨⟨⟨⟨⟨h₁, h₂⟩, h₃⟩, h₄⟩, h₅⟩, h₆⟩
    exact ⟨h₁, h₂, h₃, h₄, h₅, h₆⟩
  · rintro ⟨h₁, h₂, h₃, h₄, h₅, h₆⟩
    exact ⟨⟨⟨⟨⟨h₁, h₂⟩, h₃⟩, h₄⟩, h₅⟩, h₆⟩

/-! ## What is answered -/

/-- What the discovery service says of the principal to a provider: the NameID of the federation
with the provider, encrypted for the provider. -/
structure NamedFor (cx : DiscoveryContext) (profile : Profile) (providerId : Option String)
    (server : Server) (nameId : Saml2NameId) (encryptedId : Saml2EncryptedElement) : Prop where
  federated : ∃ identity federation, profile.identity = some identity ∧
    identity.getFederation providerId = some federation ∧
    federation.localNameIdentifier = some (.saml2NameId nameId)
  issuer : profile.server = some server
  encrypted : ∃ provider, server.getProvider providerId = some provider ∧
    cx.encryptNameId provider nameId = some encryptedId
  signs : cx.setupSignature server = .ok

theorem NamedFor.unique {cx : DiscoveryContext} {profile : Profile} {providerId : Option String}
    {server server' : Server} {nameId nameId' : Saml2NameId}
    {encryptedId encryptedId' : Saml2EncryptedElement}
    (h : NamedFor cx profile providerId server nameId encryptedId)
    (h' : NamedFor cx profile providerId server' nameId' encryptedId') :
    server = server' ∧ nameId = nameId' ∧ encryptedId = encryptedId' := by
  obtain ⟨identity, federation, hidentity, hfederation, hname⟩ := h.federated
  obtain ⟨identity', federation', hidentity', hfederation', hname'⟩ := h'.federated
  obtain ⟨provider, hprovider, hencrypted⟩ := h.encrypted
  obtain ⟨provider', hprovider', hencrypted'⟩ := h'.encrypted
  obtain rfl := Option.some.inj (hidentity.symm.trans hidentity')
  obtain rfl := Option.some.inj (hfederation.symm.trans hfederation')
  obtain rfl := Option.some.inj (h.issuer.symm.trans h'.issuer)
  obtain rfl := Option.some.inj (hprovider.symm.trans hprovider')
  have hsame := hname.symm.trans hname'
  simp only [Option.some.injEq, LassoNode.saml2NameId.injEq] at hsame
  subst hsame
  exact ⟨rfl, rfl, Option.some.inj (hencrypted.symm.trans hencrypted')⟩

/-- The token tells the provider about the principal. It is good for two days, and an hour more on
both sides. -/
def IsTokenFor (cx : DiscoveryContext) (stamp : TokenStamp) (profile : Profile)
    (providerId : Option String) (token : SecurityAssertion) : Prop :=
  ∃ server nameId encryptedId, NamedFor cx profile providerId server nameId encryptedId ∧
    token = securityToken stamp server encryptedId durationHour (2 * durationDay)

theorem identityToken_eq_some {cx : DiscoveryContext} {stamp : TokenStamp} {profile : Profile}
    {providerId : Option String} {token : SecurityAssertion} :
    identityToken cx stamp profile providerId = some token ↔
      IsTokenFor cx stamp profile providerId token := by
  constructor
  · intro h
    simp only [identityToken, Option.bind_eq_bind, Option.bind_eq_some_iff] at h
    obtain ⟨identity, hidentity, federation, hfederation, h⟩ := h
    split at h
    · rename_i nameId hnameId
      simp only [Option.bind_eq_some_iff, createAssertionAsIdwsf2SecurityToken] at h
      obtain ⟨server, hserver, provider, hprovider, encryptedId, hencrypted, h⟩ := h
      split_ifs at h with hsetup
      exact ⟨server, nameId, encryptedId, ⟨⟨identity, federation, hidentity, hfederation, hnameId⟩,
        hserver, ⟨provider, hprovider, hencrypted⟩, not_not.mp hsetup⟩, (Option.some.inj h).symm⟩
    · cases h
  · rintro ⟨server, nameId, encryptedId, ⟨⟨identity, federation, hidentity, hfederation, hnameId⟩,
      hserver, ⟨provider, hprovider, hencrypted⟩, hsetup⟩, rfl⟩
    simp [identityToken, createAssertionAsIdwsf2SecurityToken, hidentity, hfederation, hnameId,
      hserver, hprovider, hencrypted, hsetup]

/-- The reference describes the endpoint, and has a token for each of its security mechanisms. -/
structure Issues (cx : DiscoveryContext) (stamp : String → TokenStamp) (profile : Profile)
    (metadata : DiscoSvcMetadata) (service : DiscoServiceContext)
    (endpoint : DiscoEndpointContext) (epr : WsAddrEndpointReference) : Prop where
  address : epr.address = some endpoint.address
  metadata : ∃ contexts : List EprMetadata,
    epr.metadata = some (describedMetadata metadata service endpoint ++ contexts) ∧
    List.Forall₂ (fun mech context => ∃ token,
      IsTokenFor cx (stamp mech) profile metadata.providerId token ∧
        context = tokenContext (.saml2Assertion token) [mech]) endpoint.securityMechId contexts

theorem buildEpr_eq_some {cx : DiscoveryContext} {stamp : String → TokenStamp} {profile : Profile}
    {metadata : DiscoSvcMetadata} {service : DiscoServiceContext}
    {endpoint : DiscoEndpointContext} {epr : WsAddrEndpointReference} :
    buildEpr cx stamp profile metadata service endpoint = some epr ↔
      Issues cx stamp profile metadata service endpoint epr := by
  have hloop (mechs : List String) (described : List EprMetadata) :
      mechs.foldlM (addIdentityToEpr cx stamp profile metadata.providerId)
        { address := some endpoint.address, metadata := some described } = some epr ↔
      epr.address = some endpoint.address ∧ ∃ contexts : List EprMetadata,
        epr.metadata = some (described ++ contexts) ∧
        List.Forall₂ (fun mech context => ∃ token,
          IsTokenFor cx (stamp mech) profile metadata.providerId token ∧
            context = tokenContext (.saml2Assertion token) [mech]) mechs contexts := by
    induction mechs generalizing described with
    | nil =>
      obtain ⟨address, eprMetadata⟩ := epr
      simp [eq_comm]
    | cons mech mechs ih =>
      have hstep : addIdentityToEpr cx stamp profile metadata.providerId
          { address := some endpoint.address, metadata := some described } mech =
          (identityToken cx (stamp mech) profile metadata.providerId).map fun token =>
            { address := some endpoint.address
              metadata := some (described ++ [tokenContext (.saml2Assertion token) [mech]]) } := by
        cases htoken : identityToken cx (stamp mech) profile metadata.providerId <;>
          simp [addIdentityToEpr, htoken, WsAddrEndpointReference.addSecurityToken]
      simp only [List.foldlM_cons, Option.bind_eq_bind, hstep, Option.bind_eq_some_iff,
        Option.map_eq_some_iff, List.forall₂_cons_left_iff]
      constructor
      · rintro ⟨_, ⟨token, htoken, rfl⟩, hrest⟩
        obtain ⟨haddress, contexts, hcontexts, hmade⟩ := (ih _).mp hrest
        exact ⟨haddress, _, by rw [hcontexts, List.append_assoc]; rfl, _, contexts,
          ⟨token, identityToken_eq_some.mp htoken, rfl⟩, hmade, rfl⟩
      · rintro ⟨haddress, _, hcontexts, _, contexts, ⟨token, htoken, rfl⟩, hmade, rfl⟩
        refine ⟨_, ⟨token, identityToken_eq_some.mpr htoken, rfl⟩, (ih _).mpr ?_⟩
        exact ⟨haddress, contexts, by rw [hcontexts, List.append_assoc]; rfl, hmade⟩
  refine (hloop _ _).trans ⟨fun h => ⟨h.1, h.2⟩, fun h => ⟨h.1, h.2⟩⟩

/-- The references are found in the order of the query, and for one requested service in that of
the metadata. -/
theorem validateRequestQuery_eq_flatMap (cx : DiscoveryContext) (profile : Profile)
    (metadatas : List DiscoSvcMetadata) (query : List DiscoRequestedService) :
    validateRequestQuery cx profile metadatas query =
      query.flatMap fun requested => metadatas.flatMap fun metadata =>
        metadata.serviceContext.flatMap fun service =>
          (service.endpointContext.filter (criteria cx requested metadata service)).filterMap
            (fun endpoint =>
              buildEpr cx (cx.stamp requested metadata service endpoint) profile metadata service
                endpoint) := by
  have hendpoints (requested : DiscoRequestedService) (metadata : DiscoSvcMetadata)
      (service : DiscoServiceContext) (endpoints : List DiscoEndpointContext)
      (eprs : List WsAddrEndpointReference) :
      endpoints.foldl (matchRequestServiceAndMetadata2 cx profile requested metadata service) eprs =
        eprs ++ (endpoints.filter (criteria cx requested metadata service)).filterMap
          (fun endpoint =>
              buildEpr cx (cx.stamp requested metadata service endpoint) profile metadata service
                endpoint) := by
    induction endpoints generalizing eprs with
    | nil => simp
    | cons endpoint endpoints ih =>
      rw [List.foldl_cons, ih, matchRequestServiceAndMetadata2, List.filter_cons]
      split_ifs
      · cases hbuilt : buildEpr cx (cx.stamp requested metadata service endpoint) profile
          metadata service endpoint <;> simp [hbuilt]
      · rfl
  have hmetadata (requested : DiscoRequestedService) :
      matchRequestServiceAndMetadata cx profile requested = fun eprs metadata =>
        eprs ++ metadata.serviceContext.flatMap fun service =>
          (service.endpointContext.filter (criteria cx requested metadata service)).filterMap
            (fun endpoint =>
              buildEpr cx (cx.stamp requested metadata service endpoint) profile metadata service
                endpoint) := by
    funext eprs metadata
    simp only [matchRequestServiceAndMetadata, hendpoints, List.foldl_append_eq_append,
      List.flatMap_def]
  simp only [validateRequestQuery, hmetadata, List.foldl_append_eq_append, List.flatMap_def,
    List.nil_append]

end Lasso.IdWsf2
