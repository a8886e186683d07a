import Lasso.Saml20.AuthnRequest

/-!
# The URL a response is sent to

`loginAssertionConsumerServiceUrl` chooses the URL for the response to a request that was accepted:
the one that the request names, the one with its index, one with its binding, and at last the
default of the service provider. Every URL comes from an assertion consumer service, but for a URL
that the request names together with a binding, where the kind of the endpoint is not looked at.

## Main results

* `processAuthnRequest_accepted` — what an accepted request has selected.
* `consumerUrl_isAssertionConsumerService` — where the URL for an accepted request comes from.
-/

namespace Lasso.Saml20

/-- `lasso_saml20_login_get_assertion_consumer_service_url`, given the request of the profile. -/
def loginAssertionConsumerServiceUrl (request : Samlp2AuthnRequest) (remoteProvider : Provider) :
    Option String :=
  let named := request.assertionConsumerServiceURL.filter fun url =>
    request.protocolBinding.any (checkAssertionConsumerServiceUrl remoteProvider url)
  let indexed :=
    if request.assertionConsumerServiceIndex ≠ -1 ∨ request.protocolBinding = none then
      getAssertionConsumerServiceUrl remoteProvider request.assertionConsumerServiceIndex
    else none
  let bound := request.protocolBinding.bind (getAssertionConsumerServiceUrlByBinding remoteProvider)
  named.or (indexed.or (bound.or (getAssertionConsumerServiceUrl remoteProvider (-1))))

/-- The URL is the Location of an assertion consumer service, with the binding if one is named. -/
def IsConsumerUrl (p : Provider) (url : String) (binding : Option String) : Prop :=
  ∃ e ∈ p.endpoints,
    isAssertionConsumerService e = true ∧ e.url = url ∧ ∀ b ∈ binding, e.binding = b

/-- The default assertion consumer service of a provider that has none with the binding. -/
def IsDefaultUrl (p : Provider) (url : String) (binding : Option String) : Prop :=
  (∃ b ∈ binding, ∀ e ∈ p.endpoints, isAssertionConsumerService e = true → e.binding ≠ b) ∧
    ∃ e, getAssertionConsumerService p (-1) = some e ∧ e.url = url

section

variable {p : Provider} {url binding : String} {e : EndpointType}

theorem getAssertionConsumerService_eq_some {serviceId : Int}
    (h : getAssertionConsumerService p serviceId = some e) :
    e ∈ p.endpoints ∧ isAssertionConsumerService e = true := by
  have hmem := List.mem_of_find?_eq_some h
  have hfilter := List.find?_some h
  simp only [Bool.and_eq_true] at hfilter
  exact ⟨hmem, hfilter.1⟩

theorem getAssertionConsumerServiceUrl_eq_some {serviceId : Int}
    (h : getAssertionConsumerServiceUrl p serviceId = some url) : IsConsumerUrl p url none := by
  obtain ⟨e, he, rfl⟩ := Option.map_eq_some_iff.mp h
  obtain ⟨hmem, hservice⟩ := getAssertionConsumerService_eq_some he
  exact ⟨e, hmem, hservice, rfl, by simp⟩

theorem getAssertionConsumerServiceUrlByBinding_eq_some
    (h : getAssertionConsumerServiceUrlByBinding p binding = some url) :
    IsConsumerUrl p url (some binding) := by
  obtain ⟨e, he, rfl⟩ := Option.map_eq_some_iff.mp h
  have hfilter := List.find?_some he
  simp only [Bool.and_eq_true, beq_iff_eq] at hfilter
  exact ⟨e, List.mem_of_find?_eq_some he, hfilter.1, rfl, by simpa using hfilter.2⟩

theorem getAssertionConsumerServiceUrlByBinding_eq_none
    (h : getAssertionConsumerServiceUrlByBinding p binding = none) :
    ∀ e ∈ p.endpoints, isAssertionConsumerService e = true → e.binding ≠ binding := by
  intro e he hservice hbinding
  have hnone := List.find?_eq_none.mp (Option.map_eq_none_iff.mp h) e he
  exact hnone (by simp [hservice, hbinding])

theorem getAssertionConsumerServiceBindingByUrl_eq_some
    (h : getAssertionConsumerServiceBindingByUrl p url = some binding) :
    IsConsumerUrl p url (some binding) := by
  obtain ⟨e, he, rfl⟩ := Option.map_eq_some_iff.mp h
  have hfilter := List.find?_some he
  simp only [Bool.and_eq_true, beq_iff_eq] at hfilter
  exact ⟨e, List.mem_of_find?_eq_some he, hfilter.1, hfilter.2, by simp⟩

end

/-- The request names a URL and a binding, and an endpoint of the service provider has both. -/
def NamesEndpoint (p : Provider) (request : Samlp2AuthnRequest) (url binding : String) : Prop :=
  request.assertionConsumerServiceURL = some url ∧ request.protocolBinding = some binding ∧
    checkAssertionConsumerServiceUrl p url binding = true

/-- What an accepted request has selected: a URL goes with a binding, an index excludes both. -/
structure Selects (p : Provider) (request : Samlp2AuthnRequest) : Prop where
  named : ∀ url ∈ request.assertionConsumerServiceURL,
    ∃ binding, NamesEndpoint p request url binding
  indexed : request.assertionConsumerServiceIndex ≠ -1 → request.protocolBinding = none

theorem findProtocolProfile_selects {p : Provider} {request : Samlp2AuthnRequest}
    (hexclusive : ¬ ((request.protocolBinding.isSome ∨ request.assertionConsumerServiceURL.isSome) ∧
      request.assertionConsumerServiceIndex ≠ -1))
    (h : (findProtocolProfile p request).1 = .ok) :
    Selects p (findProtocolProfile p request).2.2 := by
  have hindex (hne : request.assertionConsumerServiceIndex ≠ -1) :
      request.protocolBinding = none ∧ request.assertionConsumerServiceURL = none := by
    by_contra hsome
    refine hexclusive ⟨?_, hne⟩
    rw [Option.isSome_iff_ne_none, Option.isSome_iff_ne_none]
    tauto
  unfold findProtocolProfile at h ⊢
  cases hurl : request.assertionConsumerServiceURL with
  | none =>
    cases hbinding : request.protocolBinding with
    | none => exact ⟨by simp [hurl], fun _ => hbinding⟩
    | some binding => exact ⟨by simp [hurl], fun hne => (hindex hne).1⟩
  | some url =>
    cases hbinding : request.protocolBinding with
    | some binding =>
      simp only [hurl, hbinding] at h ⊢
      split_ifs at h ⊢ with hcheck
      refine ⟨?_, fun hne => (hindex hne).1⟩
      intro url' hurl'
      obtain rfl : url = url' := Option.some.inj (hurl.symm.trans hurl')
      exact ⟨binding, hurl, hbinding, hcheck⟩
    | none =>
      simp only [hurl, hbinding] at h ⊢
      split at h
      · cases h
      · rename_i binding hbyUrl
        refine ⟨?_, fun hne => absurd (hindex hne).2 (by simp [hurl])⟩
        intro url' hurl'
        obtain rfl : url = url' := Option.some.inj hurl'
        obtain ⟨e, hmem, hservice, heurl, hebinding⟩ :=
          getAssertionConsumerServiceBindingByUrl_eq_some hbyUrl
        refine ⟨binding, rfl, rfl, ?_⟩
        simp only [isAssertionConsumerService, Bool.and_eq_true, beq_iff_eq] at hservice
        refine List.any_eq_true.mpr ⟨e, hmem, ?_⟩
        simp [hservice.1, heurl, hebinding]

/-- Roles are not part of what the endpoints of a provider are looked up by. -/
theorem remoteProvider_setRequestRoles {profile : Profile} {p : Provider}
    (h : profile.remoteProvider = some p) :
    (setRequestRoles profile).remoteProvider = some { p with role := .sp } := by
  unfold Profile.remoteProvider setRequestRoles at *
  cases hserver : profile.server with
  | none => simp [hserver] at h
  | some server =>
    have hp : server.getProvider profile.remoteProviderId = some p := by simpa [hserver] using h
    simp [Server.getProvider_setProviderRole, hp]

/-- A request that is accepted has selected an endpoint of the remote provider. -/
theorem processAuthnRequest_accepted {cx : Context} {login : Login}
    (h : (processAuthnRequest cx login).1 = .ok) :
    ∃ request p, (processAuthnRequest cx login).2.profile.request =
        some (.samlp2AuthnRequest request) ∧
      (processAuthnRequest cx login).2.profile.remoteProvider = some p ∧ Selects p request := by
  unfold processAuthnRequest at h ⊢
  split at h
  · cases h
  · rename_i request hrequest
    dsimp only at h ⊢
    split at h
    · cases h
    · cases h
    · rename_i issuer remoteProvider hissuer hremote
      split_ifs at h ⊢ with hexclusive hprofile
      · have hselects := findProtocolProfile_selects (p := { remoteProvider with role := .sp })
          hexclusive hprofile
        have hremote' := remoteProvider_setRequestRoles hremote
        unfold answerAuthnRequest
        dsimp only
        split_ifs
        all_goals
          obtain ⟨node, hresponse⟩ := initResponse_eq cx _ _ _ _ _
          rw [hresponse]
          exact ⟨_, _, rfl, hremote', hselects⟩
      · exact absurd h hprofile
  · cases h

theorem processAuthnRequestMsg_accepted {cx : Context} {login : Login} {msg : Option Bytes}
    (h : (processAuthnRequestMsg cx login msg).1 = .ok) :
    ∃ request p, (processAuthnRequestMsg cx login msg).2.profile.request =
        some (.samlp2AuthnRequest request) ∧
      (processAuthnRequestMsg cx login msg).2.profile.remoteProvider = some p ∧
      Selects p request := by
  cases msg with
  | none => exact processAuthnRequest_accepted h
  | some text =>
    rw [processAuthnRequestMsg_some] at h ⊢
    split_ifs at h ⊢ with hread
    · exact processAuthnRequest_accepted h
    · exact absurd h hread

/-- The URL that an accepted request leads to is that of an assertion consumer service of the remote
provider, with the binding that the request names. -/
def SendsToConsumer (cx : Context) (login : Login) (msg : Option Bytes) : Prop :=
  (processAuthnRequestMsg cx login msg).1 = .ok → ∀ request p,
    (processAuthnRequestMsg cx login msg).2.profile.request = some (.samlp2AuthnRequest request) →
      (processAuthnRequestMsg cx login msg).2.profile.remoteProvider = some p →
        ∀ url, loginAssertionConsumerServiceUrl request p = some url →
          IsConsumerUrl p url request.protocolBinding

/-- A request that names a URL and a binding names those of an assertion consumer service. -/
def NamesConsumer (p : Provider) (request : Samlp2AuthnRequest) : Prop :=
  ∀ url binding, NamesEndpoint p request url binding → IsConsumerUrl p url (some binding)

theorem loginAssertionConsumerServiceUrl_spec {p : Provider} {request : Samlp2AuthnRequest}
    (hselects : Selects p request) (hnames : NamesConsumer p request) {url : String}
    (h : loginAssertionConsumerServiceUrl request p = some url) :
    IsConsumerUrl p url request.protocolBinding ∨ IsDefaultUrl p url request.protocolBinding := by
  unfold loginAssertionConsumerServiceUrl at h
  cases hurl : request.assertionConsumerServiceURL with
  | some named =>
    obtain ⟨binding, -, hbinding, hcheck⟩ := hselects.named named hurl
    have hnamed : named = url := by
      simp only [hurl, hbinding, Option.filter_some, Option.any_some, hcheck, if_true,
        Option.some_or, Option.some.injEq] at h
      exact h
    subst hnamed
    rw [hbinding]
    exact .inl (hnames named binding ⟨hurl, hbinding, hcheck⟩)
  | none =>
    cases hbinding : request.protocolBinding with
    | none =>
      left
      have hurl' : getAssertionConsumerServiceUrl p request.assertionConsumerServiceIndex =
            some url ∨ getAssertionConsumerServiceUrl p (-1) = some url := by
        simp only [hurl, hbinding, Option.filter_none, Option.none_or, or_true, if_true,
          Option.bind_none, Option.or_eq_some_iff] at h
        tauto
      rcases hurl' with hindexed | hdefault
      · exact getAssertionConsumerServiceUrl_eq_some hindexed
      · exact getAssertionConsumerServiceUrl_eq_some hdefault
    | some binding =>
      have hindex : request.assertionConsumerServiceIndex = -1 := by
        by_contra hne
        simp [hselects.indexed hne] at hbinding
      simp only [hurl, hbinding, hindex, Option.filter_none, Option.none_or, ne_eq,
        not_true_eq_false, reduceCtorEq, or_self, if_false, Option.bind_some] at h
      cases hbound : getAssertionConsumerServiceUrlByBinding p binding with
      | some bound =>
        obtain rfl : bound = url := by simpa [hbound] using h
        exact .inl (getAssertionConsumerServiceUrlByBinding_eq_some hbound)
      | none =>
        right
        have hdefault : getAssertionConsumerServiceUrl p (-1) = some url := by
          simpa [hbound] using h
        exact ⟨⟨binding, rfl, getAssertionConsumerServiceUrlByBinding_eq_none hbound⟩,
          Option.map_eq_some_iff.mp hdefault⟩

/-- The URL for an accepted request is that of an assertion consumer service of the remote provider;
it has the binding that the request names, or it is the default one since none has. -/
theorem consumerUrl_isAssertionConsumerService {cx : Context} {login : Login} {msg : Option Bytes}
    (h : (processAuthnRequestMsg cx login msg).1 = .ok)
    {request : Samlp2AuthnRequest} {p : Provider}
    (hrequest : (processAuthnRequestMsg cx login msg).2.profile.request =
      some (.samlp2AuthnRequest request))
    (hremote : (processAuthnRequestMsg cx login msg).2.profile.remoteProvider = some p)
    (hnames : NamesConsumer p request) {url : String}
    (hurl : loginAssertionConsumerServiceUrl request p = some url) :
    IsConsumerUrl p url request.protocolBinding ∨ IsDefaultUrl p url request.protocolBinding := by
  obtain ⟨request', p', hrequest', hremote', hselects⟩ := processAuthnRequestMsg_accepted h
  cases hrequest.symm.trans hrequest'
  cases hremote.symm.trans hremote'
  exact loginAssertionConsumerServiceUrl_spec hselects hnames hurl

/-! ## A binding that no service has, and the URL of another service -/

/-- The service provider has an assertion consumer service and a logout service, both for POST. -/
def postingProvider : Provider where
  providerId := some "https://sp.example"
  conformance := .saml20
  endpoints := [
    { role := .sp, kind := "AssertionConsumerService", binding := saml2MetadataBindingPost
      url := "https://sp.example/acs", index := 0 },
    { role := .sp, kind := "SingleLogoutService", binding := saml2MetadataBindingPost
      url := "https://sp.example/slo" }]

/-- Every posted message is the request `r` of the service provider. -/
def requestCx (r : Samlp2AuthnRequest) : Context :=
  { Context.refusing with
    base64Decode := fun _ _ => (3, "<m>".toList)
    parseMemory := fun _ => some (.element (some saml2ProtocolHref) "AuthnRequest" [] [])
    samlp2AuthnRequestInitFromXml := fun _ _ =>
      (.ok, { r with issuer := some { content := some "https://sp.example" } }) }

/-- An identity provider that looks at no signature. -/
def openLogin : Login where
  profile := {
    server := some
      (({ provider := { providerId := some "https://idp.example" } } : Server).addProvider
        postingProvider).2
    signatureVerifyHint := .ignore }

/-- A request for the Artifact binding is answered at the POST service, and a request for the logout
URL at that URL. -/
theorem consumerUrl_ignores_binding_and_kind :
    ¬ SendsToConsumer (requestCx { protocolBinding := some saml2MetadataBindingArtifact })
        openLogin (some "m".toList) ∧
      ¬ SendsToConsumer (requestCx {
          protocolBinding := some saml2MetadataBindingPost
          assertionConsumerServiceURL := some "https://sp.example/slo" })
        openLogin (some "m".toList) := by
  constructor
  · intro h
    obtain ⟨e, he, hservice, heurl, hbinding⟩ :=
      h (by decide) _ _ rfl rfl "https://sp.example/acs" (by decide)
    revert e
    decide
  · intro h
    obtain ⟨e, he, hservice, heurl, hbinding⟩ :=
      h (by decide) _ _ rfl rfl "https://sp.example/slo" (by decide)
    revert e
    decide

theorem consumerUrl_isAssertionConsumerService_default :
    IsConsumerUrl { postingProvider with role := .sp } "https://sp.example/acs" none ∨
      IsDefaultUrl { postingProvider with role := .sp } "https://sp.example/acs" none := by
  have hok : (processAuthnRequestMsg (requestCx {}) openLogin (some "m".toList)).1 = .ok := by
    decide
  refine consumerUrl_isAssertionConsumerService hok rfl rfl ?_ (by decide)
  rintro url binding ⟨hurl, -⟩
  cases hurl

end Lasso.Saml20
