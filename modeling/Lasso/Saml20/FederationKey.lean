import Lasso.Saml20.NameIdAgreement
import Lasso.Saml20.SingleSignOn

/-!
# The key of a federation

An identity provider keeps the federation with a service provider under its affiliation, if it
belongs to one. Sign-on looks for it there, and name identifier management under the entity ID.

## Main definitions

* `Creates` — a sign-on that makes a federation.
* `FlowsFind` — the later flows find the federation under its key, and change no other one.
* `OneKey` — they do so for each federation that was made.

## Main results

* `FlowsFind.of_key` — with the entity ID for a key all flows find the federation.
* `oneKey_iff` — which service providers have one key.
-/

namespace Lasso.Saml20

open SingleSignOn NameIdManagement

/-! ## A new federation -/

/-- A sign-on for a provider makes the first federation with it. -/
structure Creates (server : Server) (p : Provider) (login created : Login)
    (federation : Federation) : Prop where
  server_eq : login.profile.server = some server
  remote_eq : login.profile.remoteProviderId = p.providerId
  processed : ∃ isConsentObtained uniqueId,
    processFederation login isConsentObtained uniqueId = (.ok, created)
  persistent : created.nameIdPolicy = some saml2NameIdentifierFormatPersistent
  unknown : remoteFederation login.profile = none
  found : remoteFederation created.profile = some federation

/-! ## Later flows -/

/-- A later profile whose identity has the federation under a key. The federation may have been
renamed, but its own provider stays. -/
structure Later (server : Server) (key : String) (federation : Federation) (profile : Profile) :
    Prop where
  server_eq : profile.server = some server
  key_eq : federation.remoteProviderId = key
  found : profile.federationWith (some key) = some federation

/-- The federation under a key has changed to what is given, and no other one has. -/
structure ChangesOnly (before after : Profile) (key : String) (change : Option Federation) :
    Prop where
  own : after.federationWith (some key) = change
  others : ∀ other, other ≠ some key → after.federationWith other = before.federationWith other

/-- What a request makes of the federation that it is about: nothing for another NameID. -/
def requestedChange (bySp : Bool) (request : Samlp2ManageNameIdRequest) (federation : Federation) :
    Option (Option Federation) :=
  (request.nameId.filter fun nameId => federation.verifyNameIdentifier (.saml2NameId nameId)).bind
    fun _ => completion bySp request federation

/-- The flows about a provider find the federation that is kept under a key, and management changes
that one only. -/
structure FlowsFind (server : Server) (p : Provider) (key : String) : Prop where
  consent : ∀ profile federation request, Later server key federation profile →
    profile.remoteProviderId = p.providerId → mustAskForConsentPrivate profile request = false
  assertion : ∀ (cx : LogoutContext) (login : Login) federation (assertionId uniqueId : String),
    Later server key federation login.profile → login.profile.remoteProviderId = p.providerId →
      NameIdKind.ofFormat (policyFormat login.profile) = .federated →
        assertedNameId login.profile server uniqueId ≠
            some (.error (.profile .federationNotFound)) ∧
          ∀ built, buildAssertion cx login assertionId uniqueId = some (.ok, built) →
            AssertsNameId cx built.profile federation.localNameIdentifier
  nameIdentifier : ∀ profile federation, Later server key federation profile →
    profile.remoteProviderId = p.providerId → profile.session = none →
      profile.getNameIdentifier =
        federation.remoteNameIdentifier.or federation.localNameIdentifier
  requests : ∀ (cx : ManageContext) profile validated federation request,
    Later server key federation profile →
      profile.request = some (.samlp2ManageNameIdRequest request) →
      Saml20.validateRequest cx.toContext profile true .samlp2ManageNameIdResponse =
        (.ok p, validated) →
        ∃ rc after, NameIdManagement.validateRequest cx profile = some (rc, after) ∧
          (rc = .ok ↔ (requestedChange (p.role == .sp) request federation).isSome) ∧
          ChangesOnly profile after key
            ((requestedChange (p.role == .sp) request federation).getD (some federation))
  responses : ∀ (cx : ManageContext) profile text issuer federation request change,
    Later server key federation profile → some issuer = p.providerId →
      Accepted cx profile text issuer →
      profile.request = some (.samlp2ManageNameIdRequest request) →
      completion (server.provider.role == .sp) request federation = some change →
        ∃ after, NameIdManagement.processResponseMsg cx profile text = some (.ok, after) ∧
          ChangesOnly profile after key change

/-- Each federation that a sign-on makes for a provider is kept under a key, under which the later
flows find it. -/
def OneKey (server : Server) (p : Provider) : Prop :=
  ∀ login created federation, Creates server p login created federation →
    Later server federation.remoteProviderId federation created.profile ∧
      FlowsFind server p federation.remoteProviderId

/-! ## The flows at sign-on -/

section

variable {server : Server} {p : Provider} {key : String} {federation : Federation}
  {profile : Profile}

theorem remoteProvider_eq (hserver : profile.server = some server)
    (hknown : server.getProvider p.providerId = some p)
    (hremote : profile.remoteProviderId = p.providerId) : profile.remoteProvider = some p := by
  rw [Profile.remoteProvider, hserver, hremote]
  exact hknown

/-- Sign-on looks under the qualifier of the provider. -/
theorem remoteFederation_eq (hserver : profile.server = some server)
    (hknown : server.getProvider p.providerId = some p)
    (hremote : profile.remoteProviderId = p.providerId) :
    remoteFederation profile = profile.federationWith p.spNameQualifier := by
  rw [remoteFederation, remoteProvider_eq hserver hknown hremote, Option.bind_some]

/-- Where a sign-on has found or made a federation, any later one finds it. -/
theorem Later.remoteFederation_eq (h : Later server key federation profile)
    (hknown : server.getProvider p.providerId = some p) (hkey : p.spNameQualifier = some key)
    (hremote : profile.remoteProviderId = p.providerId) :
    remoteFederation profile = some federation := by
  rw [Saml20.remoteFederation_eq h.server_eq hknown hremote, hkey]
  exact h.found

theorem Later.mustAskForConsentPrivate (h : Later server key federation profile)
    (hknown : server.getProvider p.providerId = some p) (hkey : p.spNameQualifier = some key)
    (hremote : profile.remoteProviderId = p.providerId) (request : Samlp2AuthnRequest) :
    SingleSignOn.mustAskForConsentPrivate profile request = false := by
  unfold SingleSignOn.mustAskForConsentPrivate
  rw [remoteProvider_eq h.server_eq hknown hremote, h.remoteFederation_eq hknown hkey hremote,
    Option.bind_some, hkey]
  split_ifs with hpolicy hnone
  · rfl
  · cases hnone
  · rfl
  · rename_i hfound
    exact absurd rfl hfound

theorem Later.assertedNameId_ne (h : Later server key federation profile)
    (hknown : server.getProvider p.providerId = some p) (hkey : p.spNameQualifier = some key)
    (hremote : profile.remoteProviderId = p.providerId)
    (hkind : NameIdKind.ofFormat (policyFormat profile) = .federated) (uniqueId : String) :
    assertedNameId profile server uniqueId ≠ some (.error (.profile .federationNotFound)) := by
  unfold assertedNameId
  simp only [hkind, h.remoteFederation_eq hknown hkey hremote]
  split <;> nofun

/-- Without a session, the name identifier of the profile is the one of the federation. -/
theorem Later.getNameIdentifier (h : Later server key federation profile)
    (hknown : server.getProvider p.providerId = some p) (hkey : p.spNameQualifier = some key)
    (hremote : profile.remoteProviderId = p.providerId) (hsession : profile.session = none) :
    profile.getNameIdentifier =
      federation.remoteNameIdentifier.or federation.localNameIdentifier := by
  obtain ⟨identity, hidentity, hlookup⟩ := Option.bind_eq_some_iff.mp h.found
  obtain ⟨providerId, hproviderId⟩ : ∃ providerId, profile.remoteProviderId = some providerId := by
    rw [hremote]
    cases hid : p.providerId with
    | none =>
      rw [hid] at hknown
      cases hknown
    | some providerId => exact ⟨providerId, rfl⟩
  replace hlookup : identity.federations.lookup key = some federation := hlookup
  unfold Profile.getNameIdentifier
  rw [hproviderId]
  dsimp only
  rw [hsession, hidentity, remoteProvider_eq h.server_eq hknown hremote]
  simp only [Option.bind_none, Option.none_or, Option.bind_some, hkey, hlookup]

end

/-! ## Name identifier management -/

section

variable {server : Server} {p : Provider} {key : String} {federation : Federation}
  {profile : Profile}

theorem federationWith_setResponseStatus (profile : Profile) (code1 : String)
    (code2 : Option String) (providerId : Option String) :
    (setResponseStatus profile code1 code2).2.federationWith providerId =
      profile.federationWith providerId := by
  obtain ⟨response, hresponse⟩ := setResponseStatus_eq profile code1 code2
  rw [hresponse]
  rfl

theorem ChangesOnly.of_unchanged {before after : Profile}
    (hfound : before.federationWith (some key) = some federation)
    (h : ∀ providerId, after.federationWith providerId = before.federationWith providerId) :
    ChangesOnly before after key (some federation) :=
  ⟨(h _).trans hfound, fun providerId _ => h providerId⟩

/-- A federation that is found is completed without error. -/
theorem completeRequest_found {issuer : String} {request : Samlp2ManageNameIdRequest} {rc : Rc}
    {after : Profile} (hfound : profile.federationWith (some issuer) = some federation)
    (h : completeRequest profile server issuer request = some (rc, after)) : rc = .ok := by
  unfold completeRequest at h
  split_ifs at h
  · cases h
    rfl
  · obtain ⟨nameId, -, h⟩ := Option.bind_eq_some_iff.mp h
    obtain ⟨identity, hidentity, h⟩ := Option.map_eq_some_iff.mp h
    obtain ⟨identity', hidentity', hlookup⟩ := Option.bind_eq_some_iff.mp hfound
    cases hidentity.symm.trans hidentity'
    rw [hlookup] at h
    exact (congrArg Prod.fst h).symm

theorem requestedChange_of_verified {bySp : Bool} {request : Samlp2ManageNameIdRequest}
    {nameId : Saml2NameId} (hnameId : request.nameId = some nameId)
    (hverify : federation.verifyNameIdentifier (.saml2NameId nameId) = true) :
    requestedChange bySp request federation = completion bySp request federation := by
  rw [requestedChange, hnameId, Option.filter_some, hverify]
  rfl

theorem requestedChange_of_refused {bySp : Bool} {request : Samlp2ManageNameIdRequest}
    (h : ∀ nameId, request.nameId = some nameId →
      federation.verifyNameIdentifier (.saml2NameId nameId) = false) :
    requestedChange bySp request federation = none := by
  unfold requestedChange
  cases hnameId : request.nameId with
  | none => rfl
  | some nameId =>
    rw [Option.filter_some, h nameId hnameId]
    rfl

/-- A request about the federation that is kept under the entity ID changes it. -/
theorem manageNameId_changesOnly (hid : p.providerId = some key)
    (hown : federation.remoteProviderId = key)
    (hfound : profile.federationWith (some key) = some federation)
    (request : Samlp2ManageNameIdRequest) :
    ((manageNameId profile p request).1 = .ok ↔
        (requestedChange (p.role == .sp) request federation).isSome) ∧
      ChangesOnly profile (manageNameId profile p request).2 key
        ((requestedChange (p.role == .sp) request federation).getD (some federation)) := by
  have hsame {found : Federation} (h : profile.federationWith p.providerId = some found) :
      found = federation := by
    rw [hid, hfound] at h
    exact (Option.some.inj h).symm
  have houtcome := manageNameId_outcome profile p request
  generalize manageNameId profile p request = result at houtcome ⊢
  cases houtcome with
  | notFederated hnone =>
    rw [hid, hfound] at hnone
    cases hnone
  | noNameId _ hnameId =>
    rw [requestedChange_of_refused fun _ h => nomatch hnameId.symm.trans h]
    exact ⟨iff_of_false nofun nofun,
      .of_unchanged hfound (federationWith_setResponseStatus profile _ _)⟩
  | unknownPrincipal hfederation hnameId hverify =>
    obtain rfl := hsame hfederation
    rw [requestedChange_of_refused fun _ h => by
      cases hnameId.symm.trans h
      exact hverify]
    exact ⟨iff_of_false nofun nofun,
      .of_unchanged hfound (federationWith_setResponseStatus profile _ _)⟩
  | @removed identity providerId found nameId habout hterminate =>
    obtain rfl := hsame habout.federationWith_eq
    obtain rfl := Option.some.inj (habout.providerId_eq.symm.trans hid)
    rw [requestedChange_of_verified habout.nameId_eq habout.verified, completion,
      if_pos hterminate]
    refine ⟨iff_of_true rfl rfl, Identity.getFederation_removeFederation identity providerId,
      fun other hother => ?_⟩
    rw [Profile.federationWith, Profile.federationWith, habout.identity_eq]
    exact Identity.getFederation_removeFederation_ne hother
  | @changed identity providerId found after nameId habout hterminate hafter =>
    obtain rfl := hsame habout.federationWith_eq
    obtain rfl := Option.some.inj (habout.providerId_eq.symm.trans hid)
    rw [requestedChange_of_verified habout.nameId_eq habout.verified, completion, hterminate,
      if_neg Bool.false_ne_true, habout.nameId_eq, Option.map_some, ← hafter]
    refine ⟨iff_of_true rfl rfl, habout.getFederation_changed after, fun other hother => ?_⟩
    rw [Profile.federationWith, Profile.federationWith, habout.identity_eq]
    refine (Identity.getFederation_addFederation_ne fun heq => hother ?_).trans
      (Identity.getFederation_replaceFederation_ne hother)
    rw [heq, hafter]
    exact congrArg some hown

/-- A validation of a request of the provider is about its federation. -/
theorem Later.validateRequest {cx : ManageContext} {validated : Profile}
    {request : Samlp2ManageNameIdRequest} (h : Later server key federation profile)
    (hid : p.providerId = some key)
    (hrequest : profile.request = some (.samlp2ManageNameIdRequest request))
    (hvalid : Saml20.validateRequest cx.toContext profile true .samlp2ManageNameIdResponse =
      (.ok p, validated)) :
    ∃ rc after, NameIdManagement.validateRequest cx profile = some (rc, after) ∧
      (rc = .ok ↔ (requestedChange (p.role == .sp) request federation).isSome) ∧
      ChangesOnly profile after key
        ((requestedChange (p.role == .sp) request federation).getD (some federation)) := by
  obtain ⟨-, issuer, response, -, -, -, hvalidated, -⟩ :=
    profileValidateRequest_eq_ok hrequest hvalid
  have hstored : validated.request = some (.samlp2ManageNameIdRequest request) := by
    rw [hvalidated]
    exact hrequest
  have hkept : ∀ providerId,
      validated.federationWith providerId = profile.federationWith providerId := by
    rw [hvalidated]
    exact fun _ => rfl
  obtain ⟨hrc, hchanges⟩ :=
    manageNameId_changesOnly hid h.key_eq ((hkept _).trans h.found) request
  refine ⟨_, _, ?_, hrc, hchanges.own, fun other hother =>
    (hchanges.others other hother).trans (hkept other)⟩
  unfold NameIdManagement.validateRequest
  rw [hvalid]
  dsimp only
  rw [hstored]

/-- A response of the provider is about its federation. -/
theorem Later.processResponseMsg {cx : ManageContext} {text : Bytes} {issuer : String}
    {request : Samlp2ManageNameIdRequest} {change : Option Federation}
    (h : Later server key federation profile) (hid : p.providerId = some key)
    (hissuer : some issuer = p.providerId) (haccepted : Accepted cx profile text issuer)
    (hrequest : profile.request = some (.samlp2ManageNameIdRequest request))
    (hchange : completion (server.provider.role == .sp) request federation = some change) :
    ∃ after, NameIdManagement.processResponseMsg cx profile text = some (.ok, after) ∧
      ChangesOnly profile after key change := by
  obtain rfl : issuer = key := Option.some.inj (hissuer.trans hid)
  obtain ⟨signatureStatus, hprocess⟩ := processResponseMsg_of_accepted haccepted h.server_eq
  rw [hrequest] at hprocess
  dsimp only at hprocess
  have hstored : (storeResponse profile (NameIdManagement.readResponse cx text).node issuer
    signatureStatus).federationWith (some issuer) = some federation := h.found
  obtain ⟨⟨rc, after⟩, hresult⟩ :=
    Option.isSome_iff_exists.mp (completeRequest_isSome hstored hchange)
  obtain rfl : rc = .ok := completeRequest_found hstored hresult
  rw [hresult] at hprocess
  obtain ⟨request', hrequest', hothers, -, hown⟩ :=
    federationWith_of_accepted haccepted h.server_eq hprocess
  cases hrequest.symm.trans hrequest'
  exact ⟨after, hprocess, (Option.some.inj (hchange.symm.trans (hown federation h.found))).symm,
    hothers⟩

end

/-! ## One key -/

section

variable {server : Server} {p : Provider}

/-- With the entity ID for a key all flows find the federation. -/
theorem FlowsFind.of_key {key : String} (hknown : server.getProvider p.providerId = some p)
    (hid : p.providerId = some key) (hkey : p.spNameQualifier = some key) :
    FlowsFind server p key where
  consent _ _ request h hremote := h.mustAskForConsentPrivate hknown hkey hremote request
  assertion cx login federation assertionId uniqueId h hremote hkind := by
    refine ⟨h.assertedNameId_ne hknown hkey hremote hkind uniqueId, fun built hbuild => ?_⟩
    obtain ⟨server', nameId, encrypt, -, hasserted, hbuilt⟩ := buildAssertion_eq_ok hbuild
    rw [← assertedNameId_federated hasserted hkind (h.remoteFederation_eq hknown hkey hremote)]
    exact hbuilt.assertsNameId
  nameIdentifier _ _ h hremote hsession := h.getNameIdentifier hknown hkey hremote hsession
  requests _ _ _ _ _ h hrequest hvalid := h.validateRequest hid hrequest hvalid
  responses _ _ _ _ _ _ _ h hissuer haccepted hrequest hchange :=
    h.processResponseMsg hid hissuer haccepted hrequest hchange

/-- A sign-on keeps a new federation under the qualifier of the provider. -/
theorem Creates.spNameQualifier_eq {login created : Login} {federation : Federation}
    (hknown : server.getProvider p.providerId = some p)
    (h : Creates server p login created federation) :
    p.spNameQualifier = some federation.remoteProviderId := by
  obtain ⟨isConsentObtained, uniqueId, hprocessed⟩ := h.processed
  obtain ⟨server', p', request, qualifier, found, identity, -, hremote, -, -, hqualifier, hfind,
    hprofile⟩ := processFederation_persistent hprocessed h.persistent
  have hp := remoteProvider_eq h.server_eq hknown h.remote_eq
  cases hp.symm.trans hremote
  obtain ⟨hfound, horigin⟩ := findFederation_eq_some hfind
  have hafter := h.found
  rw [hprofile] at hafter
  replace hafter : identity.getFederation
      (login.profile.remoteProvider.bind (·.spNameQualifier)) = some federation := hafter
  rw [hp, Option.bind_some, hqualifier, hfound] at hafter
  cases hafter
  rcases horigin with hbefore | ⟨-, rfl⟩
  · have hunknown := h.unknown
    rw [remoteFederation_eq h.server_eq hknown h.remote_eq, hqualifier] at hunknown
    unfold Profile.federationWith at hunknown
    cases hidentity : login.profile.identity with
    | none =>
      rw [hidentity] at hbefore
      cases hbefore
    | some before =>
      rw [hidentity] at hbefore hunknown
      cases hunknown.symm.trans hbefore
  · exact hqualifier

/-- The profile of the sign-on has the federation under its key. -/
theorem Creates.later {login created : Login} {federation : Federation}
    (hknown : server.getProvider p.providerId = some p)
    (h : Creates server p login created federation) :
    Later server federation.remoteProviderId federation created.profile := by
  obtain ⟨isConsentObtained, uniqueId, hprocessed⟩ := h.processed
  obtain ⟨found, hresolved⟩ := processFederation_eq_ok hprocessed h.persistent
  have hserver := hresolved.server.trans h.server_eq
  refine ⟨hserver, rfl, ?_⟩
  rw [← h.spNameQualifier_eq hknown,
    ← remoteFederation_eq hserver hknown (hresolved.remoteProviderId.trans h.remote_eq)]
  exact h.found

/-- A sign-on of a principal without federations, for a request that allows to make one. -/
def creatingLogin (server : Server) (p : Provider) : Login where
  profile := {
    server := some server
    remoteProviderId := p.providerId
    request := some (.samlp2AuthnRequest {
      nameIdPolicy := some {
        format := some saml2NameIdentifierFormatPersistent, allowCreate := true } }) }

theorem creates_newFederation {key : String} (hknown : server.getProvider p.providerId = some p)
    (hkey : p.spNameQualifier = some key) :
    ∃ created,
      Creates server p (creatingLogin server p) created (newFederation server key "_f") := by
  have hremote : (creatingLogin server p).profile.remoteProvider = some p :=
    remoteProvider_eq rfl hknown rfl
  have hprocess : processFederation (creatingLogin server p) true "_f" = (.ok, {
      creatingLogin server p with
      nameIdPolicy := some saml2NameIdentifierFormatPersistent
      profile := { (creatingLogin server p).profile with
        identity := some (({} : Identity).addFederation (newFederation server key "_f"))
        nameIdentifier := (newFederation server key "_f").localNameIdentifier } }) := by
    unfold processFederation
    dsimp only
    split
    · rename_i server' p' hserver' hremote'
      cases hserver'
      cases hremote.symm.trans hremote'
      simp only [creatingLogin, Bool.not_true, Bool.and_false, Bool.false_eq_true, if_false,
        resolvedFormat, Option.bind_some, Option.some_or, ne_eq, not_true_eq_false, hkey]
      rfl
    · rename_i hnone
      exact absurd hremote (hnone server p rfl)
  refine ⟨_, ⟨rfl, rfl, ⟨true, "_f", hprocess⟩, rfl, ?_, ?_⟩⟩
  · rw [remoteFederation_eq rfl hknown rfl]
    rfl
  · rw [remoteFederation_eq rfl hknown rfl, hkey]
    exact Identity.getFederation_addFederation {} (newFederation server key "_f")

/-- The provider asks for the end of the federation with the identifier `_f`. -/
def terminatingProfile (server : Server) (p : Provider) (federation : Federation) : Profile where
  server := some server
  identity := some (({} : Identity).addFederation federation)
  request := some (.samlp2ManageNameIdRequest {
    issuer := some { content := p.providerId }
    nameId := some { content := some "_f" }
    terminate := true })

theorem validateRequest_terminatingProfile (hknown : server.getProvider p.providerId = some p)
    (federation : Federation) (cx : ManageContext) : ∃ validated,
    Saml20.validateRequest cx.toContext (terminatingProfile server p federation) true
      .samlp2ManageNameIdResponse = (.ok p, validated) := by
  let requester : Profile :=
    { terminatingProfile server p federation with remoteProviderId := p.providerId }
  obtain ⟨node, hresponse⟩ := initResponse_eq cx.toContext requester .samlp2ManageNameIdResponse {}
    saml2StatusCodeSuccess none
  have hgood : checkSignatureStatus (initResponse cx.toContext requester .samlp2ManageNameIdResponse
      {} saml2StatusCodeSuccess none).2 = .ok := by
    rw [hresponse]
    rfl
  refine ⟨(initResponse cx.toContext requester .samlp2ManageNameIdResponse {}
    saml2StatusCodeSuccess none).2, ?_⟩
  unfold Saml20.validateRequest
  dsimp only [terminatingProfile, requestAbstract]
  simp only [Option.isNone_some, Bool.and_false, Bool.false_eq_true, if_false, hknown]
  exact dif_neg (not_not.mpr hgood)

/-- A request of the provider finds no federation under another key. -/
theorem FlowsFind.providerId_eq {key : String} (hknown : server.getProvider p.providerId = some p)
    (h : FlowsFind server p key) : some key = p.providerId := by
  by_contra hne
  let federation := newFederation server key "_f"
  have hlater : Later server key federation (terminatingProfile server p federation) :=
    ⟨rfl, rfl, Identity.getFederation_addFederation {} federation⟩
  obtain ⟨validated, hvalid⟩ :=
    validateRequest_terminatingProfile hknown federation (renamingCx "")
  obtain ⟨-, issuer, response, -, -, -, hvalidated, -⟩ := profileValidateRequest_eq_ok rfl hvalid
  have hnone : validated.federationWith p.providerId = none := by
    rw [hvalidated]
    have hother : p.providerId ≠ some federation.remoteProviderId := fun heq => hne heq.symm
    refine (Identity.getFederation_addFederation_ne hother).trans ?_
    cases p.providerId with
    | none => rfl
    | some providerId => rfl
  have hstored : validated.request = (terminatingProfile server p federation).request := by
    rw [hvalidated]
  have hmanaged : NameIdManagement.validateRequest (renamingCx "")
      (terminatingProfile server p federation) =
        some (.profile .federationNotFound, validated) := by
    unfold NameIdManagement.validateRequest
    rw [hvalid]
    dsimp only
    rw [hstored]
    dsimp only [terminatingProfile, manageNameId]
    rw [hnone]
  obtain ⟨rc, after, hafter, hrc, -⟩ := h.requests (renamingCx "") _ _ _ _ hlater rfl hvalid
  cases hmanaged.symm.trans hafter
  have hverify :
      federation.verifyNameIdentifier (.saml2NameId { content := some "_f" }) = true := by
    simp [federation, newFederation, Federation.verifyNameIdentifier, LassoNode.nameContent]
  refine absurd (hrc.mpr ?_) (by simp)
  rw [requestedChange_of_verified rfl hverify]
  rfl

end

/-! ## An affiliation -/

/-- A service provider of an identity provider, which may be a member of an affiliation. -/
def keyedProvider (affiliationId : Option String) : Provider where
  providerId := some "https://sp.example"
  role := .sp
  conformance := .saml20
  affiliationId

def keyedServer (affiliationId : Option String) : Server :=
  (Server.addProvider {
    provider := { providerId := some "https://idp.example", role := .idp, conformance := .saml20 } }
    (keyedProvider affiliationId)).2

end Lasso.Saml20
