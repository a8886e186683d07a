import Mathlib.Logic.Relation
import Lasso.IdFf.NameRegistration
import Lasso.IdFf.SingleSignOn

/-!
# Federations on both sides of ID-FF 1.2

A federation is recorded twice, by the identity provider and by the service provider. What is local
for one of them is remote for the other, after every sign-on and every registration.

## Main results

* `linked_of_reaches` — the two federations mirror each other after any run.
* `mirrored_of_reaches` — so that the old identifier of a later registration is known.
-/

namespace Lasso.FederationMirror

open NameRegistration IdFf

/-! ## The two sides -/

/-- One side of a federation: its server, and the role that the other side knows it in. -/
structure Site where
  server : Server
  providerId : String
  role : ProviderRole
  hasProviderId : server.provider.providerId = some providerId

/-- A side knows another one as a provider with its role, for which name identifiers are not
encrypted. -/
def Site.Knows (s t : Site) : Prop :=
  ∃ p, s.server.getProvider (some t.providerId) = some p ∧ p.role = t.role ∧
    p.encryptionMode ≠ .nameId ∧ p.encryptionMode ≠ .both

/-- An identity provider and a service provider that know each other. -/
structure Partners where
  idp : Site
  sp : Site
  idp_role : idp.role = .idp
  sp_role : sp.role = .sp
  idp_knows : idp.Knows sp
  sp_knows : sp.Knows idp

/-- The identity of the principal on both sides. -/
structure Identities where
  idp : Option Identity
  sp : Option Identity

/-- The federation with a side. -/
def Site.federationIn (s : Site) (identity : Option Identity) : Option Federation :=
  identity.bind (·.getFederation (some s.providerId))

/-! ## Sign-ons and registrations -/

/-- A registration of `sender` with `receiver`, every step of which returned zero. -/
structure Registration (sender receiver : Site) where
  cx : RegistrationContext
  sending : NameRegistration
  started : NameRegistration
  receiving : NameRegistration
  answered : NameRegistration
  finished : NameRegistration
  httpMethod : HttpMethod
  requestId : String
  uniqueId : String
  responseMsg : Bytes
  senderServer : sender.server.SameButRole sending.server
  receiverServer : receiver.server.SameButRole receiving.server
  starts : initRequest sending receiver.providerId httpMethod requestId uniqueId =
    some (.ok, started)
  delivers : receiving.request = started.request
  validates : validateRequest receiving = (.ok, answered)
  answers : answered.response = some (readResponse cx responseMsg).node
  finishes : processResponseMsg cx started responseMsg = some (.ok, finished)

/-- A sign-on of ID-FF 1.2, every step of which returned zero. The response is put into the login
between `processFederation` and `buildAssertion`. -/
structure SignOn (p : Partners) where
  cx : AssertionContext
  spCx : Context
  login : Login
  federated : Login
  asserted : Login
  accepting : Login
  accepted : Login
  request : LibAuthnRequest
  response : SamlpResponse
  delivered : SamlpResponse
  isConsentObtained : Bool
  uniqueId : String
  assertionId : String
  onetimeId : String
  artifact : String
  server : Server
  idpServer : p.idp.server.SameButRole server
  server_eq : login.profile.server = some server
  request_eq : login.profile.request = some (.libAuthnRequest request)
  version : ¬(request.majorVersion = 1 ∧ request.minorVersion < 2)
  remote_eq : login.profile.remoteProviderId = some p.sp.providerId
  federates : processFederation uniqueId login request isConsentObtained = (.ok, federated)
  response_eq : response.assertion = []
  asserts : buildAssertion cx { federated with profile := { federated.profile with
    response := some (.samlpResponse response) } } assertionId onetimeId artifact =
      some (.ok, asserted)
  accepting_eq : accepting.profile.response = some (.samlpResponse delivered)
  delivers : ∃ built, asserted.profile.response = some (.samlpResponse built) ∧
    delivered.assertion = built.assertion
  acceptingRemote : accepting.profile.remoteProviderId = some p.idp.providerId
  accepts : acceptSso spCx accepting = some (.ok, accepted)

/-- What may happen to the two identities. -/
inductive Step (p : Partners) : Identities → Identities → Prop
  | signOn (s : SignOn p) : Step p ⟨s.login.profile.identity, s.accepting.profile.identity⟩
      ⟨s.asserted.profile.identity, s.accepted.profile.identity⟩
  | spRegisters (r : Registration p.sp p.idp) : Step p
      ⟨r.receiving.identity, r.sending.identity⟩ ⟨r.answered.identity, r.finished.identity⟩
  | idpRegisters (r : Registration p.idp p.sp) : Step p
      ⟨r.sending.identity, r.receiving.identity⟩ ⟨r.finished.identity, r.answered.identity⟩

/-- Runs of completed steps. -/
def Reaches (p : Partners) : Identities → Identities → Prop := Relation.ReflTransGen (Step p)

/-! ## Federations that are linked -/

/-- An identifier that a sign-on makes a federation of. -/
structure IsFederated (n : SamlNameIdentifier) : Prop where
  format : n.format = some libNameIdentifierFormatFederated
  content : n.content.isSome

/-- The federations of the identity provider and of the service provider: there are none, or they
have the same identifiers. -/
inductive Linked : Option Federation → Option Federation → Prop
  | unfederated : Linked none none
  | federated {f g : Federation} {idpName : SamlNameIdentifier}
      {spName : Option SamlNameIdentifier} (idpFederated : IsFederated idpName)
      (spFederated : ∀ n ∈ spName, IsFederated n)
      (idpLocal : f.localNameIdentifier = some (.samlNameIdentifier idpName))
      (idpRemote : f.remoteNameIdentifier = spName.map .samlNameIdentifier)
      (spLocal : g.localNameIdentifier = spName.map .samlNameIdentifier)
      (spRemote : g.remoteNameIdentifier = some (.samlNameIdentifier idpName)) :
      Linked (some f) (some g)

/-- What is local on one side is remote on the other one. -/
structure Mirrored (idp sp : Option Federation) : Prop where
  spLocal : sp.bind (·.localNameIdentifier) = idp.bind (·.remoteNameIdentifier)
  spRemote : sp.bind (·.remoteNameIdentifier) = idp.bind (·.localNameIdentifier)

theorem Linked.mirrored {f g : Option Federation} (h : Linked f g) : Mirrored f g := by
  cases h with
  | unfederated => exact ⟨rfl, rfl⟩
  | federated _ _ idpLocal idpRemote spLocal spRemote =>
    exact ⟨spLocal.trans idpRemote.symm, spRemote.trans idpLocal.symm⟩

/-- The identities have linked federations. -/
def Partners.Linked (p : Partners) (ids : Identities) : Prop :=
  FederationMirror.Linked (p.sp.federationIn ids.idp) (p.idp.federationIn ids.sp)

/-! ## Registrations -/

section

variable {sender receiver : Site}

/-- A registration that a side starts is about its federation with the receiver, which it knows
under its role. -/
theorem Site.Knows.started (hknows : sender.Knows receiver) {registration after : NameRegistration}
    {httpMethod : HttpMethod} {requestId uniqueId : String}
    (hserver : sender.server.SameButRole registration.server)
    (hinit : initRequest registration receiver.providerId httpMethod requestId uniqueId =
      some (.ok, after)) :
    ∃ identity federation remote request,
      Started registration after receiver.providerId uniqueId identity federation remote request ∧
        remote.role = receiver.role ∧
        receiver.federationIn registration.identity = some federation := by
  obtain ⟨known, hknown, hrole, -⟩ := hknows
  obtain ⟨identity, federation, remote, request, hstarted⟩ := initRequest_eq_ok hinit
  have hremote := hstarted.remote_eq
  rw [hserver.getProvider, hknown] at hremote
  cases hremote
  refine ⟨identity, federation, known, request, hstarted, hrole, ?_⟩
  rw [Site.federationIn, hstarted.identity_eq]
  exact hstarted.federation_eq

/-- Both sides take the same new identifier from a request. -/
theorem provided_of_started {before after : NameRegistration} {remoteProviderId uniqueId : String}
    {identity : Identity} {federation : Federation} {remote p : Provider}
    {request : LibRegisterNameIdentifierRequest}
    (hstarted : Started before after remoteProviderId uniqueId identity federation remote request)
    (hroles : (p.role = .sp ∧ remote.role = .idp) ∨ (p.role = .idp ∧ remote.role = .sp)) :
    providedByRemote p request = some (newNameIdentifier remoteProviderId uniqueId) ∧
      (providedToRemote remote after.request).join =
        some (newNameIdentifier remoteProviderId uniqueId) := by
  rw [hstarted.request_eq]
  rcases hroles with ⟨hp, hremote⟩ | ⟨hp, hremote⟩
  · obtain ⟨-, hsp, -⟩ := hstarted.fromSp hremote
    simp [providedByRemote, providedToRemote, hp, hremote, hsp]
  · obtain ⟨hidp, -, -⟩ := hstarted.fromIdp (by rw [hremote]; decide)
    simp [providedByRemote, providedToRemote, hp, hremote, hidp]

/-- The receiver registers the name that the request provides as the sender's. -/
theorem Registration.federationIn_answered (r : Registration sender receiver)
    (hreceiver : receiver.Knows sender) {request : LibRegisterNameIdentifierRequest}
    {name : LassoNode} (hrequest : r.receiving.request = some request)
    (hid : request.providerId = some sender.providerId)
    (hname : ∀ p : Provider, p.role = sender.role → providedByRemote p request = some name) :
    ∃ g, sender.federationIn r.receiving.identity = some g ∧
      sender.federationIn r.answered.identity =
        some { g with remoteNameIdentifier := some name } := by
  obtain ⟨known, hknown, hrole, -⟩ := hreceiver
  obtain ⟨updated, hupdated, hanswered⟩ := validateRequest_eq_ok hrequest r.validates
  unfold registered at hupdated
  simp only [Option.bind_eq_bind, Option.bind_eq_some_iff, Option.guard_eq_some'] at hupdated
  obtain ⟨_, hid', i, hi, g, hg, -, -, p, hp, provided, hprovided, hupdated⟩ := hupdated
  cases hid.symm.trans hid'
  rw [r.receiverServer.getProvider, hknown] at hp
  cases hp
  cases (hname known hrole).symm.trans hprovided
  refine ⟨g, ?_, ?_⟩
  · rw [Site.federationIn, hi]
    exact hg
  · cases hupdated
    rw [Site.federationIn, hanswered]
    exact Identity.getFederation_replaceFederation (by rw [hg]; rfl)

/-- The sender completes the registration with the name that its request provides. -/
theorem Registration.federationIn_finished (r : Registration sender receiver) {identity : Identity}
    {f : Federation} {remote : Provider} {request : LibRegisterNameIdentifierRequest}
    {name : LassoNode}
    (hstarted : Started r.sending r.started receiver.providerId r.uniqueId identity f remote
      request)
    (hname : (providedToRemote remote r.started.request).join = some name) :
    receiver.federationIn r.finished.identity =
      some { f with localNameIdentifier := some name } := by
  obtain ⟨updated, hupdated, hfinished⟩ := processResponseMsg_eq_ok r.finishes
  unfold completed at hupdated
  simp only [Option.bind_eq_bind, Option.bind_eq_some_iff, Option.guard_eq_some'] at hupdated
  obtain ⟨-, -, -, -, -, -, i, hi, _, hremoteId, f', hf', q, hq, provided, hprovided, hupdated⟩ :=
    hupdated
  cases hstarted.keepsRemote.symm.trans hremoteId
  cases hstarted.keepsIdentity.symm.trans hi
  cases hstarted.federation_eq.symm.trans hf'
  rw [remoteProvider, hstarted.keepsRemote, hstarted.server.getProvider, hstarted.remote_eq] at hq
  cases hq
  cases hname.symm.trans hprovided
  cases hupdated
  rw [Site.federationIn, hfinished]
  exact Identity.getFederation_replaceFederation (by rw [hf']; rfl)

/-- What a registration makes of the federations: the sender's local identifier and the receiver's
remote one are a new identifier. -/
theorem Registration.federations (r : Registration sender receiver)
    (hsender : sender.Knows receiver) (hreceiver : receiver.Knows sender)
    (hroles : (sender.role = .sp ∧ receiver.role = .idp) ∨
      (sender.role = .idp ∧ receiver.role = .sp)) :
    ∃ f g, receiver.federationIn r.sending.identity = some f ∧
      sender.federationIn r.receiving.identity = some g ∧
      receiver.federationIn r.finished.identity = some { f with
        localNameIdentifier := some (newNameIdentifier receiver.providerId r.uniqueId) } ∧
      sender.federationIn r.answered.identity = some { g with
        remoteNameIdentifier := some (newNameIdentifier receiver.providerId r.uniqueId) } := by
  obtain ⟨identity, f, remote, request, hstarted, hrole, hf⟩ :=
    hsender.started r.senderServer r.starts
  have hrequest : r.receiving.request = some request := r.delivers.trans hstarted.request_eq
  have hid : request.providerId = some sender.providerId := by
    rw [hstarted.providerId, r.senderServer.providerId, sender.hasProviderId]
  have hprovided : ∀ p : Provider, p.role = sender.role →
      providedByRemote p request = some (newNameIdentifier receiver.providerId r.uniqueId) ∧
        (providedToRemote remote r.started.request).join =
          some (newNameIdentifier receiver.providerId r.uniqueId) := fun p hp =>
    provided_of_started hstarted (by rw [hp, hrole]; exact hroles)
  obtain ⟨g, hg, hanswered⟩ := r.federationIn_answered hreceiver hrequest hid
    fun p hp => (hprovided p hp).1
  obtain ⟨known, -, hknown, -⟩ := hreceiver
  have hfinished := r.federationIn_finished hstarted (hprovided known hknown).2
  exact ⟨f, g, hf, hg, hfinished, hanswered⟩

end

/-! ## Sign-ons -/

section

/-- The identifier that a new federation starts with. -/
def firstName (providerId : Option String) (uniqueId : String) : SamlNameIdentifier where
  nameQualifier := providerId
  format := some libNameIdentifierFormatFederated
  content := some uniqueId

/-- What a federated request is answered with: nothing that is federated for a one-time policy, the
federation that exists, or a new one. -/
inductive Federates (before : Option Federation) (new : Federation) :
    String → Option Federation → Prop
  | onetime : Federates before new libNameidPolicyTypeOneTime before
  | existing {policy f} (h : before = some f) (hpolicy : policy ≠ libNameidPolicyTypeOneTime) :
      Federates before new policy (some f)
  | new {policy} (h : before = none) (hpolicy : policy ≠ libNameidPolicyTypeOneTime) :
      Federates before new policy (some new)

theorem processFederation_eq_ok {uniqueId : String} {login after : Login}
    {request : LibAuthnRequest} {isConsentObtained : Bool} {remoteProviderId : String}
    (hremote : login.profile.remoteProviderId = some remoteProviderId)
    (h : processFederation uniqueId login request isConsentObtained = (.ok, after)) :
    after.profile.server = login.profile.server ∧ after.profile.request = login.profile.request ∧
      after.profile.remoteProviderId = some remoteProviderId ∧
      ∃ policy identity, after.nameIdPolicy = some policy ∧
        after.profile.identity = some identity ∧
        Federates ((login.profile.identity.getD {}).getFederation (some remoteProviderId))
          { remoteProviderId
            localNameIdentifier := some (.samlNameIdentifier
              (firstName (login.profile.server.bind (·.provider.providerId)) uniqueId)) }
          policy (identity.getFederation (some remoteProviderId)) := by
  unfold processFederation at h
  dsimp only at h
  rw [hremote] at h
  generalize request.nameIdPolicy.getD libNameidPolicyTypeNone = policy at h
  split_ifs at h with honetime hnone hother hconsent hany
  · cases h
    exact ⟨rfl, rfl, rfl, policy, _, rfl, rfl, honetime ▸ .onetime⟩
  · split at h
    · cases h
    · rename_i f hf
      cases h
      refine ⟨rfl, rfl, rfl, policy, _, rfl, rfl, ?_⟩
      rw [hf]
      exact .existing rfl honetime
  · cases h
  · cases h
    exact ⟨rfl, rfl, rfl, _, _, rfl, rfl, .onetime⟩
  · cases h
  · split at h
    · rename_i f hf
      cases h
      refine ⟨rfl, rfl, rfl, policy, _, rfl, rfl, ?_⟩
      rw [hf]
      exact .existing rfl honetime
    · rename_i hf hid
      cases hid
      cases h
      refine ⟨rfl, rfl, rfl, policy, _, rfl, rfl, ?_⟩
      rw [hf, Identity.getFederation_addFederation]
      exact .new rfl honetime
    · cases ‹some remoteProviderId = none›

theorem encryptSubject_eq {cx : AssertionContext} {provider : Option Provider}
    (h : ∀ p ∈ provider, p.encryptionMode ≠ .nameId ∧ p.encryptionMode ≠ .both)
    (subject : SamlSubject) : encryptSubject cx provider subject = subject := by
  unfold encryptSubject
  split
  · rename_i p _ hfilter _
    obtain ⟨hp, hmode⟩ := Option.filter_eq_some_iff.mp hfilter
    simp only [decide_eq_true_eq] at hmode
    exact absurd hmode (not_or.mpr (h p hp))
  · rfl

theorem buildStatement_profile {profile profile' : Profile} {federation : Option Federation}
    {providerId uniqueId : String} {statement : SamlSubjectStatement}
    (h : buildStatement profile federation providerId uniqueId = some (statement, profile')) :
    ∃ nameIdentifier, profile' = { profile with nameIdentifier } := by
  unfold buildStatement at h
  split at h
  · cases h
    exact ⟨_, rfl⟩
  · obtain ⟨idpIdentifier, -, h⟩ := Option.bind_eq_some_iff.mp h
    split at h
    · cases h
      exact ⟨profile.nameIdentifier, rfl⟩
    · obtain ⟨spIdentifier, -, h⟩ := Option.map_eq_some_iff.mp h
      cases h
      exact ⟨profile.nameIdentifier, rfl⟩

/-- An assertion that is built without error is about the subject of `buildStatement`. -/
theorem buildAssertion_eq_ok {cx : AssertionContext} {login after : Login}
    {request : LibAuthnRequest}
    {assertionId uniqueId artifact : String} {server : Server} {identity : Identity}
    {policy : String} {response : SamlpResponse}
    (h : buildAssertion cx login assertionId uniqueId artifact = some (.ok, after))
    (hidentity : login.profile.identity = some identity)
    (hserver : login.profile.server = some server)
    (hrequest : login.profile.request = some (.libAuthnRequest request))
    (hversion : ¬(request.majorVersion = 1 ∧ request.minorVersion < 2))
    (hpolicy : login.nameIdPolicy = some policy)
    (hresponse : login.profile.response = some (.samlpResponse response))
    (hclear : ∀ p ∈ server.getProvider login.profile.remoteProviderId,
      p.encryptionMode ≠ .nameId ∧ p.encryptionMode ≠ .both) :
    after.profile.identity = some identity ∧
      ∃ providerId statement profile assertion authenticationStatement,
        server.provider.providerId = some providerId ∧
        buildStatement login.profile (usedFederation login.profile identity policy) providerId
          uniqueId = some (statement, profile) ∧
        after.profile.response = some (.samlpResponse
          { response with assertion := response.assertion ++ [assertion] }) ∧
        assertion.authenticationStatement = some authenticationStatement ∧
        authenticationStatement.subject = statement.subject := by
  unfold buildAssertion at h
  rw [hidentity] at h
  simp only [hserver, hrequest, hpolicy, Option.bind_eq_bind, Option.bind_some,
    Option.bind_eq_some_iff, asSamlpRequestAbstract] at h
  obtain ⟨providerId, hid, ⟨statement, profile⟩, hstatement, ⟨index, server'⟩, hindex, h⟩ := h
  obtain ⟨nameIdentifier, rfl⟩ := buildStatement_profile hstatement
  dsimp only at h
  split at h
  · rw [if_neg fun hearly => hversion hearly.2, hresponse] at h
    obtain rfl := congrArg Prod.snd (Option.some.inj h)
    refine ⟨hidentity, providerId, statement, _, _, _, hid, hstatement, rfl, rfl, ?_⟩
    cases statement.subject with
    | none => rfl
    | some subject => exact congrArg some (encryptSubject_eq hclear subject)
  · rename_i hne
    exact absurd (congrArg Prod.fst (Option.some.inj h)) hne

/-- What is accepted without error: the federation of a federated identifier, or nothing. -/
theorem acceptSso_eq_ok {cx : Context} {login after : Login} {response : SamlpResponse}
    {assertion : SamlAssertion} {rest : List SamlAssertion} {statement : SamlSubjectStatement}
    {subject : SamlSubject} {nameIdentifier : SamlNameIdentifier} {remoteProviderId : String}
    (hresponse : login.profile.response = some (.samlpResponse response))
    (hassertion : response.assertion = assertion :: rest)
    (hstatement : assertion.authenticationStatement = some statement)
    (hsubject : statement.subject = some subject)
    (hname : subject.nameIdentifier = some nameIdentifier)
    (hremote : login.profile.remoteProviderId = some remoteProviderId)
    (h : acceptSso cx login = some (.ok, after)) :
    after.profile.identity = some (
      if nameIdentifier.format = some libNameIdentifierFormatFederated then
        (login.profile.identity.getD {}).addFederation (federationOf remoteProviderId nameIdentifier
          (if subject.isLibSubject then subject.idpProvidedNameIdentifier else none))
      else login.profile.identity.getD {}) := by
  unfold acceptSso at h
  dsimp only at h
  rw [hresponse] at h
  dsimp only at h
  rw [hassertion] at h
  simp only [hstatement, hremote, Option.bind_some, Option.map_some, acceptSubject, hsubject,
    hname] at h
  by_cases hformat : nameIdentifier.format = some libNameIdentifierFormatFederated
  · rw [if_pos hformat] at h ⊢
    obtain rfl := congrArg Prod.snd (Option.some.inj h)
    rfl
  · rw [if_neg hformat] at h ⊢
    obtain rfl := congrArg Prod.snd (Option.some.inj h)
    rfl

theorem Site.federationIn_addFederation (s : Site) (i : Identity) (name : SamlNameIdentifier)
    (idpProvided : Option SamlNameIdentifier) :
    s.federationIn (some (i.addFederation (federationOf s.providerId name idpProvided))) =
      some (federationOf s.providerId name idpProvided) := by
  cases idpProvided <;> exact Identity.getFederation_addFederation _ _

/-- The service provider makes a federation of the statement about a federation that mirrors it. -/
theorem linked_federationOf {f : Federation} {idpName : SamlNameIdentifier}
    {spName : Option SamlNameIdentifier} (hidp : IsFederated idpName)
    (hsp : ∀ n ∈ spName, IsFederated n)
    (hlocal : f.localNameIdentifier = some (.samlNameIdentifier idpName))
    (hremote : f.remoteNameIdentifier = spName.map .samlNameIdentifier) (idpId : String) :
    Linked (some f)
      (some (federationOf idpId (spName.getD idpName) (spName.map fun _ => idpName))) := by
  cases spName with
  | none => exact .federated hidp hsp hlocal hremote rfl rfl
  | some n => exact .federated hidp hsp hlocal hremote rfl rfl

theorem buildStatement_federated {profile profile' : Profile} {f : Federation}
    {providerId uniqueId : String} {statement : SamlSubjectStatement}
    {idpName : SamlNameIdentifier} {spName : Option SamlNameIdentifier}
    (hlocal : f.localNameIdentifier = some (.samlNameIdentifier idpName))
    (hremote : f.remoteNameIdentifier = spName.map .samlNameIdentifier)
    (h : buildStatement profile (some f) providerId uniqueId = some (statement, profile')) :
    statement.subject = some {
      nameIdentifier := some (spName.getD idpName)
      isLibSubject := true
      idpProvidedNameIdentifier := spName.map fun _ => idpName } := by
  unfold buildStatement at h
  simp only [hlocal, hremote, Option.bind_some, asSamlNameIdentifier] at h
  cases spName with
  | none =>
    cases h
    rfl
  | some n =>
    cases h
    rfl

variable {p : Partners}

/-- The federation of the service provider after it accepted an assertion about the identifiers of
a linked federation. -/
theorem SignOn.linked_of_statement (s : SignOn p) {f : Federation} {idpName : SamlNameIdentifier}
    {spName : Option SamlNameIdentifier} {assertion : SamlAssertion} {rest : List SamlAssertion}
    {statement : SamlSubjectStatement} (hidp : IsFederated idpName)
    (hsp : ∀ n ∈ spName, IsFederated n)
    (hlocal : f.localNameIdentifier = some (.samlNameIdentifier idpName))
    (hremote : f.remoteNameIdentifier = spName.map .samlNameIdentifier)
    (hassertion : s.delivered.assertion = assertion :: rest)
    (hstatement : assertion.authenticationStatement = some statement)
    (hsubject : statement.subject = some {
      nameIdentifier := some (spName.getD idpName)
      isLibSubject := true
      idpProvidedNameIdentifier := spName.map fun _ => idpName }) :
    Linked (some f) (p.idp.federationIn s.accepted.profile.identity) := by
  have hfederated : (spName.getD idpName).format = some libNameIdentifierFormatFederated := by
    cases spName with
    | none => exact hidp.format
    | some n => exact (hsp n rfl).format
  rw [acceptSso_eq_ok s.accepting_eq hassertion hstatement hsubject rfl s.acceptingRemote s.accepts,
    if_pos hfederated, if_pos rfl, p.idp.federationIn_addFederation]
  exact linked_federationOf hidp hsp hlocal hremote p.idp.providerId

/-- A sign-on that is completed leaves the federations linked. -/
theorem SignOn.linked (s : SignOn p)
    (h : p.Linked ⟨s.login.profile.identity, s.accepting.profile.identity⟩) :
    p.Linked ⟨s.asserted.profile.identity, s.accepted.profile.identity⟩ := by
  obtain ⟨hserver, hrequest, hremote, policy, identity, hpolicy, hidentity, hfederates⟩ :=
    processFederation_eq_ok s.remote_eq s.federates
  obtain ⟨known, hknown, -, hclear⟩ := p.idp_knows
  obtain ⟨hafter, providerId, statement, profile, assertion, authenticationStatement, hid,
      hstatement, hbuilt, hauthentication, hsubject⟩ :=
    buildAssertion_eq_ok s.asserts hidentity (hserver.trans s.server_eq)
      (hrequest.trans s.request_eq) s.version hpolicy rfl (by
        rw [hremote, s.idpServer.getProvider, hknown]
        rintro q ⟨⟩
        exact hclear)
  obtain ⟨built, hresponse, hdelivered⟩ := s.delivers
  cases hbuilt.symm.trans hresponse
  rw [s.response_eq, List.nil_append] at hdelivered
  have hbefore : (s.login.profile.identity.getD {}).getFederation (some p.sp.providerId) =
      p.sp.federationIn s.login.profile.identity := by
    cases s.login.profile.identity <;> rfl
  rw [hbefore] at hfederates
  unfold Partners.Linked at h ⊢
  dsimp only at h ⊢
  have hidp : p.sp.federationIn s.asserted.profile.identity =
      identity.getFederation (some p.sp.providerId) := by
    rw [hafter]
    rfl
  rw [hidp]
  rw [usedFederation, hremote] at hstatement
  generalize p.sp.federationIn s.login.profile.identity = before at h hfederates
  generalize identity.getFederation (some p.sp.providerId) = after at hfederates hstatement ⊢
  cases hfederates with
  | onetime =>
    rw [if_pos rfl] at hstatement
    cases hstatement
    have haccepted := acceptSso_eq_ok s.accepting_eq hdelivered hauthentication hsubject rfl
      s.acceptingRemote s.accepts
    have hne : some "urn:liberty:iff:nameid:one-time" ≠
      some libNameIdentifierFormatFederated := by decide
    have hformat : (none.getD (onetimeIdentifier providerId s.onetimeId)).format ≠
      some libNameIdentifierFormatFederated := hne
    rw [if_neg hformat] at haccepted
    have hkept : p.idp.federationIn s.accepted.profile.identity =
        p.idp.federationIn s.accepting.profile.identity := by
      rw [haccepted]
      cases s.accepting.profile.identity <;> rfl
    rw [hkept]
    exact h
  | existing hf hne =>
    rw [if_neg hne] at hstatement
    cases hf
    generalize p.idp.federationIn s.accepting.profile.identity = g at h
    cases h with
    | federated idpFederated spFederated idpLocal idpRemote spLocal spRemote =>
      exact s.linked_of_statement idpFederated spFederated idpLocal idpRemote hdelivered
        hauthentication (hsubject.trans (buildStatement_federated idpLocal idpRemote hstatement))
  | new hnone hne =>
    rw [if_neg hne] at hstatement
    have hunnamed : (none : Option LassoNode) =
      (none : Option SamlNameIdentifier).map .samlNameIdentifier := rfl
    exact s.linked_of_statement ⟨rfl, rfl⟩ (fun _ h => by cases h) rfl hunnamed hdelivered
      hauthentication (hsubject.trans (buildStatement_federated rfl hunnamed hstatement))

/-! ## Runs -/

/-- The new identifier of a registration is one that a sign-on makes a federation of. -/
theorem newNameIdentifier_eq (remoteProviderId uniqueId : String) :
    newNameIdentifier remoteProviderId uniqueId =
      .samlNameIdentifier (firstName (some remoteProviderId) uniqueId) := rfl

theorem isFederated_firstName (providerId : Option String) (uniqueId : String) :
    IsFederated (firstName providerId uniqueId) := ⟨rfl, rfl⟩

/-- A registration by the service provider leaves the federations linked. -/
theorem linked_of_spRegisters (r : Registration p.sp p.idp)
    (h : p.Linked ⟨r.receiving.identity, r.sending.identity⟩) :
    p.Linked ⟨r.answered.identity, r.finished.identity⟩ := by
  obtain ⟨g, f, hg, hf, hg', hf'⟩ := r.federations p.sp_knows p.idp_knows
    (.inl ⟨p.sp_role, p.idp_role⟩)
  unfold Partners.Linked at h ⊢
  dsimp only at h ⊢
  rw [hf, hg] at h
  rw [hf', hg', newNameIdentifier_eq]
  cases h with
  | federated idpFederated _ idpLocal _ _ spRemote =>
    have hname (uniqueId : String) : ∀ n ∈ some (firstName (some p.idp.providerId) uniqueId),
        IsFederated n := by
      rintro _ ⟨⟩
      exact isFederated_firstName _ _
    exact .federated idpFederated (hname _) idpLocal rfl rfl spRemote

/-- A registration by the identity provider leaves the federations linked. -/
theorem linked_of_idpRegisters (r : Registration p.idp p.sp)
    (h : p.Linked ⟨r.sending.identity, r.receiving.identity⟩) :
    p.Linked ⟨r.finished.identity, r.answered.identity⟩ := by
  obtain ⟨f, g, hf, hg, hf', hg'⟩ := r.federations p.idp_knows p.sp_knows
    (.inr ⟨p.idp_role, p.sp_role⟩)
  unfold Partners.Linked at h ⊢
  dsimp only at h ⊢
  rw [hf, hg] at h
  rw [hf', hg', newNameIdentifier_eq]
  cases h with
  | federated _ spFederated _ idpRemote spLocal _ =>
    exact .federated (isFederated_firstName _ _) spFederated rfl idpRemote spLocal rfl

/-- Every step leaves the federations linked. -/
theorem linked_of_step {before after : Identities} (hstep : Step p before after)
    (h : p.Linked before) : p.Linked after := by
  cases hstep with
  | signOn s => exact s.linked h
  | spRegisters r => exact linked_of_spRegisters r h
  | idpRegisters r => exact linked_of_idpRegisters r h

/-- Every run from identities without federation leaves the federations linked. -/
theorem linked_of_reaches {start ids : Identities}
    (hidp : p.sp.federationIn start.idp = none) (hsp : p.idp.federationIn start.sp = none)
    (hreaches : Reaches p start ids) : p.Linked ids := by
  induction hreaches with
  | refl =>
    unfold Partners.Linked
    rw [hidp, hsp]
    exact .unfederated
  | tail _ hstep ih => exact linked_of_step hstep ih

/-! ## The old identifier of a registration -/

theorem verifyNameIdentifier_of_local {f : Federation} {n : SamlNameIdentifier}
    (h : f.localNameIdentifier = some (.samlNameIdentifier n)) (hn : IsFederated n) :
    f.verifyNameIdentifier (.samlNameIdentifier n) = true := by
  obtain ⟨content, hcontent⟩ := Option.isSome_iff_exists.mp hn.content
  simp [Federation.verifyNameIdentifier, LassoNode.nameContent, h, hcontent]

theorem verifyNameIdentifier_of_remote {f : Federation} {n : SamlNameIdentifier}
    (h : f.remoteNameIdentifier = some (.samlNameIdentifier n)) (hn : IsFederated n) :
    f.verifyNameIdentifier (.samlNameIdentifier n) = true := by
  obtain ⟨content, hcontent⟩ := Option.isSome_iff_exists.mp hn.content
  simp [Federation.verifyNameIdentifier, LassoNode.nameContent, h, hcontent]

/-- The identity provider knows the identifier that the service provider replaces. -/
theorem Linked.verify_of_sp {f g : Federation} (h : Linked (some f) (some g)) {old : LassoNode}
    (hold : g.localNameIdentifier.or g.remoteNameIdentifier = some old) :
    f.verifyNameIdentifier old = true := by
  cases h with
  | @federated _ _ idpName spName idpFederated spFederated idpLocal idpRemote spLocal spRemote =>
    rw [spLocal, spRemote] at hold
    cases spName with
    | none =>
      cases hold
      exact verifyNameIdentifier_of_local idpLocal idpFederated
    | some n =>
      cases hold
      exact verifyNameIdentifier_of_remote idpRemote (spFederated n rfl)

/-- The service provider knows the identifier that the identity provider replaces. -/
theorem Linked.verify_of_idp {f g : Federation} (h : Linked (some f) (some g)) {old : LassoNode}
    (hold : f.localNameIdentifier = some old) : g.verifyNameIdentifier old = true := by
  cases h with
  | federated idpFederated _ idpLocal _ _ spRemote =>
    cases idpLocal.symm.trans hold
    exact verifyNameIdentifier_of_remote spRemote idpFederated

/-- The receiver knows the old identifier of every registration that the sender starts. -/
def AcceptsOld (sender receiver : Site) (sending receiving : Option Identity) : Prop :=
  ∀ (registration started : NameRegistration) (httpMethod : HttpMethod)
    (requestId uniqueId : String),
    sender.server.SameButRole registration.server → registration.identity = sending →
    initRequest registration receiver.providerId httpMethod requestId uniqueId =
        some (.ok, started) →
      ∃ request old federation, started.request = some request ∧
        request.oldProvidedNameIdentifier = some old ∧
        sender.federationIn receiving = some federation ∧
        federation.verifyNameIdentifier old = true

theorem Linked.isSome_iff {f g : Option Federation} (h : Linked f g) : f.isSome ↔ g.isSome := by
  cases h <;> simp

theorem acceptsOld_of_sp {ids : Identities} (h : p.Linked ids) :
    AcceptsOld p.sp p.idp ids.sp ids.idp := by
  intro registration started httpMethod requestId uniqueId hserver hidentity hinit
  obtain ⟨identity, g, remote, request, hstarted, hrole, hg⟩ := p.sp_knows.started hserver hinit
  obtain ⟨-, -, hreplaces⟩ := hstarted.fromSp (hrole.trans p.idp_role)
  rw [hidentity] at hg
  unfold Partners.Linked at h
  obtain ⟨f, hf⟩ := Option.isSome_iff_exists.mp (h.isSome_iff.mpr (by rw [hg]; rfl))
  obtain ⟨old, hold⟩ := Option.isSome_iff_exists.mp hstarted.old_isSome
  rw [hf, hg] at h
  exact ⟨request, old, f, hstarted.request_eq, hold, hf, h.verify_of_sp (hreplaces.symm.trans hold)⟩

theorem acceptsOld_of_idp {ids : Identities} (h : p.Linked ids) :
    AcceptsOld p.idp p.sp ids.idp ids.sp := by
  intro registration started httpMethod requestId uniqueId hserver hidentity hinit
  obtain ⟨identity, f, remote, request, hstarted, hrole, hf⟩ := p.idp_knows.started hserver hinit
  obtain ⟨-, -, hreplaces⟩ := hstarted.fromIdp (by rw [hrole, p.sp_role]; decide)
  rw [hidentity] at hf
  unfold Partners.Linked at h
  obtain ⟨g, hg⟩ := Option.isSome_iff_exists.mp (h.isSome_iff.mp (by rw [hf]; rfl))
  obtain ⟨old, hold⟩ := Option.isSome_iff_exists.mp hstarted.old_isSome
  rw [hf, hg] at h
  exact ⟨request, old, g, hstarted.request_eq, hold, hg,
    h.verify_of_idp (hreplaces.symm.trans hold)⟩

/-- After any run of sign-ons and registrations the federations mirror each other, and the old
identifier of a later registration is known to its receiver. -/
theorem mirrored_of_reaches {start ids : Identities}
    (hidp : p.sp.federationIn start.idp = none) (hsp : p.idp.federationIn start.sp = none)
    (hreaches : Reaches p start ids) :
    Mirrored (p.sp.federationIn ids.idp) (p.idp.federationIn ids.sp) ∧
      AcceptsOld p.sp p.idp ids.sp ids.idp ∧ AcceptsOld p.idp p.sp ids.idp ids.sp := by
  have h := linked_of_reaches hidp hsp hreaches
  exact ⟨h.mirrored, acceptsOld_of_sp h, acceptsOld_of_idp h⟩

end

/-! ## A sign-on and a registration -/

/-- The metadata of both sides: they register name identifiers by SOAP. -/
def registeringDescriptors : AList (fun _ : String => List String) :=
  ((∅ : AList (fun _ : String => List String)).insert
    "sp RegisterNameIdentifierProtocolProfile"
    ["http://projectliberty.org/profiles/rni-sp-soap"]).insert
    "idp RegisterNameIdentifierProtocolProfile"
    ["http://projectliberty.org/profiles/rni-sp-soap"]

/-- The identity provider `idp.example`. -/
def exampleIdp : Provider where
  providerId := some "https://idp.example"
  role := .idp
  conformance := .liberty12
  descriptors := registeringDescriptors

/-- The service provider `sp.example`. -/
def exampleSp : Provider where
  providerId := some "https://sp.example"
  role := .sp
  conformance := .liberty12
  descriptors := registeringDescriptors

def idpSite : Site where
  server := (Server.addProvider { provider := exampleIdp } exampleSp).2
  providerId := "https://idp.example"
  role := .idp
  hasProviderId := rfl

def spSite : Site where
  server := (Server.addProvider { provider := exampleSp } exampleIdp).2
  providerId := "https://sp.example"
  role := .sp
  hasProviderId := rfl

def examplePartners : Partners where
  idp := idpSite
  sp := spSite
  idp_role := rfl
  sp_role := rfl
  idp_knows := ⟨exampleSp, rfl, rfl, by decide⟩
  sp_knows := ⟨exampleIdp, rfl, rfl, by decide⟩

/-- No message is parsed, and signatures are not verified. -/
def exampleCx : Context :=
  { Context.refusing with verifySignatureFlag := false }

/-- The request of `sp.example` to federate. -/
def federatingRequest : LibAuthnRequest where
  requestId := some "_r1"
  majorVersion := 1
  minorVersion := 2
  providerId := some "https://sp.example"
  nameIdPolicy := some libNameidPolicyTypeFederated

/-- The login at `idp.example`. -/
def aliceLogin : Login where
  profile := {
    server := some idpSite.server
    request := some (.libAuthnRequest federatingRequest)
    remoteProviderId := some "https://sp.example" }

def aliceFederated : Login := (processFederation "alice" aliceLogin federatingRequest true).2

def aliceAsserted : Login :=
  ((buildAssertion { exampleCx with encryptNameIdentifier := fun _ _ => none }
    { aliceFederated with profile := { aliceFederated.profile with
      response := some (.samlpResponse {}) } } "_a1" "_n1" "").getD (.ok, {})).2

/-- The response that arrives at `sp.example`. -/
def aliceResponse : SamlpResponse :=
  match aliceAsserted.profile.response with
  | some (.samlpResponse response) => response
  | _ => {}

def aliceAccepting : Login where
  profile := {
    server := some spSite.server
    response := some (.samlpResponse aliceResponse)
    remoteProviderId := some "https://idp.example" }

def aliceSignOn : SignOn examplePartners where
  cx := { exampleCx with encryptNameIdentifier := fun _ _ => none }
  spCx := exampleCx
  login := aliceLogin
  federated := aliceFederated
  asserted := aliceAsserted
  accepting := aliceAccepting
  accepted := ((acceptSso exampleCx aliceAccepting).getD (.ok, {})).2
  request := federatingRequest
  response := {}
  delivered := aliceResponse
  isConsentObtained := true
  uniqueId := "alice"
  assertionId := "_a1"
  onetimeId := "_n1"
  artifact := ""
  server := idpSite.server
  idpServer := .refl _
  server_eq := rfl
  request_eq := rfl
  version := by decide
  remote_eq := rfl
  federates := rfl
  response_eq := rfl
  asserts := rfl
  accepting_eq := rfl
  delivers := ⟨aliceResponse, rfl, rfl⟩
  acceptingRemote := rfl
  accepts := rfl

/-- The response that `idp.example` sends to the request `_r2`. -/
def registeredResponse : LibStatusResponse where
  providerId := some "https://idp.example"
  inResponseTo := some "_r2"
  status := some { statusCode := some { value := some samlStatusCodeSuccess } }

/-- Every message is parsed to the response of `idp.example`. -/
def registrationCx : RegistrationContext :=
  { exampleCx with
    parseMemory := fun _ => some (.element (some libHref) "RegisterNameIdentifierResponse" [] [])
    registerRequestInitFromXml := fun r _ => (.castFailed, r)
    registerRequestInitFromQueryFields := fun r _ => (false, r)
    registerResponse := { NodeClass.refusing with
      initFromXml := fun _ _ => (.ok, registeredResponse) } }

/-- `sp.example` starts a registration. -/
def aliceSending : NameRegistration where
  server := spSite.server
  identity := aliceSignOn.accepted.profile.identity

def aliceStarted : NameRegistration :=
  ((initRequest aliceSending "https://idp.example" .soap "_r2" "alice2").getD (.ok, aliceSending)).2

/-- `idp.example` has received the request. -/
def aliceReceiving : NameRegistration where
  server := idpSite.server
  request := aliceStarted.request
  identity := aliceAsserted.profile.identity

def aliceRegistration : Registration examplePartners.sp examplePartners.idp where
  cx := registrationCx
  sending := aliceSending
  started := aliceStarted
  receiving := aliceReceiving
  answered := (validateRequest aliceReceiving).2
  finished := ((processResponseMsg registrationCx aliceStarted "<m>".toList).getD
    (.ok, aliceStarted)).2
  httpMethod := .soap
  requestId := "_r2"
  uniqueId := "alice2"
  responseMsg := "<m>".toList
  senderServer := .refl _
  receiverServer := .refl _
  starts := rfl
  delivers := rfl
  validates := rfl
  answers := rfl
  finishes := rfl

/-- After a sign-on and a registration, `alice` is known to both sides by the same identifiers. -/
theorem alice_mirrored :
    Mirrored (spSite.federationIn aliceRegistration.answered.identity)
        (idpSite.federationIn aliceRegistration.finished.identity) ∧
      AcceptsOld spSite idpSite aliceRegistration.finished.identity
        aliceRegistration.answered.identity ∧
      AcceptsOld idpSite spSite aliceRegistration.answered.identity
        aliceRegistration.finished.identity := by
  have hsignOn : Step examplePartners ⟨none, none⟩
      ⟨aliceReceiving.identity, aliceSending.identity⟩ := .signOn aliceSignOn
  have hregisters : Step examplePartners ⟨aliceReceiving.identity, aliceSending.identity⟩
      ⟨aliceRegistration.answered.identity, aliceRegistration.finished.identity⟩ :=
    .spRegisters aliceRegistration
  have hreaches : Reaches examplePartners ⟨none, none⟩
      ⟨aliceRegistration.answered.identity, aliceRegistration.finished.identity⟩ :=
    (Relation.ReflTransGen.single hsignOn).tail hregisters
  exact mirrored_of_reaches rfl rfl hreaches

end Lasso.FederationMirror
