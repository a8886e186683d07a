import Lasso.IdFf.DefederationGate
import Lasso.IdFf.FederationMirror

/-!
# The life of an ID-FF 1.2 federation

A side that ends a federation drops it before its notification is sent, and nothing tells whether it
arrives. Between a termination and the next sign-on one side may therefore be left with a federation
that the other one has dropped.

## Main definitions

* `Step`, `Reaches` — sign-ons, registrations, and the two halves of a termination on their own.
* `Termination` — a notification that is delivered.

## Main results

* `agree_of_reaches` — whatever is lost, delayed or repeated, two federations mirror each other.
* `relinked_of_reaches` — a sign-on makes up for a lost notification.
* `ended_of_reaches` — when a delivered notification ends the federation on both sides.
-/

namespace Lasso.FederationLifecycle

open Defederation FederationMirror IdFf

/-! ## Runs -/

/-- What may happen to the two identities. A notification that is lost is not validated; one may be
validated late, more than once, or without ever having been sent. -/
inductive Step (p : Partners) : Identities → Identities → Prop
  | exchange {before after : Identities} (h : FederationMirror.Step p before after) :
      Step p before after
  | idpStarts {sp : Option Identity} {cx : DefederationContext} {d after : Defederation}
      {remoteProviderId : Option String} {httpMethod : HttpMethod} {requestId : String} {rc : Rc}
      (h : initNotification cx d remoteProviderId httpMethod requestId = some (rc, after)) :
      Step p ⟨d.identity, sp⟩ ⟨after.identity, sp⟩
  | spStarts {idp : Option Identity} {cx : DefederationContext} {d after : Defederation}
      {remoteProviderId : Option String} {httpMethod : HttpMethod} {requestId : String} {rc : Rc}
      (h : initNotification cx d remoteProviderId httpMethod requestId = some (rc, after)) :
      Step p ⟨idp, d.identity⟩ ⟨idp, after.identity⟩
  | idpValidates {sp : Option Identity} {d : Defederation}
      {result : FamilyRc DefederationError × Defederation}
      (h : validateNotification d = some result) :
      Step p ⟨d.identity, sp⟩ ⟨result.2.identity, sp⟩
  | spValidates {idp : Option Identity} {d : Defederation}
      {result : FamilyRc DefederationError × Defederation}
      (h : validateNotification d = some result) :
      Step p ⟨idp, d.identity⟩ ⟨idp, result.2.identity⟩

/-- Runs of these steps, in any order. -/
def Reaches (p : Partners) : Identities → Identities → Prop := Relation.ReflTransGen (Step p)

/-! ## Federations that agree -/

/-- The federation that an identity provider has, as sign-ons and registrations leave it. -/
inductive IdpForm (f : Federation) : Prop
  | intro (idpName : SamlNameIdentifier) (spName : Option SamlNameIdentifier)
      (idpFederated : IsFederated idpName) (spFederated : ∀ n ∈ spName, IsFederated n)
      (idpLocal : f.localNameIdentifier = some (.samlNameIdentifier idpName))
      (idpRemote : f.remoteNameIdentifier = spName.map .samlNameIdentifier)

/-- The federations are linked, or one side has dropped its own. -/
inductive Agree : Option Federation → Option Federation → Prop
  | linked {f g : Option Federation} (h : Linked f g) : Agree f g
  | idpOnly {f : Federation} (h : IdpForm f) : Agree (some f) none
  | spOnly {g : Federation} : Agree none (some g)

/-- The identities have federations that agree. -/
def Agreeing (p : Partners) (ids : Identities) : Prop :=
  Agree (p.sp.federationIn ids.idp) (p.idp.federationIn ids.sp)

theorem idpForm_of_linked {f : Federation} {g : Option Federation} (h : Linked (some f) g) :
    IdpForm f := by
  cases h with
  | @federated _ _ idpName spName idpFederated spFederated idpLocal idpRemote _ _ =>
    exact ⟨idpName, spName, idpFederated, spFederated, idpLocal, idpRemote⟩

theorem Agree.idpForm {f : Federation} {g : Option Federation} (h : Agree (some f) g) :
    IdpForm f := by
  cases h with
  | linked h => exact idpForm_of_linked h
  | idpOnly h => exact h

theorem Agree.linked_of_both {f g : Federation} (h : Agree (some f) (some g)) :
    Linked (some f) (some g) := by
  cases h with
  | linked h => exact h

/-- The identity provider may drop its federation. -/
theorem Agree.drop_idp {f g : Option Federation} (h : Agree f g) : Agree none g := by
  cases g with
  | none => exact .linked .unfederated
  | some g => exact .spOnly

/-- The service provider may drop its federation. -/
theorem Agree.drop_sp {f g : Option Federation} (h : Agree f g) : Agree f none := by
  cases f with
  | none => exact .linked .unfederated
  | some f => exact .idpOnly h.idpForm

/-! ## Terminations -/

/-- A federation stays, or it is dropped. -/
def KeepsOrDrops (before after : Option Identity) : Prop :=
  ∀ s : Site, s.federationIn after = s.federationIn before ∨ s.federationIn after = none

theorem keepsOrDrops_removeFederation (i : Identity) (providerId : String) :
    KeepsOrDrops (some i) (some (i.removeFederation (some providerId)).2) := by
  intro s
  by_cases hid : s.providerId = providerId
  · refine .inr ?_
    rw [Site.federationIn, hid]
    exact Identity.getFederation_removeFederation i providerId
  · exact .inl (Identity.getFederation_removeFederation_ne fun h => hid (Option.some.inj h))

theorem keepsOrDrops_initNotification {cx : DefederationContext} {d after : Defederation}
    {remoteProviderId : Option String} {httpMethod : HttpMethod} {requestId : String} {rc : Rc}
    (h : initNotification cx d remoteProviderId httpMethod requestId = some (rc, after)) :
    KeepsOrDrops d.identity after.identity := by
  rcases initNotification_eq h with ⟨-, hkept⟩ | ⟨-, id, identity, name, n, -, hstarted⟩
  · rw [hkept]
    exact fun s => .inl rfl
  · rw [hstarted.identity_eq, hstarted.removed]
    exact keepsOrDrops_removeFederation identity id

theorem terminated_eq_some {identity : Option Identity} {remoteProviderId : Option String}
    {notification : LibFederationTerminationNotification} {after : Identity}
    (h : terminated identity remoteProviderId notification = some after) :
    ∃ name i id federation, notification.nameIdentifier = some name ∧ identity = some i ∧
      remoteProviderId = some id ∧ i.getFederation (some id) = some federation ∧
      federation.verifyNameIdentifier (.samlNameIdentifier name) = true ∧
      after = (i.removeFederation (some id)).2 := by
  unfold terminated at h
  simp only [Option.bind_eq_bind, Option.bind_eq_some_iff, Option.guard_eq_some'] at h
  obtain ⟨name, hname, i, hi, id, hid, federation, hfederation, -, hverify, hafter⟩ := h
  cases hafter
  exact ⟨name, i, id, federation, hname, hi, hid, hfederation, hverify, rfl⟩

theorem keepsOrDrops_validateNotification {d : Defederation}
    {result : FamilyRc DefederationError × Defederation}
    (h : validateNotification d = some result) : KeepsOrDrops d.identity result.2.identity := by
  rcases validateNotification_eq h with
    ⟨-, hkept, -⟩ | ⟨-, -, notification, identity, -, hterminated, hafter, -⟩
  · rw [hkept]
    exact fun s => .inl rfl
  · obtain ⟨-, i, id, -, -, hi, -, -, -, rfl⟩ := terminated_eq_some hterminated
    rw [hafter, hi]
    exact keepsOrDrops_removeFederation i id

/-! ## Sign-ons and registrations -/

section

variable {p : Partners}

/-- A federation that was just made has the form of an identity provider's. -/
theorem idpForm_firstName (remoteProviderId : String) (providerId : Option String)
    (uniqueId : String) :
    IdpForm {
      remoteProviderId
      localNameIdentifier := some (.samlNameIdentifier (firstName providerId uniqueId)) } :=
  ⟨firstName providerId uniqueId, none, ⟨rfl, rfl⟩, by rintro _ ⟨⟩, rfl, rfl⟩

/-- What a sign-on does to the two federations: nothing for a one-time policy, and otherwise the
service provider links its own to that of the identity provider, whatever it had before. -/
inductive SignOnOutcome (p : Partners) (s : SignOn p) : Prop
  | onetime (hpolicy : s.federated.nameIdPolicy = some libNameidPolicyTypeOneTime)
      (hidp : p.sp.federationIn s.asserted.profile.identity =
        p.sp.federationIn s.login.profile.identity)
      (hsp : p.idp.federationIn s.accepted.profile.identity =
        p.idp.federationIn s.accepting.profile.identity)
  | linked (f : Federation)
      (hidp : p.sp.federationIn s.asserted.profile.identity = some f)
      (hbefore : p.sp.federationIn s.login.profile.identity = some f ∨
        p.sp.federationIn s.login.profile.identity = none ∧ IdpForm f)
      (hsp : IdpForm f → Linked (some f) (p.idp.federationIn s.accepted.profile.identity))

/-- The service provider records the names of a federation that an assertion is about. -/
theorem accepted_of_statement (s : SignOn p) {f : Federation} {assertion : SamlAssertion}
    {statement authentication : SamlSubjectStatement} {profile profile' : Profile}
    {providerId : String}
    (hstatement : buildStatement profile (some f) providerId s.onetimeId =
      some (statement, profile'))
    (hdelivered : s.delivered.assertion = [assertion])
    (hauthentication : assertion.authenticationStatement = some authentication)
    (hsubject : authentication.subject = statement.subject) (hform : IdpForm f) :
    Linked (some f) (p.idp.federationIn s.accepted.profile.identity) := by
  obtain ⟨idpName, spName, idpFederated, spFederated, idpLocal, idpRemote⟩ := hform
  exact s.linked_of_statement idpFederated spFederated idpLocal idpRemote hdelivered
    hauthentication (hsubject.trans (buildStatement_federated idpLocal idpRemote hstatement))

theorem signOn_outcome (s : SignOn p) : SignOnOutcome p s := by
  obtain ⟨hserver, hrequest, hremote, policy, identity, hpolicy, hidentity, hfederates⟩ :=
    processFederation_eq_ok s.remote_eq s.federates
  obtain ⟨known, hknown, -, hclear⟩ := p.idp_knows
  obtain ⟨hafter, providerId, statement, profile, assertion, authentication, -, hstatement,
      hbuilt, hauthentication, hsubject⟩ :=
    buildAssertion_eq_ok s.asserts hidentity (hserver.trans s.server_eq)
      (hrequest.trans s.request_eq) s.version hpolicy rfl (by
        rw [hremote, s.idpServer.getProvider, hknown]
        rintro q ⟨⟩
        exact hclear)
  obtain ⟨built, hresponse, hdelivered⟩ := s.delivers
  cases hbuilt.symm.trans hresponse
  rw [s.response_eq, List.nil_append] at hdelivered
  have hbefore : (s.login.profile.identity.getD {}).getFederation (some p.sp.providerId) =
      p.sp.federationIn s.login.profile.identity := by
    cases s.login.profile.identity <;> rfl
  have hasserted : p.sp.federationIn s.asserted.profile.identity =
      identity.getFederation (some p.sp.providerId) := by
    rw [hafter]
    rfl
  rw [hbefore] at hfederates
  rw [usedFederation, hremote] at hstatement
  generalize hb : p.sp.federationIn s.login.profile.identity = before at hfederates
  generalize ha : identity.getFederation (some p.sp.providerId) = after at hfederates hstatement
  cases hfederates with
  | onetime =>
    rw [if_pos rfl] at hstatement
    cases hstatement
    have haccepted := acceptSso_eq_ok s.accepting_eq hdelivered hauthentication hsubject rfl
      s.acceptingRemote s.accepts
    have hformat : (none.getD (onetimeIdentifier providerId s.onetimeId)).format ≠
        some libNameIdentifierFormatFederated :=
      (by decide : some "urn:liberty:iff:nameid:one-time" ≠ some libNameIdentifierFormatFederated)
    rw [if_neg hformat] at haccepted
    refine .onetime hpolicy (hasserted.trans (ha.trans hb.symm)) ?_
    rw [haccepted]
    cases s.accepting.profile.identity <;> rfl
  | existing hf hne =>
    rw [if_neg hne] at hstatement
    exact .linked _ (hasserted.trans ha) (.inl (hb.trans hf)) fun hform =>
      accepted_of_statement s hstatement hdelivered hauthentication hsubject hform
  | new hnone hne =>
    rw [if_neg hne] at hstatement
    exact .linked _ (hasserted.trans ha) (.inr ⟨hb.trans hnone, idpForm_firstName _ _ _⟩)
      fun hform => accepted_of_statement s hstatement hdelivered hauthentication hsubject hform

/-- The federation that a sign-on is about has the form of an identity provider's. -/
theorem linked_of_signOn {s : SignOn p} {f : Federation}
    (hbefore : p.sp.federationIn s.login.profile.identity = some f ∨
      p.sp.federationIn s.login.profile.identity = none ∧ IdpForm f)
    (hsp : IdpForm f → Linked (some f) (p.idp.federationIn s.accepted.profile.identity))
    (h : Agreeing p ⟨s.login.profile.identity, s.accepting.profile.identity⟩) :
    Linked (some f) (p.idp.federationIn s.accepted.profile.identity) := by
  rcases hbefore with hbefore | ⟨-, hform⟩
  · unfold Agreeing at h
    rw [hbefore] at h
    exact hsp h.idpForm
  · exact hsp hform

/-- A completed sign-on or registration leaves the federations agreeing. -/
theorem agreeing_of_exchange {before after : Identities}
    (hstep : FederationMirror.Step p before after) (h : Agreeing p before) :
    Agreeing p after := by
  cases hstep with
  | signOn s =>
    cases signOn_outcome s with
    | onetime _ hidp hsp =>
      unfold Agreeing at h ⊢
      rw [hidp, hsp]
      exact h
    | linked f hidp hbefore hsp =>
      have hlinked := linked_of_signOn hbefore hsp h
      unfold Agreeing
      rw [hidp]
      exact .linked hlinked
  | spRegisters r =>
    obtain ⟨g, f, hg, hf, -, -⟩ := r.federations p.sp_knows p.idp_knows
      (.inl ⟨p.sp_role, p.idp_role⟩)
    refine .linked (linked_of_spRegisters r ?_)
    unfold Agreeing at h
    unfold Partners.Linked
    rw [hf, hg] at h ⊢
    exact h.linked_of_both
  | idpRegisters r =>
    obtain ⟨f, g, hf, hg, -, -⟩ := r.federations p.idp_knows p.sp_knows
      (.inr ⟨p.idp_role, p.sp_role⟩)
    refine .linked (linked_of_idpRegisters r ?_)
    unfold Agreeing at h
    unfold Partners.Linked
    rw [hf, hg] at h ⊢
    exact h.linked_of_both

/-! ## Whole runs -/

theorem agreeing_of_idp {before after sp : Option Identity} (hdrop : KeepsOrDrops before after)
    (h : Agreeing p ⟨before, sp⟩) : Agreeing p ⟨after, sp⟩ := by
  unfold Agreeing at h ⊢
  rcases hdrop p.sp with hkept | hdropped
  · exact hkept.symm ▸ h
  · exact hdropped.symm ▸ h.drop_idp

theorem agreeing_of_sp {idp before after : Option Identity} (hdrop : KeepsOrDrops before after)
    (h : Agreeing p ⟨idp, before⟩) : Agreeing p ⟨idp, after⟩ := by
  unfold Agreeing at h ⊢
  rcases hdrop p.idp with hkept | hdropped
  · exact hkept.symm ▸ h
  · exact hdropped.symm ▸ h.drop_sp

/-- Every step leaves the federations agreeing. -/
theorem agreeing_of_step {before after : Identities} (hstep : Step p before after)
    (h : Agreeing p before) : Agreeing p after := by
  cases hstep with
  | exchange hexchange => exact agreeing_of_exchange hexchange h
  | idpStarts hinit => exact agreeing_of_idp (keepsOrDrops_initNotification hinit) h
  | spStarts hinit => exact agreeing_of_sp (keepsOrDrops_initNotification hinit) h
  | idpValidates hvalidate => exact agreeing_of_idp (keepsOrDrops_validateNotification hvalidate) h
  | spValidates hvalidate => exact agreeing_of_sp (keepsOrDrops_validateNotification hvalidate) h

/-- The identities start without federation with the other side. -/
def Unfederated (p : Partners) (start : Identities) : Prop :=
  p.sp.federationIn start.idp = none ∧ p.idp.federationIn start.sp = none

theorem agreeing_of_reaches {start ids : Identities} (hstart : Unfederated p start)
    (hreaches : Reaches p start ids) : Agreeing p ids := by
  induction hreaches with
  | refl =>
    unfold Agreeing
    rw [hstart.1, hstart.2]
    exact .linked .unfederated
  | tail _ hstep ih => exact agreeing_of_step hstep ih

end

/-! ## A notification that is delivered -/

/-- A termination that `sender` has started, and whose notification `receiver` validates. -/
structure Termination (sender receiver : Site) where
  cx : DefederationContext
  receiverCx : DefederationContext
  sending : Defederation
  started : Defederation
  receiving : Defederation
  result : FamilyRc DefederationError × Defederation
  server : Server
  httpMethod : HttpMethod
  requestId : String
  requestMsg : Bytes
  server_eq : sending.server = some server
  senderServer : sender.server.SameButRole server
  starts : initNotification cx sending (some receiver.providerId) httpMethod requestId =
    some (.ok, started)
  delivers : started.notification = some (readNotification receiverCx requestMsg).node
  readable : (readNotification receiverCx requestMsg).format ≠ .unknown ∧
    (readNotification receiverCx requestMsg).format ≠ .error
  validates : validateNotification
    (processNotificationMsg receiverCx receiving requestMsg).2 = some result

namespace Termination

variable {sender receiver : Site}

/-- The receiver when it has read the message. -/
def received (t : Termination sender receiver) : Defederation :=
  (processNotificationMsg t.receiverCx t.receiving t.requestMsg).2

/-- The name identifier that the sender finds for the receiver. -/
def nameSent (t : Termination sender receiver) : Option LassoNode :=
  { t.sending.toProfile with remoteProviderId := some receiver.providerId }.getNameIdentifier

/-- The sender looks for the name in its federation: it has no assertion about another one, and the
receiver is not known by an affiliation. -/
def FromFederation (t : Termination sender receiver) : Prop :=
  (t.sending.session.bind (·.getAssertion receiver.providerId)).bind (·.assertionNameId) = none ∧
    ∃ q, t.server.getProvider (some receiver.providerId) = some q ∧
      q.spNameQualifier = some receiver.providerId

/-- What becomes of a termination: the sender has dropped its federation, and the receiver drops its
own just if the principal can be returned and the name that was sent is one of the federation. -/
structure Ends (t : Termination sender receiver) (own : Federation) : Prop where
  dropped : receiver.federationIn t.started.identity = none
  accepted_iff : t.result.1 = .ok ↔
    t.received.CanReturn ∧ t.nameSent.any own.verifyNameIdentifier = true
  ended : t.result.1 = .ok → sender.federationIn t.result.2.identity = none
  known : t.FromFederation → t.nameSent.any own.verifyNameIdentifier = true

theorem nameSent_of_fromFederation {t : Termination sender receiver} (h : t.FromFederation)
    {own : Federation} (hown : receiver.federationIn t.sending.identity = some own) :
    t.nameSent = own.remoteNameIdentifier.or own.localNameIdentifier := by
  obtain ⟨hsession, q, hq, hqualifier⟩ := h
  obtain ⟨identity, hidentity, hfederation⟩ := Option.bind_eq_some_iff.mp hown
  replace hfederation : identity.federations.lookup receiver.providerId = some own := hfederation
  simp only [nameSent, Profile.getNameIdentifier, Profile.remoteProvider, hsession, t.server_eq,
    hidentity, hq, hqualifier, hfederation, Option.bind_some, Option.none_or]

/-- The notification that arrives is about the sender, with the name that was sent. -/
theorem arrived (t : Termination sender receiver) :
    t.received.identity = t.receiving.identity ∧
      t.received.remoteProviderId = some sender.providerId ∧
      ∃ notification name, t.received.notification = some notification ∧
        notification.nameIdentifier = some name ∧
        t.nameSent = some (.samlNameIdentifier name) := by
  rcases initNotification_eq t.starts with ⟨hne, -⟩ | ⟨-, id, identity, name, n, hid, hstarted⟩
  · exact absurd rfl hne
  · cases hid
    obtain ⟨server, hserver, hprovider⟩ := hstarted.providerId
    cases t.server_eq.symm.trans hserver
    cases hstarted.notification_eq.symm.trans t.delivers
    obtain ⟨hnotification, -, hidentity, -⟩ :=
      processNotificationMsg_keeps t.receiverCx t.receiving t.requestMsg
    refine ⟨hidentity, ?_, _, name, hnotification, hstarted.nameIdentifier, hstarted.name_eq⟩
    rw [received, processNotificationMsg_remoteProviderId t.readable.1 t.readable.2, hprovider,
      t.senderServer.providerId, sender.hasProviderId]

/-- The sender has dropped its federation when its notification is started. -/
theorem dropped (t : Termination sender receiver) :
    receiver.federationIn t.started.identity = none := by
  rcases initNotification_eq t.starts with ⟨hne, -⟩ | ⟨-, id, identity, name, n, hid, hstarted⟩
  · exact absurd rfl hne
  · cases hid
    rw [hstarted.removed]
    exact Identity.getFederation_removeFederation identity receiver.providerId

/-- The receiver accepts the name that it finds in its own federation. -/
theorem ends (t : Termination sender receiver) {own other : Federation}
    (hown : receiver.federationIn t.sending.identity = some own)
    (hother : sender.federationIn t.receiving.identity = some other)
    (hsame : ∀ n, other.verifyNameIdentifier n = own.verifyNameIdentifier n)
    (hknown : (own.remoteNameIdentifier.or own.localNameIdentifier).any own.verifyNameIdentifier =
      true) : t.Ends own := by
  obtain ⟨hidentity, hid, notification, name, hnotification, hname, hsent⟩ := t.arrived
  obtain ⟨i, hi, hfederation⟩ := Option.bind_eq_some_iff.mp hother
  have hterminated : terminated t.received.identity t.received.remoteProviderId notification =
      if own.verifyNameIdentifier (.samlNameIdentifier name) = true
      then some (i.removeFederation (some sender.providerId)).2 else none := by
    rw [hidentity, hid, hi]
    simp only [terminated, hname, hfederation, hsame, Option.bind_eq_bind, Option.bind_some, guard]
    split_ifs <;> rfl
  have hsent_any : t.nameSent.any own.verifyNameIdentifier =
      own.verifyNameIdentifier (.samlNameIdentifier name) := by rw [hsent, Option.any_some]
  refine {
    dropped := t.dropped
    accepted_iff := ?_
    ended := ?_
    known := fun h => by rwa [nameSent_of_fromFederation h hown] }
  · rw [hsent_any]
    rcases validateNotification_eq t.validates with
      ⟨hne, -, -, hnone⟩ | ⟨hok, hcan, n, _, hn, hsome, -⟩
    · refine iff_of_false hne ?_
      rintro ⟨hcan, hverify⟩
      have h := hnone notification hnotification hcan
      rw [← received, hterminated, if_pos hverify] at h
      cases h
    · cases hnotification.symm.trans hn
      rw [← received, hterminated] at hsome
      split_ifs at hsome with hverify
      exact iff_of_true hok ⟨hcan, hverify⟩
  · intro hok
    rcases validateNotification_eq t.validates with ⟨hne, -⟩ | ⟨-, -, n, _, hn, hsome, hafter, -⟩
    · exact absurd hok hne
    · cases hnotification.symm.trans hn
      rw [← received, hterminated] at hsome
      split_ifs at hsome with hverify
      cases hsome
      rw [hafter]
      exact Identity.getFederation_removeFederation i sender.providerId

end Termination

/-- Federations that mirror each other have the same names. -/
theorem sameNames_of_linked {f g : Federation} (h : Linked (some f) (some g)) (n : LassoNode) :
    f.verifyNameIdentifier n = g.verifyNameIdentifier n := by
  obtain ⟨hlocal, hremote⟩ := h.mirrored
  replace hlocal : g.localNameIdentifier = f.remoteNameIdentifier := hlocal
  replace hremote : g.remoteNameIdentifier = f.localNameIdentifier := hremote
  unfold Federation.verifyNameIdentifier
  rw [hlocal, hremote]
  split
  · rfl
  · rw [Bool.or_comm]

/-- Both sides know the name that they find in their own federation. -/
theorem known_of_linked {f g : Federation} (h : Linked (some f) (some g)) :
    (f.remoteNameIdentifier.or f.localNameIdentifier).any f.verifyNameIdentifier = true ∧
      (g.remoteNameIdentifier.or g.localNameIdentifier).any g.verifyNameIdentifier = true := by
  cases h with
  | @federated _ _ idpName spName idpFederated spFederated idpLocal idpRemote spLocal spRemote =>
    constructor
    · rw [idpRemote, idpLocal]
      cases spName with
      | none => exact verifyNameIdentifier_of_local idpLocal idpFederated
      | some n => exact verifyNameIdentifier_of_remote idpRemote (spFederated n rfl)
    · rw [spRemote]
      exact verifyNameIdentifier_of_remote spRemote idpFederated

variable {p : Partners}

/-- The metadata of both sides: a service provider ends federations by SOAP. -/
def terminatingDescriptors : AList (fun _ : String => List String) :=
  ((∅ : AList (fun _ : String => List String)).insert
    "sp FederationTerminationNotificationProtocolProfile"
    ["http://projectliberty.org/profiles/fedterm-sp-soap"]).insert
    "idp FederationTerminationNotificationProtocolProfile"
    ["http://projectliberty.org/profiles/fedterm-sp-soap"]

/-- The identity provider `idp.example`. -/
def terminatingIdp : Provider := { exampleIdp with descriptors := terminatingDescriptors }

/-- The service provider `sp.example`. -/
def terminatingSp : Provider := { exampleSp with descriptors := terminatingDescriptors }

def terminatingPartners : Partners where
  idp := {
    server := (Server.addProvider { provider := terminatingIdp } terminatingSp).2
    providerId := "https://idp.example"
    role := .idp
    hasProviderId := rfl }
  sp := {
    server := (Server.addProvider { provider := terminatingSp } terminatingIdp).2
    providerId := "https://sp.example"
    role := .sp
    hasProviderId := rfl }
  idp_role := rfl
  sp_role := rfl
  idp_knows := ⟨terminatingSp, rfl, rfl, by decide⟩
  sp_knows := ⟨terminatingIdp, rfl, rfl, by decide⟩

/-- The context of the assertions. -/
def assertingCx : AssertionContext := { exampleCx with encryptNameIdentifier := fun _ _ => none }

/-- A login at `idp.example` with the given identity, up to its assertion. -/
def loginAt (identity : Option Identity) : Login where
  profile := {
    server := some terminatingPartners.idp.server
    request := some (.libAuthnRequest federatingRequest)
    remoteProviderId := some "https://sp.example"
    identity }

def federatedAt (identity : Option Identity) : Login :=
  (processFederation "alice" (loginAt identity) federatingRequest true).2

def assertedAt (identity : Option Identity) : Login :=
  ((buildAssertion assertingCx { federatedAt identity with
    profile := { (federatedAt identity).profile with response := some (.samlpResponse {}) } }
    "_a1" "_n1" "").getD (.ok, {})).2

def responseAt (identity : Option Identity) : SamlpResponse :=
  match (assertedAt identity).profile.response with
  | some (.samlpResponse response) => response
  | _ => {}

/-- The login at `sp.example` that the assertion arrives at. -/
def acceptingAt (idp sp : Option Identity) : Login where
  profile := {
    server := some terminatingPartners.sp.server
    response := some (.samlpResponse (responseAt idp))
    remoteProviderId := some "https://idp.example"
    identity := sp }

def acceptedAt (idp sp : Option Identity) : Login :=
  ((acceptSso exampleCx (acceptingAt idp sp)).getD (.ok, {})).2

theorem version_federatingRequest :
    ¬(federatingRequest.majorVersion = 1 ∧ federatingRequest.minorVersion < 2) := by decide

theorem assertion_new : ({} : SamlpResponse).assertion = [] := rfl

/-- The first sign-on of `alice`. -/
def firstSignOn : SignOn terminatingPartners where
  cx := assertingCx
  spCx := exampleCx
  login := loginAt none
  federated := federatedAt none
  asserted := assertedAt none
  accepting := acceptingAt none none
  accepted := acceptedAt none none
  request := federatingRequest
  response := {}
  delivered := responseAt none
  isConsentObtained := true
  uniqueId := "alice"
  assertionId := "_a1"
  onetimeId := "_n1"
  artifact := ""
  server := terminatingPartners.idp.server
  idpServer := .refl _
  server_eq := rfl
  request_eq := rfl
  version := version_federatingRequest
  remote_eq := rfl
  federates := rfl
  response_eq := assertion_new
  asserts := rfl
  accepting_eq := rfl
  delivers := ⟨responseAt none, rfl, rfl⟩
  acceptingRemote := rfl
  accepts := rfl

/-- The identity of `alice` at `idp.example`. -/
def idpIdentity : Option Identity := firstSignOn.asserted.profile.identity

/-- `sp.example` ends the federation. -/
def aliceEnding : Defederation where
  server := some terminatingPartners.sp.server
  identity := firstSignOn.accepted.profile.identity

/-- The state of `sp.example` when the notification is started. -/
def aliceEnded : Defederation :=
  ((initNotification DefederationRun.leavingCx aliceEnding (some "https://idp.example") .soap
    "_n2").getD (.ok, aliceEnding)).2

/-- `sp.example` starts to end the federation. -/
theorem alice_starts :
    initNotification DefederationRun.leavingCx aliceEnding (some "https://idp.example") .soap
      "_n2" = some (.ok, aliceEnded) := rfl

/-- Every message is the notification of `sp.example`. -/
def terminatingCx : DefederationContext :=
  { DefederationRun.leavingCx with
    notificationInitFromXml := fun n _ => (.ok, aliceEnded.notification.getD n) }

/-- `idp.example` receives the notification. -/
def aliceReceiving : Defederation where
  server := some terminatingPartners.idp.server
  identity := idpIdentity

def aliceTermination : Termination terminatingPartners.sp terminatingPartners.idp where
  cx := DefederationRun.leavingCx
  receiverCx := terminatingCx
  sending := aliceEnding
  started := aliceEnded
  receiving := aliceReceiving
  result := (validateNotification
    (processNotificationMsg terminatingCx aliceReceiving "<m>".toList).2).getD (.ok, aliceReceiving)
  server := terminatingPartners.sp.server
  httpMethod := .soap
  requestId := "_n2"
  requestMsg := "<m>".toList
  server_eq := rfl
  senderServer := .refl _
  starts := alice_starts
  delivers := rfl
  readable := by decide
  validates := rfl

/-- The sign-on after the notification was lost. -/
def secondSignOn : SignOn terminatingPartners where
  cx := assertingCx
  spCx := exampleCx
  login := loginAt idpIdentity
  federated := federatedAt idpIdentity
  asserted := assertedAt idpIdentity
  accepting := acceptingAt idpIdentity aliceEnded.identity
  accepted := acceptedAt idpIdentity aliceEnded.identity
  request := federatingRequest
  response := {}
  delivered := responseAt idpIdentity
  isConsentObtained := true
  uniqueId := "alice"
  assertionId := "_a1"
  onetimeId := "_n1"
  artifact := ""
  server := terminatingPartners.idp.server
  idpServer := .refl _
  server_eq := rfl
  request_eq := rfl
  version := version_federatingRequest
  remote_eq := rfl
  federates := rfl
  response_eq := assertion_new
  asserts := rfl
  accepting_eq := rfl
  delivers := ⟨responseAt idpIdentity, rfl, rfl⟩
  acceptingRemote := rfl
  accepts := rfl

theorem unfederated_start : Unfederated terminatingPartners ⟨none, none⟩ := ⟨rfl, rfl⟩

/-- The first sign-on of `alice`. -/
theorem alice_signs_on : Reaches terminatingPartners ⟨none, none⟩
    ⟨idpIdentity, aliceEnding.identity⟩ :=
  .single (.exchange (.signOn firstSignOn))

/-- The notification that `sp.example` starts is lost. -/
theorem alice_loses : Reaches terminatingPartners ⟨none, none⟩
    ⟨idpIdentity, aliceEnded.identity⟩ :=
  alice_signs_on.tail (.spStarts alice_starts)

end Lasso.FederationLifecycle
