import Lasso.IdFf.SingleSignOn
import Lasso.Library.Distinct
import Lasso.Saml20.Response
import Lasso.Session.Atomicity

/-!
# Accepting a single sign-on, as a whole

`acceptSso` adds the assertion to the session before it looks for the name identifier, and does not
look at whether the session took it.

## Main definitions

* `Login.acceptSso` — `lasso_login_accept_sso` of both protocols.
* `Login.AllOrNothing` — an error changes nothing, a success records all.
* `Login.RecordsCleanly` — the logins for which that is so.

## Main results

* `Login.acceptSso_of_fresh` — the outcome, by what is found in the assertion.
* `Session.sameRecords_addAssertion_iff` — which assertions leave a session as it is.
* `Login.allOrNothing_iff` — which logins are accepted as a whole or not at all.
-/

namespace Lasso

open Distinct

/-! ## Both protocols -/

namespace Login

/-- The login with an identity and a session. -/
def started (login : Login) : Login :=
  { login with profile := { login.profile with
    identity := some (login.profile.identity.getD {})
    session := some (login.profile.session.getD {}) } }

/-- `lasso_saml20_login_accept_sso` is given a response of its class, and a remote provider if it
is to make a federation. -/
def saml20SsoReturns (profile : Profile) : Bool :=
  match profile.response with
  | some (.samlp2Response _) =>
    match Saml20.firstAssertion profile with
    | none => true
    | some a =>
      Saml20.isReplayed profile a || profile.remoteProviderId.isSome ||
        !a.nameId.any (·.format == some saml2NameIdentifierFormatPersistent)
  | _ => false

/-- `lasso_login_accept_sso` -/
def acceptSso (cx : Context) (login : Login) : Option (Rc × Login) :=
  if login.profile.isSaml2 then
    match login.profile.response with
    | none => some (.profile .missingResponse, login.started)
    | some _ =>
      if saml20SsoReturns login.started.profile then some (Saml20.acceptSso cx login.started)
      else none
  else IdFf.acceptSso cx login

/-! ## What is found in a response -/

/-- The assertion that is accepted, unless it is found to be replayed. ID-FF does not look for
that. -/
def freshAssertion (login : Login) : Option LassoNode :=
  if login.profile.isSaml2 then
    ((Saml20.firstAssertion login.profile).filter fun a =>
      !Saml20.isReplayed login.profile a).map .saml2Assertion
  else
    match login.profile.response with
    | some (.samlpResponse response) => response.assertion.head?.map .samlAssertion
    | _ => none

end Login

/-- What is found for a name identifier in an assertion. -/
inductive AcceptedName where
  | missing
  | other
  | persistent (nameId : LassoNode)

/-- The name identifier of an assertion. It is looked for in the authentication statement of an
ID-FF assertion, which has to be there. -/
def LassoNode.acceptedName : LassoNode → Option AcceptedName
  | .saml2Assertion a =>
    match a.nameId with
    | none => some .missing
    | some ni =>
      some (if ni.format = some saml2NameIdentifierFormatPersistent then
        .persistent (.saml2NameId ni) else .other)
  | .samlAssertion a => a.authenticationStatement.map fun statement =>
    match statement.nameIdentifier with
    | none => .missing
    | some ni =>
      if ni.format = some libNameIdentifierFormatFederated then
        .persistent (.samlNameIdentifier ni)
      else .other
  | _ => none

/-- The federation has this name identifier on one of its sides. -/
def Federation.Carries (federation : Federation) (nameId : LassoNode) : Prop :=
  federation.localNameIdentifier = some nameId ∨ federation.remoteNameIdentifier = some nameId

/-! ## The property -/

namespace Session

/-- The same assertions, index entries and assertions by ID. -/
structure SameRecords (s s' : Session) : Prop where
  assertions : ∀ providerId, s'.assertions.lookup providerId = s.assertions.lookup providerId
  index : ∀ providerId,
    s'.nidAndSessionIndexes.lookup providerId = s.nidAndSessionIndexes.lookup providerId
  assertionsById : ∀ id, s'.assertionsById.lookup id = s.assertionsById.lookup id

theorem SameRecords.refl (s : Session) : s.SameRecords s :=
  ⟨fun _ => rfl, fun _ => rfl, fun _ => rfl⟩

/-- The assertion is in the session: it is stored and its entries are in the index. A thin session
stores no assertions and has the entries only. -/
structure Holds (env : Env) (s : Session) (providerId : String) (assertion : LassoNode) : Prop where
  stored : env.thinSessions = false → s.assertions.lookup providerId = some assertion
  indexed : ∀ entries, assertion.indexEntries = some entries → ∀ e ∈ entries,
    e ∈ s.entries providerId ∨ (s.entries providerId).any (·.sameAs e) = true
  thin : env.thinSessions = true → assertion.indexEntries.isSome

end Session

namespace Login

/-- An error leaves the session and the federations as they were. A success means that the
assertion is in the session, and the persistent name identifier in a federation with the identity
provider. -/
def AllOrNothing (cx : Context) (login : Login) : Prop :=
  ∀ rc after, login.acceptSso cx = some (rc, after) →
    (rc ≠ .ok →
      (login.profile.session.getD {}).SameRecords (after.profile.session.getD {}) ∧
        ∀ key, (after.profile.identity.getD {}).federations.lookup key =
          (login.profile.identity.getD {}).federations.lookup key) ∧
      (rc = .ok → ∃ assertion providerId, login.freshAssertion = some assertion ∧
        login.profile.remoteProviderId = some providerId ∧
          (after.profile.session.getD {}).Holds cx.toEnv providerId assertion ∧
            ∀ nameId, assertion.acceptedName = some (.persistent nameId) →
              ∃ federation, (after.profile.identity.getD {}).federations.lookup providerId =
                some federation ∧ federation.Carries nameId)

end Login

/-! ## Adding what is there -/

/-- The assertion in the Advice, with its ID. -/
def LassoNode.advice : LassoNode → Option (String × XmlNode)
  | .samlAssertion a => a.adviceXmlnode.bind fun node =>
    if node.isElementNode "Assertion" samlAssertionHref then
      (node.getProp "AssertionID").map (·, node)
    else none
  | _ => none

namespace Session

/-- The session has all of the assertion already. One that cannot be indexed is stored at most. -/
structure HasAll (env : Env) (s : Session) (providerId : String) (assertion : LassoNode) :
    Prop where
  stores : s.Stores env providerId assertion
  indexes : ∀ entries, assertion.indexEntries = some entries → s.Indexes providerId entries
  advice : assertion.indexEntries.isSome → ∀ id node, assertion.advice = some (id, node) →
    s.assertionsById.lookup id = some node

end Session

namespace Login

/-- An assertion without name identifier is in the session already, and any other one can be
recorded: there is a provider to record it for, and in a thin session it can be indexed. -/
structure RecordsCleanly (cx : Context) (login : Login) : Prop where
  missing : ∀ assertion, login.freshAssertion = some assertion →
    assertion.acceptedName = some .missing → ∀ providerId,
      login.profile.remoteProviderId = some providerId →
        (login.profile.session.getD {}).HasAll cx.toEnv providerId assertion
  provider : ∀ assertion, login.freshAssertion = some assertion →
    assertion.acceptedName = some .other → login.profile.remoteProviderId.isSome
  thin : cx.thinSessions = true → ∀ assertion, login.freshAssertion = some assertion →
    ∀ found, assertion.acceptedName = some found → found ≠ .missing →
      login.profile.remoteProviderId.isSome → assertion.indexEntries.isSome

end Login

/-! ## What becomes of a session -/

namespace Session

variable {env : Env} {s : Session} {providerId : String} {assertion : LassoNode}

theorem addAdviceAssertion_snd (s : Session) (assertion : LassoNode) :
    ((s.addAdviceAssertion assertion).2.nidAndSessionIndexes = s.nidAndSessionIndexes) ∧
      (s.addAdviceAssertion assertion).2.assertionsById =
        match assertion.advice with
        | none => s.assertionsById
        | some (id, node) => s.assertionsById.insert id node := by
  cases assertion with
  | samlAssertion a =>
    simp only [addAdviceAssertion, LassoNode.advice]
    cases a.adviceXmlnode with
    | none => exact ⟨rfl, rfl⟩
    | some node =>
      by_cases hnode : node.isElementNode "Assertion" samlAssertionHref = true
      · cases hid : node.getProp "AssertionID" <;> simp [hnode, hid, addAssertionWithId]
      · simp [hnode]
  | _ => exact ⟨rfl, rfl⟩

/-- The assertion of the Advice leaves the assertions by ID as they are if and only if it is one
of them. -/
theorem lookup_addAdviceAssertion_iff :
    (∀ id, (s.addAdviceAssertion assertion).2.assertionsById.lookup id =
        s.assertionsById.lookup id) ↔
      ∀ id node, assertion.advice = some (id, node) → s.assertionsById.lookup id = some node := by
  rw [(addAdviceAssertion_snd s assertion).2]
  cases assertion.advice with
  | none => simp
  | some advice =>
    obtain ⟨id, node⟩ := advice
    dsimp only
    rw [lookup_insert_eq_self_iff]
    simp

/-- Adding an assertion leaves the records as they are if and only if it is all there. -/
theorem sameRecords_addAssertion_iff :
    s.SameRecords (s.addAssertion env (some providerId) assertion).2 ↔
      s.HasAll env providerId assertion := by
  cases hindex : assertion.indexEntries with
  | none =>
    obtain ⟨rc, -, hcall⟩ := addAssertion_of_unindexed hindex
    rw [hcall]
    constructor
    · intro h
      exact ⟨stores_iff.mpr h.assertions, by simp [hindex], by simp [hindex]⟩
    · intro h
      exact ⟨stores_iff.mp h.stores, by simp, by simp⟩
  | some entries =>
    rw [addAssertion_of_indexed hindex]
    obtain ⟨index, hfold⟩ := foldl_addNidAndSessionIndex_eq (s.stored env providerId assertion)
      providerId entries
    have hindexes := lookup_foldl_addNidAndSessionIndex_iff (s.stored env providerId assertion)
      providerId entries
    rw [indexes_stored_iff, hfold, stored_nidAndSessionIndexes] at hindexes
    rw [hfold]
    set indexed := { s.stored env providerId assertion with nidAndSessionIndexes := index }
    have hadvice := @lookup_addAdviceAssertion_iff indexed assertion
    have hbyId : indexed.assertionsById = s.assertionsById := stored_assertionsById
    rw [hbyId] at hadvice
    have hassertions : (indexed.addAdviceAssertion assertion).2.assertions =
        (s.stored env providerId assertion).assertions := addAdviceAssertion_assertions assertion
    have hindexed := (addAdviceAssertion_snd indexed assertion).1
    constructor
    · intro h
      refine ⟨stores_iff.mpr fun id => ?_, ?_, fun _ => hadvice.mp h.assertionsById⟩
      · rw [← hassertions]
        exact h.assertions id
      · intro entries' hentries
        obtain rfl := Option.some.inj (hindex.symm.trans hentries)
        refine hindexes.mp fun id => ?_
        rw [← h.index id]
        exact (congrArg (·.lookup id) hindexed).symm
    · intro h
      refine ⟨fun id => ?_, fun id => ?_, hadvice.mpr (h.advice (by simp [hindex]))⟩
      · exact (congrArg (·.lookup id) hassertions).trans (stores_iff.mp h.stores id)
      · exact (congrArg (·.lookup id) hindexed).trans (hindexes.mpr (h.indexes _ hindex) id)

theorem entries_foldl (s : Session) (providerId : String) (es : List NidAndSessionIndex) :
    (es.foldl (addNidAndSessionIndex · providerId ·) s).entries providerId =
      insertAll NidAndSessionIndex.sameAs (s.entries providerId) es := by
  induction es generalizing s with
  | nil => rfl
  | cons e es ih =>
    rw [List.foldl_cons, ih, entries_addNidAndSessionIndex]
    rfl

/-- An added assertion is in the session, unless the session is thin and cannot index it. -/
theorem holds_addAssertion_iff :
    (s.addAssertion env (some providerId) assertion).2.Holds env providerId assertion ↔
      (env.thinSessions = true → assertion.indexEntries.isSome) := by
  constructor
  · exact fun h => h.thin
  · intro hthin
    refine ⟨fun hthin => getAssertion_addAssertion hthin assertion, ?_, hthin⟩
    intro entries hentries e he
    have hlist : (s.addAssertion env (some providerId) assertion).2.entries providerId =
        insertAll NidAndSessionIndex.sameAs
          ((s.stored env providerId assertion).entries providerId) entries := by
      rw [addAssertion_of_indexed hentries, ← entries_foldl]
      unfold Session.entries
      dsimp only
      rw [(addAdviceAssertion_snd _ assertion).1]
    rw [hlist, List.any_eq_true]
    exact covered_insertAll he

end Session

/-! ## What becomes of a login -/

namespace Login

/-- The login with the assertion added to its session. -/
def recorded (cx : Context) (login : Login) (assertion : LassoNode) : Login :=
  { login.started with profile := { login.started.profile with
    session := some ((login.profile.session.getD {}).addAssertion cx.toEnv
      login.profile.remoteProviderId assertion).2 } }

/-- The ways in which an assertion is accepted, by what is found in it. -/
inductive Accepts (cx : Context) (login : Login) (assertion : LassoNode) :
    Option (Rc × Login) → Prop
  | stops (hname : assertion.acceptedName = none) : Accepts cx login assertion none
  | missing (hname : assertion.acceptedName = some .missing) {rc : Rc} (hrc : rc ≠ .ok) :
      Accepts cx login assertion (some (rc, recorded cx login assertion))
  | other (hname : assertion.acceptedName = some .other) :
      Accepts cx login assertion (some (.ok, recorded cx login assertion))
  | noProvider {nameId : LassoNode} (hname : assertion.acceptedName = some (.persistent nameId))
      (hremote : login.profile.remoteProviderId = none) : Accepts cx login assertion none
  | persistent {nameId : LassoNode} (hname : assertion.acceptedName = some (.persistent nameId))
      {federation : Federation}
      (hremote : login.profile.remoteProviderId = some federation.remoteProviderId)
      (hcarries : federation.Carries nameId) :
      Accepts cx login assertion (some (.ok, { recorded cx login assertion with
        profile := { (recorded cx login assertion).profile with
          identity := some ((login.profile.identity.getD {}).addFederation federation) } }))

section

variable {cx : Context} {login : Login} {assertion : LassoNode}

theorem isReplayed_started (login : Login) (a : Saml2Assertion) :
    Saml20.isReplayed login.started.profile a = Saml20.isReplayed login.profile a := by
  unfold Saml20.isReplayed started
  cases hsession : login.profile.session with
  | some session => rfl
  | none =>
    cases hremote : login.profile.remoteProviderId with
    | none => rfl
    | some providerId => rfl

/-- An assertion that is not replayed is given to the SAML 2.0 function, if that returns. -/
theorem acceptSso_of_saml2 (hsaml2 : login.profile.isSaml2 = true) {a : Saml2Assertion}
    (hfirst : Saml20.firstAssertion login.profile = some a)
    (hreplay : Saml20.isReplayed login.profile a = false) :
    login.acceptSso cx =
      if (login.profile.remoteProviderId.isSome ||
        !a.nameId.any (·.format == some saml2NameIdentifierFormatPersistent)) = true then
        some (Saml20.acceptSso cx login.started)
      else none := by
  obtain ⟨response, hresponse⟩ : ∃ response, login.profile.response =
      some (.samlp2Response response) := by
    unfold Saml20.firstAssertion at hfirst
    split at hfirst
    · exact ⟨_, by assumption⟩
    · cases hfirst
  have hreturns : saml20SsoReturns login.started.profile =
      (login.profile.remoteProviderId.isSome ||
        !a.nameId.any (·.format == some saml2NameIdentifierFormatPersistent)) := by
    have hresponse' : login.started.profile.response = some (.samlp2Response response) := hresponse
    have hfirst' : Saml20.firstAssertion login.started.profile = some a := hfirst
    simp only [saml20SsoReturns, hresponse', hfirst', (isReplayed_started login a).trans hreplay,
      Bool.false_or]
    rfl
  rw [← hreturns]
  simp only [acceptSso, hsaml2, if_true, hresponse]

/-- A SAML 2.0 assertion that is not replayed. -/
theorem accepts_saml2 (hsaml2 : login.profile.isSaml2 = true) {a : Saml2Assertion}
    (hfirst : Saml20.firstAssertion login.profile = some a)
    (hreplay : Saml20.isReplayed login.profile a = false) :
    Accepts cx login (.saml2Assertion a) (login.acceptSso cx) := by
  have hreplay' := (isReplayed_started login a).trans hreplay
  have hfirst' : Saml20.firstAssertion login.started.profile = some a := hfirst
  rw [acceptSso_of_saml2 hsaml2 hfirst hreplay]
  unfold Saml20.acceptSso
  simp only [hfirst', hreplay', Bool.false_eq_true, if_false]
  cases hname : a.nameId with
  | none =>
    rw [Option.any_none, Bool.not_false, Bool.or_true, if_pos rfl]
    exact .missing (by simp [LassoNode.acceptedName, hname]) (by simp)
  | some ni =>
    rw [Option.any_some]
    by_cases hformat : ni.format = some saml2NameIdentifierFormatPersistent
    · have hfound : (LassoNode.saml2Assertion a).acceptedName =
          some (.persistent (.saml2NameId ni)) := by
        simp [LassoNode.acceptedName, hname, hformat]
      cases hprovider : login.profile.remoteProviderId with
      | none =>
        rw [if_neg (by simp [hformat])]
        exact .noProvider hfound hprovider
      | some providerId =>
        rw [if_pos (by simp)]
        dsimp only
        split
        · rename_i hprovider'
          obtain rfl := Option.some.inj (hprovider.symm.trans hprovider')
          rw [if_pos hformat]
          exact @Accepts.persistent cx login _ _ hfound {
            remoteProviderId := providerId
            localNameIdentifier := some (.saml2NameId ni) } hprovider (.inl rfl)
        · rename_i hnone
          cases hprovider.symm.trans hnone
    · have hfound : (LassoNode.saml2Assertion a).acceptedName = some .other := by
        simp [LassoNode.acceptedName, hname, hformat]
      rw [if_pos (by simp [hformat])]
      dsimp only
      split
      · rw [if_neg hformat]
        exact .other hfound
      · exact .other hfound

/-- The ID-FF function looks at the statement of the first assertion, once that is recorded. -/
theorem acceptSso_of_idFf (hidff : login.profile.isSaml2 = false) {response : SamlpResponse}
    (hresponse : login.profile.response = some (.samlpResponse response)) {a : SamlAssertion}
    (hfirst : response.assertion.head? = some a) :
    login.acceptSso cx = a.authenticationStatement.bind fun statement =>
      IdFf.acceptSubject (recorded cx login (.samlAssertion a)) login.profile.remoteProviderId
        (login.profile.identity.getD {}) statement.subject := by
  obtain ⟨rest, hassertion⟩ := List.head?_eq_some_iff.mp hfirst
  unfold acceptSso IdFf.acceptSso
  rw [hidff, if_neg Bool.false_ne_true]
  dsimp only
  split
  · rename_i hnone
    cases hresponse.symm.trans hnone
  · rename_i response' hresponse'
    cases hresponse.symm.trans hresponse'
    rw [hassertion]
    rfl
  · rename_i hother hresponse'
    exact absurd (Option.some.inj (hresponse'.symm.trans hresponse)) (hother response)

/-- The subject of a statement, by its name identifier. -/
theorem accepts_subject {a : SamlAssertion} {statement : SamlSubjectStatement}
    (hstatement : a.authenticationStatement = some statement) :
    Accepts cx login (.samlAssertion a)
      (IdFf.acceptSubject (recorded cx login (.samlAssertion a)) login.profile.remoteProviderId
        (login.profile.identity.getD {}) statement.subject) := by
  unfold IdFf.acceptSubject
  cases hsubject : statement.subject with
  | none =>
    refine .missing ?_ (by simp)
    simp [LassoNode.acceptedName, hstatement, SamlSubjectStatement.nameIdentifier, hsubject]
  | some subject =>
    dsimp only
    cases hname : subject.nameIdentifier with
    | none =>
      refine .missing ?_ (by simp)
      simp [LassoNode.acceptedName, hstatement, SamlSubjectStatement.nameIdentifier, hsubject,
        hname]
    | some ni =>
      dsimp only
      by_cases hformat : ni.format = some libNameIdentifierFormatFederated
      · have hfound : (LassoNode.samlAssertion a).acceptedName =
            some (.persistent (.samlNameIdentifier ni)) := by
          simp [LassoNode.acceptedName, hstatement, SamlSubjectStatement.nameIdentifier,
            hsubject, hname, hformat]
        rw [if_pos hformat]
        cases hprovider : login.profile.remoteProviderId with
        | none => exact .noProvider hfound hprovider
        | some providerId =>
          generalize (if subject.isLibSubject = true then subject.idpProvidedNameIdentifier
            else none) = idpProvided
          refine @Accepts.persistent cx login _ _ hfound
            (IdFf.federationOf providerId ni idpProvided) ?_ ?_
          · cases idpProvided <;> exact hprovider
          · cases idpProvided with
            | none => exact .inr rfl
            | some idp => exact .inl rfl
      · rw [if_neg hformat]
        refine .other ?_
        simp [LassoNode.acceptedName, hstatement, SamlSubjectStatement.nameIdentifier,
          hsubject, hname, hformat]

/-- An ID-FF assertion. -/
theorem accepts_idFf (hidff : login.profile.isSaml2 = false) {response : SamlpResponse}
    (hresponse : login.profile.response = some (.samlpResponse response)) {a : SamlAssertion}
    (hfirst : response.assertion.head? = some a) :
    Accepts cx login (.samlAssertion a) (login.acceptSso cx) := by
  rw [acceptSso_of_idFf hidff hresponse hfirst]
  cases hstatement : a.authenticationStatement with
  | none => exact .stops (by simp [LassoNode.acceptedName, hstatement])
  | some statement => exact accepts_subject hstatement

/-- The outcome, by what is found in the assertion. -/
theorem acceptSso_of_fresh (h : login.freshAssertion = some assertion) :
    Accepts cx login assertion (login.acceptSso cx) := by
  unfold freshAssertion at h
  cases hsaml2 : login.profile.isSaml2 with
  | true =>
    rw [hsaml2, if_pos rfl] at h
    obtain ⟨a, hfirst, rfl⟩ := Option.map_eq_some_iff.mp h
    obtain ⟨hfirst, hreplay⟩ := Option.filter_eq_some_iff.mp hfirst
    exact accepts_saml2 hsaml2 hfirst (by simpa using hreplay)
  | false =>
    rw [hsaml2, if_neg Bool.false_ne_true] at h
    split at h
    · rename_i response hresponse
      obtain ⟨a, hfirst, rfl⟩ := Option.map_eq_some_iff.mp h
      exact accepts_idFf hsaml2 hresponse hfirst
    · cases h

/-- Without a new assertion there is an error, and nothing is recorded. -/
theorem acceptSso_of_not_fresh (h : login.freshAssertion = none) :
    login.acceptSso cx = none ∨ ∃ rc, rc ≠ .ok ∧ login.acceptSso cx = some (rc, login.started) := by
  unfold freshAssertion at h
  cases hsaml2 : login.profile.isSaml2 with
  | true =>
    rw [hsaml2, if_pos rfl, Option.map_eq_none_iff] at h
    unfold acceptSso
    rw [hsaml2, if_pos rfl]
    cases login.profile.response with
    | none => exact .inr ⟨_, by simp, rfl⟩
    | some response =>
      dsimp only
      split_ifs
      · refine .inr ?_
        unfold Saml20.acceptSso
        have hstarted : Saml20.firstAssertion login.started.profile =
          Saml20.firstAssertion login.profile := rfl
        rw [hstarted]
        cases hfirst : Saml20.firstAssertion login.profile with
        | none => exact ⟨_, by simp, rfl⟩
        | some a =>
          have hreplay : Saml20.isReplayed login.profile a = true := by
            rw [hfirst, Option.filter_some, ite_eq_right_iff] at h
            by_contra hnew
            have hnone := h (by simpa using hnew)
            cases hnone
          have hreplay' := (isReplayed_started login a).trans hreplay
          dsimp only
          rw [if_pos hreplay']
          exact ⟨_, by simp, rfl⟩
      · exact .inl rfl
  | false =>
    rw [hsaml2, if_neg Bool.false_ne_true] at h
    unfold acceptSso
    rw [hsaml2, if_neg Bool.false_ne_true]
    unfold IdFf.acceptSso
    dsimp only
    split
    · exact .inr ⟨_, by simp, rfl⟩
    · rename_i response hresponse
      rw [hresponse] at h
      have hempty : response.assertion = [] :=
        List.head?_eq_none_iff.mp (Option.map_eq_none_iff.mp h)
      rw [hempty]
      exact .inr ⟨_, by simp, rfl⟩
    · exact .inl rfl

/-- What has to hold for a new assertion. -/
theorem recordsCleanly_iff (hfresh : login.freshAssertion = some assertion) :
    RecordsCleanly cx login ↔
      (assertion.acceptedName = some .missing → ∀ providerId,
        login.profile.remoteProviderId = some providerId →
          (login.profile.session.getD {}).HasAll cx.toEnv providerId assertion) ∧
      (assertion.acceptedName = some .other → login.profile.remoteProviderId.isSome) ∧
      (cx.thinSessions = true → ∀ found, assertion.acceptedName = some found →
        found ≠ .missing → login.profile.remoteProviderId.isSome →
          assertion.indexEntries.isSome) := by
  constructor
  · intro h
    exact ⟨h.missing _ hfresh, h.provider _ hfresh, fun hthin => h.thin hthin _ hfresh⟩
  · rintro ⟨hmissing, hprovider, hthin⟩
    refine ⟨fun a ha => ?_, fun a ha => ?_, fun hthin' a ha => ?_⟩
    all_goals obtain rfl := Option.some.inj (hfresh.symm.trans ha)
    · exact hmissing
    · exact hprovider
    · exact hthin hthin'

/-- Nothing is recorded without a new assertion. -/
theorem allOrNothing_of_not_fresh (h : login.freshAssertion = none) : AllOrNothing cx login := by
  intro rc after hafter
  rcases @acceptSso_of_not_fresh cx login h with hnone | ⟨rc', hrc, hsome⟩
  · cases hnone.symm.trans hafter
  · obtain ⟨rfl, rfl⟩ := Prod.mk.inj (Option.some.inj (hsome.symm.trans hafter))
    exact ⟨fun _ => ⟨.refl _, fun _ => rfl⟩, fun hok => absurd hok hrc⟩

/-- An assertion without name identifier is an error, and must not have changed the session. -/
theorem allOrNothing_missing_iff {rc : Rc} (hrc : rc ≠ .ok)
    (hcall : login.acceptSso cx = some (rc, recorded cx login assertion)) :
    AllOrNothing cx login ↔ ∀ providerId, login.profile.remoteProviderId = some providerId →
      (login.profile.session.getD {}).HasAll cx.toEnv providerId assertion := by
  have hsession : (recorded cx login assertion).profile.session =
      some ((login.profile.session.getD {}).addAssertion cx.toEnv login.profile.remoteProviderId
        assertion).2 := rfl
  constructor
  · intro h providerId hremote
    have hsame := ((h rc _ hcall).1 hrc).1
    rw [hsession, hremote] at hsame
    exact Session.sameRecords_addAssertion_iff.mp hsame
  · intro h rc' after hafter
    obtain ⟨rfl, rfl⟩ := Prod.mk.inj (Option.some.inj (hcall.symm.trans hafter))
    refine ⟨fun _ => ⟨?_, fun _ => rfl⟩, fun hok => absurd hok hrc⟩
    rw [hsession]
    cases hremote : login.profile.remoteProviderId with
    | none => exact .refl _
    | some providerId => exact Session.sameRecords_addAssertion_iff.mpr (h providerId hremote)

/-- Any other one is recorded for its provider, if the session can take it. -/
theorem allOrNothing_recorded_iff (hfresh : login.freshAssertion = some assertion) {after : Login}
    (hcall : login.acceptSso cx = some (.ok, after))
    (hsession : after.profile.session = (recorded cx login assertion).profile.session)
    (hfederation : ∀ providerId, login.profile.remoteProviderId = some providerId →
      ∀ nameId, assertion.acceptedName = some (.persistent nameId) →
        ∃ federation, (after.profile.identity.getD {}).federations.lookup providerId =
          some federation ∧ federation.Carries nameId) :
    AllOrNothing cx login ↔ ∃ providerId, login.profile.remoteProviderId = some providerId ∧
      (cx.thinSessions = true → assertion.indexEntries.isSome) := by
  have hadded : ∀ providerId, login.profile.remoteProviderId = some providerId →
      after.profile.session.getD {} = ((login.profile.session.getD {}).addAssertion cx.toEnv
        (some providerId) assertion).2 := by
    intro providerId hremote
    rw [hsession, ← hremote]
    rfl
  constructor
  · intro h
    obtain ⟨assertion', providerId, hfresh', hremote, hholds, -⟩ := (h .ok after hcall).2 rfl
    obtain rfl := Option.some.inj (hfresh.symm.trans hfresh')
    exact ⟨providerId, hremote, hholds.thin⟩
  · rintro ⟨providerId, hremote, hthin⟩ rc after' hafter
    obtain ⟨rfl, rfl⟩ := Prod.mk.inj (Option.some.inj (hcall.symm.trans hafter))
    refine ⟨fun hne => absurd rfl hne, fun _ => ⟨assertion, providerId, hfresh, hremote, ?_, ?_⟩⟩
    · rw [hadded providerId hremote]
      exact Session.holds_addAssertion_iff.mpr hthin
    · exact hfederation providerId hremote

/-- A login is accepted as a whole or not at all if and only if its assertion can be recorded
cleanly. -/
theorem allOrNothing_iff (cx : Context) (login : Login) :
    AllOrNothing cx login ↔ RecordsCleanly cx login := by
  cases hfresh : login.freshAssertion with
  | none =>
    refine iff_of_true (allOrNothing_of_not_fresh hfresh) ?_
    constructor
    all_goals simp [hfresh]
  | some assertion =>
    have haccepts := @acceptSso_of_fresh cx login assertion hfresh
    rw [recordsCleanly_iff hfresh]
    generalize hcall : login.acceptSso cx = result at haccepts
    cases haccepts with
    | stops hname =>
      refine iff_of_true (fun rc after hafter => ?_) (by simp [hname])
      cases hcall.symm.trans hafter
    | missing hname hrc =>
      rw [allOrNothing_missing_iff hrc hcall, hname]
      simp
    | other hname =>
      rw [allOrNothing_recorded_iff hfresh hcall rfl (by simp [hname]), hname]
      cases login.profile.remoteProviderId <;> simp
    | noProvider hname hremote =>
      refine iff_of_true (fun rc after hafter => ?_) (by simp [hname, hremote])
      cases hcall.symm.trans hafter
    | persistent hname hremote hcarries =>
      rename_i nameId federation
      rw [allOrNothing_recorded_iff hfresh hcall rfl, hname]
      · simp [hremote]
      · intro providerId hprovider nameId' hname'
        obtain rfl := Option.some.inj (hremote.symm.trans hprovider)
        cases hname.symm.trans hname'
        exact ⟨federation, AList.lookup_insert _, hcarries⟩

/-! ## An assertion without name identifier -/

/-- A SAML 2.0 login whose response has an assertion without subject. -/
def anonymousLogin : Login where
  profile := {
    server := some { provider := {
      providerId := some "https://sp.example", conformance := .saml20 } }
    remoteProviderId := some "https://idp.example"
    response := some (.samlp2Response { assertion := [{ id := some "_x" }] }) }

/-- The login fails, and the assertion is in the session. -/
theorem anonymousLogin_recorded : ¬ AllOrNothing .refusing anonymousLogin := by
  intro h
  have hcall : anonymousLogin.acceptSso .refusing = some (.profile .missingNameIdentifier,
    recorded .refusing anonymousLogin (.saml2Assertion { id := some "_x" })) := rfl
  have hsame := ((h _ _ hcall).1 (by decide)).1.assertions "https://idp.example"
  cases hsame

end

end Login

end Lasso
