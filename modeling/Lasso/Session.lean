import Mathlib.Data.List.AList
import Lasso.Env
import Lasso.ErrorCode
import Lasso.Messages.IdFf
import Lasso.Strings

/-!
# Sessions

A session holds the assertions received from or issued to each provider, and beside them an index
of the (NameID, SessionIndex) pairs of their authentication statements. The index is what logout
and replay detection work with.
-/

namespace Lasso

/-- `struct _NidAndSessionIndex` -/
structure NidAndSessionIndex where
  nameId : LassoNode
  assertionId : Option String
  sessionIndex : Option String

/-- An entry with a matching NameID and an equal SessionIndex. -/
def NidAndSessionIndex.sameAs (e other : NidAndSessionIndex) : Bool :=
  matchNameId e.nameId other.nameId && e.sessionIndex == other.sessionIndex

/-- `LassoSession`. A status that could not be restored is kept as a null pointer, a list of
providers that is not built yet as the empty list. -/
structure Session where
  assertions : AList (fun _ : String => LassoNode) := ∅
  isDirty : Bool := false
  status : AList (fun _ : String => Option LassoNode) := ∅
  assertionsById : AList (fun _ : String => XmlNode) := ∅
  nidAndSessionIndexes : AList (fun _ : String => List NidAndSessionIndex) := ∅
  providerIds : List String := []

namespace Session

/-- The index entries of a provider. -/
def entries (s : Session) (providerId : String) : List NidAndSessionIndex :=
  (s.nidAndSessionIndexes.lookup providerId).getD []

/-- `lasso_session_add_nid_and_session_index` -/
def addNidAndSessionIndex (s : Session) (providerId : String) (entry : NidAndSessionIndex) :
    Session :=
  -- do some sharing and limit doublons
  if (s.entries providerId).any (·.sameAs entry) then s
  else
    { s with
      nidAndSessionIndexes :=
        s.nidAndSessionIndexes.insert providerId (s.entries providerId ++ [entry]) }

end Session

/-- The entries that a SAML 2.0 assertion about `nameId` gives, one for each authentication
statement with a SessionIndex. -/
def Saml2Assertion.sessionEntries (a : Saml2Assertion) (nameId : Saml2NameId) :
    List NidAndSessionIndex :=
  a.authnStatement.filterMap fun statement =>
    statement.sessionIndex.map fun sessionIndex =>
      { nameId := .saml2NameId nameId, assertionId := a.id, sessionIndex := some sessionIndex }

namespace Session

/-- `lasso_session_add_assertion_nid_and_session_index` -/
def addAssertionNidAndSessionIndex (s : Session) (providerId : String) :
    LassoNode → Rc × Session
  | .samlAssertion a =>
    match a.subjectStatement.or a.authenticationStatement with
    | none => (.param .invalidValue, s)
    | some ss =>
      match ss.nameIdentifier with
      | none => (.param .invalidValue, s)
      | some nameIdentifier =>
        match a.authenticationStatement with
        | none => (.unimplemented, s)
        | some authStatement =>
          if !authStatement.isLibAuthenticationStatement then (.unimplemented, s)
          else
            match authStatement.sessionIndex with
            | none => (.ok, s)
            | some sessionIndex =>
              (.ok, s.addNidAndSessionIndex providerId {
                nameId := .samlNameIdentifier nameIdentifier
                assertionId := a.assertionId
                sessionIndex := some sessionIndex })
  | .saml2Assertion a =>
    match a.nameId with
    | none => (.param .invalidValue, s)
    | some nameId =>
      (.ok, (a.sessionEntries nameId).foldl (addNidAndSessionIndex · providerId ·) s)
  | _ => (.unimplemented, s)

/-- `lasso_session_add_assertion_simple` -/
def addAssertionSimple (env : Env) (s : Session) (providerId : Option String)
    (assertion : LassoNode) : Rc × Session :=
  match providerId with
  | none => (.param .invalidValue, s)
  | some providerId =>
    -- do not store the full assertion in a thin session
    if env.thinSessions then (.ok, s)
    else (.ok, { s with assertions := s.assertions.insert providerId assertion })

/-- `lasso_session_add_assertion_with_id` -/
def addAssertionWithId (s : Session) (assertionId : Option String) (assertion : XmlNode) :
    Rc × Session :=
  match assertionId with
  | none => (.param .invalidValue, s)
  | some assertionId =>
    (.ok, { s with
      assertionsById := s.assertionsById.insert assertionId assertion, isDirty := true })

/-- The assertion in the Advice of an ID-FF assertion is kept by its ID. -/
def addAdviceAssertion (s : Session) : LassoNode → Rc × Session
  | .samlAssertion a =>
    match a.adviceXmlnode with
    | some node =>
      if node.isElementNode "Assertion" samlAssertionHref then
        s.addAssertionWithId (node.getProp "AssertionID") node
      else (.ok, s)
    | none => (.ok, s)
  | _ => (.ok, s)

/-- `lasso_session_add_assertion` -/
def addAssertion (env : Env) (s : Session) (providerId : Option String) (assertion : LassoNode) :
    Rc × Session :=
  match s.addAssertionSimple env providerId assertion with
  | (.ok, s) =>
    match s.addAssertionNidAndSessionIndex (providerId.getD "") assertion with
    | (.ok, s) =>
      let (ret, s) := s.addAdviceAssertion assertion
      (ret, { s with isDirty := true })
    | (ret, s) => (ret, s)
  | (ret, s) => (ret, s)

/-- `lasso_session_add_status` -/
def addStatus (s : Session) (providerId : Option String) (status : LassoNode) : Rc × Session :=
  match providerId with
  | none => (.param .invalidValue, s)
  | some providerId =>
    (.ok, { s with status := s.status.insert providerId (some status), isDirty := true })

/-- `lasso_session_get_assertion` -/
def getAssertion (s : Session) (providerId : String) : Option LassoNode :=
  s.assertions.lookup providerId

/-- `lasso_session_get_assertion_by_id` -/
def getAssertionById (s : Session) (assertionId : String) : Option XmlNode :=
  s.assertionsById.lookup assertionId

/-- `lasso_session_get_status` -/
def getStatus (s : Session) (providerId : String) : Option LassoNode :=
  (s.status.lookup providerId).join

/-- `lasso_session_get_session_indexes` -/
def getSessionIndexes (s : Session) (providerId : String) (node : Option LassoNode) :
    List String :=
  (s.entries providerId).filterMap fun e =>
    if node.all fun node => matchNameId node e.nameId then e.sessionIndex else none

/-- `lasso_session_get_name_ids` -/
def getNameIds (s : Session) (providerId : String) : List LassoNode :=
  (s.entries providerId).foldl (fun ret e =>
    if ret.any (matchNameId · e.nameId) then ret else ret ++ [e.nameId]) []

/-- `lasso_session_get_assertion_ids` -/
def getAssertionIds (s : Session) (providerId : Option String) : List String :=
  match providerId with
  | none => []
  | some providerId => (s.entries providerId).filterMap (·.assertionId)

/-- `lasso_session_count_assertions` -/
def countAssertions (env : Env) (s : Session) : Nat :=
  if env.thinSessions then s.nidAndSessionIndexes.keys.length else s.assertions.keys.length

/-- `lasso_session_has_slo_session` -/
def hasSloSession (s : Session) (providerId : String) : Bool :=
  (s.nidAndSessionIndexes.lookup providerId).isSome

/-- `lasso_session_remove_assertion` -/
def removeAssertion (s : Session) (providerId : Option String) : Rc × Session :=
  match providerId with
  | none => (.param .invalidValue, s)
  | some providerId =>
    if providerId = "" then (.param .invalidValue, s)
    else if providerId ∈ s.assertions ∨ providerId ∈ s.nidAndSessionIndexes then
      (.ok, { s with
        assertions := s.assertions.erase providerId
        nidAndSessionIndexes := s.nidAndSessionIndexes.erase providerId
        isDirty := true })
    else (.profile .missingAssertion, s)

/-- `lasso_session_remove_status` -/
def removeStatus (s : Session) (providerId : Option String) : Rc × Session :=
  match providerId with
  | none => (.param .invalidValue, s)
  | some providerId =>
    if providerId ∈ s.status then
      (.ok, { s with status := s.status.erase providerId, isDirty := true })
    else (.profile .missingStatusCode, s)

/-! ## What an added assertion changes -/

section

variable {env : Env} {s : Session} {providerId : String}

@[simp] theorem addNidAndSessionIndex_assertions (entry : NidAndSessionIndex) :
    (s.addNidAndSessionIndex providerId entry).assertions = s.assertions := by
  unfold addNidAndSessionIndex
  split_ifs <;> rfl

theorem addAssertionNidAndSessionIndex_assertions (s : Session) (providerId : String)
    (assertion : LassoNode) :
    (s.addAssertionNidAndSessionIndex providerId assertion).2.assertions = s.assertions := by
  have hfold (entries : List NidAndSessionIndex) (s : Session) :
      (entries.foldl (addNidAndSessionIndex · providerId ·) s).assertions = s.assertions := by
    induction entries generalizing s with
    | nil => rfl
    | cons e entries ih => rw [List.foldl_cons, ih, addNidAndSessionIndex_assertions]
  unfold addAssertionNidAndSessionIndex
  split
  · repeat' split
    all_goals simp
  · split
    · rfl
    · exact hfold _ s
  · rfl

theorem addAdviceAssertion_assertions (assertion : LassoNode) :
    (s.addAdviceAssertion assertion).2.assertions = s.assertions := by
  unfold addAdviceAssertion addAssertionWithId
  repeat' split
  all_goals rfl

theorem addAssertion_assertions (assertion : LassoNode) :
    (s.addAssertion env (some providerId) assertion).2.assertions =
      if env.thinSessions then s.assertions else s.assertions.insert providerId assertion := by
  set stored := if env.thinSessions then s.assertions else s.assertions.insert providerId assertion
  have hsimple : s.addAssertionSimple env (some providerId) assertion =
      (.ok, { s with assertions := stored }) := by
    unfold addAssertionSimple
    dsimp only
    split_ifs with hthin <;> simp [stored, hthin]
  have hindex := addAssertionNidAndSessionIndex_assertions
    { s with assertions := stored } providerId assertion
  unfold addAssertion
  rw [hsimple]
  dsimp only [Option.getD_some]
  generalize addAssertionNidAndSessionIndex _ providerId assertion = result at hindex ⊢
  obtain ⟨ret, s'⟩ := result
  split
  · rename_i heq
    cases heq
    exact (addAdviceAssertion_assertions assertion).trans hindex
  · rename_i heq
    cases heq
    exact hindex

/-- Outside thin sessions the added assertion is the one stored for the provider. -/
theorem getAssertion_addAssertion (hthin : env.thinSessions = false) (assertion : LassoNode) :
    (s.addAssertion env (some providerId) assertion).2.getAssertion providerId =
      some assertion := by
  simp [getAssertion, addAssertion_assertions, hthin]

/-- A thin session keeps what it had stored. -/
theorem getAssertion_addAssertion_thin (hthin : env.thinSessions = true)
    (assertion : LassoNode) :
    (s.addAssertion env (some providerId) assertion).2.getAssertion providerId =
      s.getAssertion providerId := by
  simp [getAssertion, addAssertion_assertions, hthin]

theorem entries_addNidAndSessionIndex (e : NidAndSessionIndex) :
    (s.addNidAndSessionIndex providerId e).entries providerId =
      if (s.entries providerId).any (·.sameAs e) then s.entries providerId
      else s.entries providerId ++ [e] := by
  unfold addNidAndSessionIndex
  split_ifs
  · rfl
  · simp [entries]

/-- The index grows by those of the entries that are no doublons; it stays as it is only if all of
them are doublons of entries that were there. -/
theorem entries_foldl_addNidAndSessionIndex (s : Session) (providerId : String)
    (es : List NidAndSessionIndex) :
    ∃ added, (es.foldl (addNidAndSessionIndex · providerId ·) s).entries providerId =
        s.entries providerId ++ added ∧ (∀ e ∈ added, e ∈ es) ∧
      (added = [] ↔ ∀ e ∈ es, (s.entries providerId).any (·.sameAs e) = true) := by
  induction es generalizing s with
  | nil => exact ⟨[], by simp, by simp, by simp⟩
  | cons e es ih =>
    obtain ⟨added, hentries, hmem, hnil⟩ := ih (s := s.addNidAndSessionIndex providerId e)
    rw [entries_addNidAndSessionIndex] at hentries hnil
    rw [List.foldl_cons, hentries]
    by_cases hsame : (s.entries providerId).any (·.sameAs e) = true
    · rw [if_pos hsame] at hnil ⊢
      refine ⟨added, rfl, fun e' he' => List.mem_cons_of_mem e (hmem e' he'), ?_⟩
      rw [hnil, List.forall_mem_cons, and_iff_right hsame]
    · rw [if_neg hsame]
      refine ⟨e :: added, by simp, ?_, ?_⟩
      · intro e' he'
        rcases List.mem_cons.mp he' with rfl | he'
        · exact List.mem_cons_self
        · exact List.mem_cons_of_mem e (hmem e' he')
      · exact iff_of_false (by simp) fun h => hsame (h e List.mem_cons_self)

/-- What a SAML 2.0 assertion adds to the index of its provider. -/
theorem entries_addAssertion_saml2 (env : Env) (s : Session) (providerId : String)
    (a : Saml2Assertion) :
    ∃ added, (s.addAssertion env (some providerId) (.saml2Assertion a)).2.entries providerId =
        s.entries providerId ++ added ∧ (∀ e ∈ added, e.assertionId = a.id) ∧
      (added = [] ↔ ∀ nameId ∈ a.nameId, ∀ e ∈ a.sessionEntries nameId,
        (s.entries providerId).any (·.sameAs e) = true) := by
  have hsimple (s : Session) : ∃ assertions,
      s.addAssertionSimple env (some providerId) (.saml2Assertion a) =
        (.ok, { s with assertions := assertions }) := by
    unfold addAssertionSimple
    dsimp only
    split_ifs
    · exact ⟨s.assertions, rfl⟩
    · exact ⟨_, rfl⟩
  obtain ⟨assertions, hstored⟩ := hsimple s
  unfold addAssertion
  rw [hstored]
  dsimp only [Option.getD_some, addAssertionNidAndSessionIndex]
  cases hnameId : a.nameId with
  | none => exact ⟨[], by simp [entries], by simp, by simp⟩
  | some nameId =>
    obtain ⟨added, hentries, hmem, hnil⟩ := entries_foldl_addNidAndSessionIndex
      { s with assertions := assertions } providerId (a.sessionEntries nameId)
    refine ⟨added, hentries, ?_, ?_⟩
    · intro e he
      obtain ⟨statement, -, hstatement⟩ := List.mem_filterMap.mp (hmem e he)
      obtain ⟨sessionIndex, -, rfl⟩ := Option.map_eq_some_iff.mp hstatement
      rfl
    · rw [hnil]
      simp only [Option.mem_def, Option.some.injEq, forall_eq']
      rfl

theorem mem_getAssertionIds {x : String} :
    x ∈ s.getAssertionIds (some providerId) ↔
      ∃ e ∈ s.entries providerId, e.assertionId = some x := by
  simp [getAssertionIds]

/-- The ID of an added assertion is found afterwards only if it was known, or if an entry of the
assertion is new to the index. -/
theorem mem_getAssertionIds_addAssertion (a : Saml2Assertion) {x : String} :
    x ∈ (s.addAssertion env (some providerId) (.saml2Assertion a)).2.getAssertionIds
        (some providerId) ↔
      x ∈ s.getAssertionIds (some providerId) ∨ a.id = some x ∧
        ∃ nameId ∈ a.nameId, ∃ e ∈ a.sessionEntries nameId,
          ¬ (s.entries providerId).any (·.sameAs e) = true := by
  obtain ⟨added, hentries, hid, hnil⟩ :=
    entries_addAssertion_saml2 env s providerId a
  have hnew : added ≠ [] ↔ ∃ nameId ∈ a.nameId, ∃ e ∈ a.sessionEntries nameId,
      ¬ (s.entries providerId).any (·.sameAs e) = true := by
    rw [Ne, hnil]
    push Not
    rfl
  rw [mem_getAssertionIds, mem_getAssertionIds, hentries, ← hnew]
  constructor
  · rintro ⟨e, he, hx⟩
    rcases List.mem_append.mp he with he | he
    · exact .inl ⟨e, he, hx⟩
    · exact .inr ⟨(hid e he).symm.trans hx, List.ne_nil_of_mem he⟩
  · rintro (⟨e, he, hx⟩ | ⟨hx, hne⟩)
    · exact ⟨e, List.mem_append_left added he, hx⟩
    · obtain ⟨e, he⟩ := List.exists_mem_of_ne_nil _ hne
      exact ⟨e, List.mem_append_right _ he, (hid e he).trans hx⟩

end

end Session

end Lasso
