import Lasso.Session

/-!
# Adding an assertion to a session

`lasso_session_add_assertion` stores the assertion, then indexes it, then stores the assertion of
its Advice. A step that fails does not take back the ones before it.

## Main definitions

* `Session.Unchanged` — two sessions with the same contents.
* `LassoNode.indexEntries`, `LassoNode.adviceNamed` — what the steps need of an assertion.
* `Session.AddsCleanly` — the calls that fail without a trace, or do not fail.

## Main results

* `Session.addAssertion_atomic_iff` — the calls after which an error means an unchanged session.
-/

namespace Lasso

/-- The entries of the index that an assertion gives, if it can be indexed. -/
def LassoNode.indexEntries : LassoNode → Option (List NidAndSessionIndex)
  | .samlAssertion a =>
    match (a.subjectStatement.or a.authenticationStatement).bind (·.nameIdentifier),
        a.authenticationStatement with
    | some nameIdentifier, some statement =>
      if statement.isLibAuthenticationStatement then
        some (statement.sessionIndex.toList.map fun sessionIndex => {
          nameId := .samlNameIdentifier nameIdentifier
          assertionId := a.assertionId
          sessionIndex := some sessionIndex })
      else none
    | _, _ => none
  | .saml2Assertion a => a.nameId.map a.sessionEntries
  | _ => none

/-- The assertion in the Advice, if there is one, has an ID. -/
def LassoNode.adviceNamed : LassoNode → Prop
  | .samlAssertion a => ∀ node ∈ a.adviceXmlnode,
    node.isElementNode "Assertion" samlAssertionHref = true →
      (node.getProp "AssertionID").isSome
  | _ => True

namespace Session

/-- The same assertions, index entries and assertions by ID, and the same dirty flag. -/
structure Unchanged (s s' : Session) : Prop where
  assertions : ∀ providerId, s'.assertions.lookup providerId = s.assertions.lookup providerId
  index : ∀ providerId,
    s'.nidAndSessionIndexes.lookup providerId = s.nidAndSessionIndexes.lookup providerId
  assertionsById : ∀ id, s'.assertionsById.lookup id = s.assertionsById.lookup id
  isDirty : s'.isDirty = s.isDirty

/-- The session has the assertion for the provider already, or does not store any. -/
def Stores (env : Env) (s : Session) (providerId : String) (assertion : LassoNode) : Prop :=
  env.thinSessions = true ∨ s.assertions.lookup providerId = some assertion

/-- The entries are in the index already. -/
def Indexes (s : Session) (providerId : String) (entries : List NidAndSessionIndex) : Prop :=
  ∀ e ∈ entries, (s.entries providerId).any (·.sameAs e) = true

/-- Nothing fails, or the steps before the one that fails change nothing. -/
inductive AddsCleanly (env : Env) (s : Session) (assertion : LassoNode) : Option String → Prop where
  | noProvider : AddsCleanly env s assertion none
  | added {providerId : String} (hindex : assertion.indexEntries.isSome)
      (hadvice : assertion.adviceNamed) : AddsCleanly env s assertion (some providerId)
  | stored {providerId : String} (hindex : assertion.indexEntries = none)
      (hstores : s.Stores env providerId assertion) : AddsCleanly env s assertion (some providerId)
  | indexed {providerId : String} {entries : List NidAndSessionIndex}
      (hindex : assertion.indexEntries = some entries) (hadvice : ¬ assertion.adviceNamed)
      (hstores : s.Stores env providerId assertion) (hindexes : s.Indexes providerId entries)
      (hdirty : s.isDirty = true) : AddsCleanly env s assertion (some providerId)

section

variable {env : Env} {s : Session} {providerId : String} {assertion : LassoNode}

theorem lookup_insert_eq_self_iff {α : Type*} {t : AList fun _ : String => α} {key : String}
    {value : α} :
    (∀ k, (t.insert key value).lookup k = t.lookup k) ↔ t.lookup key = some value := by
  constructor
  · intro h
    rw [← h key, AList.lookup_insert]
  · intro h k
    by_cases hk : k = key
    · rw [hk, AList.lookup_insert, h]
    · exact AList.lookup_insert_ne hk

/-- An assertion that can be indexed adds its entries. -/
theorem addAssertionNidAndSessionIndex_of_some (s : Session) (providerId : String)
    {entries : List NidAndSessionIndex} (h : assertion.indexEntries = some entries) :
    s.addAssertionNidAndSessionIndex providerId assertion =
      (.ok, entries.foldl (addNidAndSessionIndex · providerId ·) s) := by
  cases assertion with
  | samlAssertion a =>
    simp only [LassoNode.indexEntries] at h
    split at h
    · rename_i nameIdentifier statement hname hstatement
      obtain ⟨ss, hss, hname⟩ := Option.bind_eq_some_iff.mp hname
      split_ifs at h with hlib
      cases h
      rw [hstatement] at hss
      simp only [addAssertionNidAndSessionIndex, hstatement, hss, hname, hlib]
      cases statement.sessionIndex <;> rfl
    · cases h
  | saml2Assertion a =>
    obtain ⟨nameId, hname, rfl⟩ := Option.map_eq_some_iff.mp h
    simp only [addAssertionNidAndSessionIndex, hname]
  | _ => cases h

/-- An assertion that cannot be indexed is an error, and the index stays as it is. -/
theorem addAssertionNidAndSessionIndex_of_none (s : Session) (providerId : String)
    (h : assertion.indexEntries = none) :
    ∃ rc, rc ≠ .ok ∧ s.addAssertionNidAndSessionIndex providerId assertion = (rc, s) := by
  cases assertion with
  | samlAssertion a =>
    simp only [LassoNode.indexEntries] at h
    simp only [addAssertionNidAndSessionIndex]
    cases hss : a.subjectStatement.or a.authenticationStatement with
    | none => exact ⟨_, by simp, rfl⟩
    | some ss =>
      cases hname : ss.nameIdentifier with
      | none => exact ⟨.param .invalidValue, by simp, by simp only [hname]⟩
      | some nameIdentifier =>
        cases hstatement : a.authenticationStatement with
        | none => exact ⟨.unimplemented, by simp, by simp only [hname]⟩
        | some statement =>
          rw [hss, Option.bind_some, hname, hstatement] at h
          dsimp only at h
          split_ifs at h with hlib
          exact ⟨.unimplemented, by simp, by simp [hname, hlib]⟩
  | saml2Assertion a =>
    have hname : a.nameId = none := Option.map_eq_none_iff.mp h
    exact ⟨.param .invalidValue, by simp, by simp only [addAssertionNidAndSessionIndex, hname]⟩
  | _ => exact ⟨.unimplemented, by simp, rfl⟩

/-- Entries leave the index as it is if and only if they are in it. -/
theorem lookup_foldl_addNidAndSessionIndex_iff (s : Session) (providerId : String)
    (es : List NidAndSessionIndex) :
    (∀ id, (es.foldl (addNidAndSessionIndex · providerId ·) s).nidAndSessionIndexes.lookup id =
        s.nidAndSessionIndexes.lookup id) ↔ s.Indexes providerId es := by
  constructor
  · intro h
    obtain ⟨added, hentries, -, hnil⟩ := entries_foldl_addNidAndSessionIndex s providerId es
    rw [entries, h providerId] at hentries
    exact hnil.mp (List.self_eq_append_right.mp hentries)
  · intro h
    induction es with
    | nil => exact fun _ => rfl
    | cons e es ih =>
      obtain ⟨hhead, htail⟩ := List.forall_mem_cons.mp h
      have hsame : s.addNidAndSessionIndex providerId e = s := if_pos hhead
      rw [List.foldl_cons, hsame]
      exact ih htail

/-- Indexing changes nothing besides the index. -/
theorem foldl_addNidAndSessionIndex_eq (s : Session) (providerId : String)
    (es : List NidAndSessionIndex) :
    ∃ index, es.foldl (addNidAndSessionIndex · providerId ·) s =
      { s with nidAndSessionIndexes := index } := by
  induction es generalizing s with
  | nil => exact ⟨s.nidAndSessionIndexes, rfl⟩
  | cons e es ih =>
    obtain ⟨index, hindex⟩ := ih (s := s.addNidAndSessionIndex providerId e)
    rw [List.foldl_cons, hindex]
    unfold addNidAndSessionIndex
    split_ifs
    · exact ⟨_, rfl⟩
    · exact ⟨_, rfl⟩

/-- The assertion of the Advice is stored by its ID, which fails without one. -/
theorem addAdviceAssertion_fst (s : Session) (assertion : LassoNode) :
    (s.addAdviceAssertion assertion).1 = .ok ↔ assertion.adviceNamed := by
  cases assertion with
  | samlAssertion a =>
    simp only [addAdviceAssertion, LassoNode.adviceNamed]
    cases a.adviceXmlnode with
    | none => simp
    | some node =>
      by_cases hnode : node.isElementNode "Assertion" samlAssertionHref = true
      · cases hid : node.getProp "AssertionID" <;> simp [hnode, hid, addAssertionWithId]
      · simp [hnode]
  | _ => simp [addAdviceAssertion, LassoNode.adviceNamed]

theorem addAdviceAssertion_of_not_named (s : Session) (h : ¬ assertion.adviceNamed) :
    (s.addAdviceAssertion assertion).2 = s := by
  cases assertion with
  | samlAssertion a =>
    simp only [LassoNode.adviceNamed, not_forall] at h
    obtain ⟨node, hnode, helement, hid⟩ := h
    have hid : node.getProp "AssertionID" = none := by simpa using hid
    simp [addAdviceAssertion, Option.mem_def.mp hnode, helement, hid, addAssertionWithId]
  | _ => exact absurd trivial h

/-- The session once the assertion is stored. -/
def stored (env : Env) (s : Session) (providerId : String) (assertion : LassoNode) : Session :=
  if env.thinSessions then s
  else { s with assertions := s.assertions.insert providerId assertion }

theorem addAssertionSimple_some :
    s.addAssertionSimple env (some providerId) assertion =
      (.ok, s.stored env providerId assertion) := by
  simp only [addAssertionSimple, stored]
  split_ifs <;> rfl

/-- An assertion that cannot be indexed is stored, and an error. -/
theorem addAssertion_of_unindexed (h : assertion.indexEntries = none) :
    ∃ rc, rc ≠ .ok ∧ s.addAssertion env (some providerId) assertion =
      (rc, s.stored env providerId assertion) := by
  obtain ⟨rc, hrc, hindex⟩ := addAssertionNidAndSessionIndex_of_none
    (s.stored env providerId assertion) providerId h
  refine ⟨rc, hrc, ?_⟩
  simp only [addAssertion, addAssertionSimple_some, Option.getD_some, hindex]

/-- Any other one is stored and indexed, and marks the session whatever becomes of its Advice. -/
theorem addAssertion_of_indexed {entries : List NidAndSessionIndex}
    (h : assertion.indexEntries = some entries) :
    s.addAssertion env (some providerId) assertion =
      let result := (entries.foldl (addNidAndSessionIndex · providerId ·)
        (s.stored env providerId assertion)).addAdviceAssertion assertion
      (result.1, { result.2 with isDirty := true }) := by
  simp only [addAssertion, addAssertionSimple_some, Option.getD_some,
    addAssertionNidAndSessionIndex_of_some _ providerId h]

theorem stores_iff : s.Stores env providerId assertion ↔
    ∀ id, (s.stored env providerId assertion).assertions.lookup id = s.assertions.lookup id := by
  unfold Stores stored
  by_cases hthin : env.thinSessions = true
  · simp [hthin]
  · simp only [hthin, if_false, Bool.false_eq_true, false_or]
    exact lookup_insert_eq_self_iff.symm

@[simp] theorem stored_nidAndSessionIndexes :
    (s.stored env providerId assertion).nidAndSessionIndexes = s.nidAndSessionIndexes := by
  unfold stored
  split_ifs <;> rfl

@[simp] theorem stored_assertionsById :
    (s.stored env providerId assertion).assertionsById = s.assertionsById := by
  unfold stored
  split_ifs <;> rfl

theorem indexes_stored_iff {entries : List NidAndSessionIndex} :
    (s.stored env providerId assertion).Indexes providerId entries ↔
      s.Indexes providerId entries := by
  unfold Indexes Session.entries
  rw [stored_nidAndSessionIndexes]

theorem unchanged_stored_iff : s.Unchanged (s.stored env providerId assertion) ↔
    s.Stores env providerId assertion := by
  rw [stores_iff]
  refine ⟨fun h => h.assertions, fun h => ⟨h, ?_, ?_, ?_⟩⟩
  all_goals
    unfold stored
    split_ifs <;> simp

/-- The steps before a nameless Advice change nothing if and only if the session has it all. -/
theorem unchanged_indexed_iff (entries : List NidAndSessionIndex) :
    s.Unchanged { entries.foldl (addNidAndSessionIndex · providerId ·)
        (s.stored env providerId assertion) with isDirty := true } ↔
      s.Stores env providerId assertion ∧ s.Indexes providerId entries ∧ s.isDirty = true := by
  obtain ⟨index, hindex⟩ := foldl_addNidAndSessionIndex_eq (s.stored env providerId assertion)
    providerId entries
  rw [stores_iff, ← @indexes_stored_iff env s providerId assertion entries,
    ← lookup_foldl_addNidAndSessionIndex_iff, stored_nidAndSessionIndexes, hindex]
  constructor
  · exact fun h => ⟨h.assertions, h.index, h.isDirty.symm⟩
  · rintro ⟨hassertions, hindexes, hdirty⟩
    exact ⟨hassertions, hindexes, fun id => by rw [stored_assertionsById], hdirty.symm⟩

/-- An error means an unchanged session, and success a marked one, if and only if nothing fails or
the steps before the one that fails find their work done. -/
theorem addAssertion_atomic_iff (env : Env) (s : Session) (providerId : Option String)
    (assertion : LassoNode) :
    ((s.addAssertion env providerId assertion).1 ≠ .ok →
        s.Unchanged (s.addAssertion env providerId assertion).2) ∧
      ((s.addAssertion env providerId assertion).1 = .ok →
        (s.addAssertion env providerId assertion).2.isDirty = true) ↔
      s.AddsCleanly env assertion providerId := by
  cases providerId with
  | none =>
    have hcall : s.addAssertion env none assertion = (.param .invalidValue, s) := rfl
    rw [hcall]
    refine iff_of_true ⟨fun _ => ⟨?_, ?_, ?_, rfl⟩, by simp⟩ .noProvider
    all_goals exact fun _ => rfl
  | some providerId =>
    cases hindex : assertion.indexEntries with
    | none =>
      obtain ⟨rc, hrc, hcall⟩ := addAssertion_of_unindexed hindex
      rw [hcall]
      simp only [ne_eq, hrc, not_false_eq_true, forall_const, false_imp_iff, and_true]
      rw [unchanged_stored_iff]
      constructor
      · exact .stored hindex
      · intro h
        cases h with
        | added hadded => simp [hindex] at hadded
        | stored _ hstores => exact hstores
        | indexed hindexed => cases hindex.symm.trans hindexed
    | some entries =>
      have hcall : s.addAssertion env (some providerId) assertion = _ :=
        addAssertion_of_indexed hindex
      by_cases hadvice : assertion.adviceNamed
      · have hok := (addAdviceAssertion_fst (entries.foldl (addNidAndSessionIndex · providerId ·)
          (s.stored env providerId assertion)) assertion).mpr hadvice
        rw [hcall]
        exact iff_of_true ⟨fun hne => absurd hok hne, fun _ => rfl⟩
          (.added (by simp [hindex]) hadvice)
      · have hne := (addAdviceAssertion_fst (entries.foldl (addNidAndSessionIndex · providerId ·)
          (s.stored env providerId assertion)) assertion).not.mpr hadvice
        rw [hcall]
        dsimp only
        rw [addAdviceAssertion_of_not_named _ hadvice]
        simp only [ne_eq, hne, not_false_eq_true, forall_const, false_imp_iff, and_true]
        rw [unchanged_indexed_iff]
        constructor
        · rintro ⟨hstores, hindexes, hdirty⟩
          exact .indexed hindex hadvice hstores hindexes hdirty
        · intro h
          cases h with
          | added _ hnamed => exact absurd hnamed hadvice
          | stored hnone => cases hindex.symm.trans hnone
          | indexed hentries _ hstores hindexes hdirty =>
            cases hindex.symm.trans hentries
            exact ⟨hstores, hindexes, hdirty⟩

/-- An assertion whose subject has no NameID. -/
def namelessAssertion : LassoNode := .saml2Assertion { id := some "_a" }

/-- It is refused and stays in the session, which is not marked. -/
theorem namelessAssertion_left :
    (addAssertion .refusing {} (some "https://idp.example") namelessAssertion).1 ≠ .ok ∧
      ¬ Unchanged {} (addAssertion .refusing {} (some "https://idp.example")
        namelessAssertion).2 := by
  constructor
  · intro h
    cases h
  · intro h
    cases h.assertions "https://idp.example"

end

end Session

end Lasso
