import Lasso.Library.Distinct
import Lasso.Library.Run
import Lasso.Session.Dump

/-!
# The index of a session

Every operation on a session either adds entries to the index of a provider, each unless it is
there already, or drops the index of a provider. So the entries stay pairwise different, and since
the matching of NameIDs is symmetric and transitive, so do the answers taken from them.

## Main results

* `matchNameId_symm`, `matchNameId_trans` — the matching of NameIDs.
* `step_adds`, `step_extends` — what an operation does to the index.
* `indexed_of_reachable` — the index of every session that operations lead to.
-/

namespace Lasso

open Distinct Run

/-! ## The matching of NameIDs -/

theorem Saml2NameId.equals_iff {a b : Saml2NameId} :
    a.equals b = true ↔ a = b ∧ a.content.isSome := by
  cases a
  cases b
  simp only [Saml2NameId.equals, Bool.and_eq_true, beq_iff_eq, Saml2NameId.mk.injEq]
  grind

theorem SamlNameIdentifier.equals_iff {a b : SamlNameIdentifier} : a.equals b = true ↔ a = b := by
  cases a
  cases b
  simp only [SamlNameIdentifier.equals, Bool.and_eq_true, beq_iff_eq, SamlNameIdentifier.mk.injEq]
  tauto

/-- Only NameIDs with the same fields match. -/
theorem eq_of_matchNameId {a b : LassoNode} (h : matchNameId a b = true) : a = b := by
  unfold matchNameId at h
  split at h
  · rw [SamlNameIdentifier.equals_iff.mp h]
  · rw [(Saml2NameId.equals_iff.mp h).1]
  · cases h

theorem matchNameId_symm {a b : LassoNode} (h : matchNameId a b = true) :
    matchNameId b a = true := by
  obtain rfl := eq_of_matchNameId h
  exact h

theorem matchNameId_trans {a b c : LassoNode} (hab : matchNameId a b = true)
    (hbc : matchNameId b c = true) : matchNameId a c = true := by
  obtain rfl := eq_of_matchNameId hab
  exact hbc

theorem NidAndSessionIndex.sameAs_eq_false {e f : NidAndSessionIndex} :
    e.sameAs f = false ↔
      ¬ (matchNameId e.nameId f.nameId = true ∧ e.sessionIndex = f.sessionIndex) := by
  rw [← Bool.not_eq_true, NidAndSessionIndex.sameAs, Bool.and_eq_true, beq_iff_eq]

namespace Session

variable {codec : SessionCodec} {s s' : Session} {providerId : String}

/-! ## What an operation does to the index -/

/-- `s'` is `s` with entries added to the index one by one, and with any change of what is neither
the index nor the list of providers. -/
inductive Adds : Session → Session → Prop where
  | others {s s' : Session} (hindex : s'.nidAndSessionIndexes = s.nidAndSessionIndexes)
      (hids : s'.providerIds = s.providerIds) : Adds s s'
  | entry (s : Session) (providerId : String) (e : NidAndSessionIndex) :
      Adds s (s.addNidAndSessionIndex providerId e)
  | trans {s₁ s₂ s₃ : Session} (h : Adds s₁ s₂) (h' : Adds s₂ s₃) : Adds s₁ s₃

theorem Adds.refl (s : Session) : Adds s s := .others rfl rfl

theorem adds_foldl (providerId : String) (es : List NidAndSessionIndex) (s : Session) :
    Adds s (es.foldl (addNidAndSessionIndex · providerId ·) s) := by
  induction es generalizing s with
  | nil => exact .refl s
  | cons e es ih => exact (Adds.entry s providerId e).trans (ih _)

theorem adds_addAssertionNidAndSessionIndex (s : Session) (providerId : String)
    (assertion : LassoNode) :
    Adds s (s.addAssertionNidAndSessionIndex providerId assertion).2 := by
  unfold addAssertionNidAndSessionIndex
  split
  · repeat' split
    all_goals first | exact .refl s | exact .entry s providerId _
  · split
    · exact .refl s
    · exact adds_foldl providerId _ s
  · exact .refl s

theorem adds_addAssertionSimple (env : Env) (s : Session) (providerId : Option String)
    (assertion : LassoNode) : Adds s (s.addAssertionSimple env providerId assertion).2 := by
  unfold addAssertionSimple
  repeat' split
  all_goals exact .others rfl rfl

theorem adds_addAssertionWithId (s : Session) (assertionId : Option String)
    (assertion : XmlNode) : Adds s (s.addAssertionWithId assertionId assertion).2 := by
  unfold addAssertionWithId
  split <;> exact .others rfl rfl

theorem adds_addAdviceAssertion (s : Session) (assertion : LassoNode) :
    Adds s (s.addAdviceAssertion assertion).2 := by
  unfold addAdviceAssertion
  repeat' split
  all_goals first | exact .refl s | exact adds_addAssertionWithId s _ _

theorem adds_addStatus (s : Session) (providerId : Option String) (status : LassoNode) :
    Adds s (s.addStatus providerId status).2 := by
  unfold addStatus
  split <;> exact .others rfl rfl

theorem adds_removeStatus (s : Session) (providerId : Option String) :
    Adds s (s.removeStatus providerId).2 := by
  unfold removeStatus
  repeat' split
  all_goals exact .others rfl rfl

theorem adds_addAssertion (env : Env) (s : Session) (providerId : Option String)
    (assertion : LassoNode) : Adds s (s.addAssertion env providerId assertion).2 := by
  have hsimple := adds_addAssertionSimple env s providerId assertion
  unfold addAssertion
  split
  · rename_i s₁ hs₁
    rw [hs₁] at hsimple
    have hindex := adds_addAssertionNidAndSessionIndex s₁ (providerId.getD "") assertion
    split
    · rename_i s₂ hs₂
      rw [hs₂] at hindex
      exact (hsimple.trans hindex).trans ((adds_addAdviceAssertion s₂ assertion).trans
        (.others rfl rfl))
    · rename_i ret s₂ hs₂
      rw [hs₂] at hindex
      exact hsimple.trans hindex
  · rename_i ret s₁ hs₁
    rw [hs₁] at hsimple
    exact hsimple

theorem adds_initFromXmlChild (codec : SessionCodec) (s : Session) (t : XmlNode) :
    Adds s (s.initFromXmlChild codec t) := by
  have hassertion (s : Session) : Adds s (s.initFromXmlAssertion codec t) := by
    unfold initFromXmlAssertion
    repeat' split
    all_goals first
      | exact .refl s
      | exact adds_addAssertionWithId s _ _
      | exact (adds_addAssertionSimple _ s _ _).trans
          (adds_addAssertionNidAndSessionIndex _ _ _)
  have hstatus (s : Session) : Adds s (s.initFromXmlStatus codec t) := by
    unfold initFromXmlStatus
    split <;> exact .others rfl rfl
  have hindex (s : Session) : Adds s (s.initFromXmlNidAndSessionIndex codec t) := by
    unfold initFromXmlNidAndSessionIndex
    repeat' split
    all_goals first | exact .refl s | exact .entry s _ _
  have hif (c : Prop) [Decidable c] (f : Session → Session) (hf : ∀ s, Adds s (f s))
      (s : Session) : Adds s (if c then f s else s) := by
    split_ifs
    · exact hf s
    · exact .refl s
  exact ((hif _ _ hassertion s).trans (hif _ _ hstatus _)).trans (hif _ _ hindex _)

theorem adds_initFromXml (codec : SessionCodec) (s : Session) (xmlnode : XmlNode) :
    Adds s (initFromXml codec s xmlnode) := by
  unfold initFromXml
  induction xmlnode.children generalizing s with
  | nil => exact .refl s
  | cons t children ih => exact (adds_initFromXmlChild codec s t).trans (ih _)

/-- An operation adds to the index of the session it finds or of the empty one, or else drops one
provider from it. -/
theorem step_adds (codec : SessionCodec) (s : Session) (e : Event) :
    Adds s (s.step codec e) ∨ Adds {} (s.step codec e) ∨
      ∃ providerId, (s.step codec e).nidAndSessionIndexes =
          s.nidAndSessionIndexes.erase providerId ∧
        (s.step codec e).providerIds = s.providerIds := by
  cases e with
  | addAssertion providerId assertion => exact .inl (adds_addAssertion _ s providerId assertion)
  | addAssertionWithId assertionId assertion =>
    exact .inl (adds_addAssertionWithId s assertionId assertion)
  | addStatus providerId status => exact .inl (adds_addStatus s providerId status)
  | removeAssertion providerId =>
    simp only [step, removeAssertion]
    cases providerId with
    | none => exact .inl (.refl s)
    | some providerId =>
      dsimp only
      split_ifs
      · exact .inl (.refl s)
      · exact .inr (.inr ⟨providerId, rfl, rfl⟩)
      · exact .inl (.refl s)
  | removeStatus providerId => exact .inl (adds_removeStatus s providerId)
  | restore dump => exact .inr (.inl (adds_initFromXml codec {} dump))

/-! ## What an operation does to the entries of a provider -/

/-- The index of `s'` is that of `s` with more entries, added one by one. -/
def Extends (s s' : Session) : Prop :=
  ∀ p, ∃ es, s'.entries p = insertAll NidAndSessionIndex.sameAs (s.entries p) es

theorem Extends.trans {s₁ s₂ s₃ : Session} (h : Extends s₁ s₂) (h' : Extends s₂ s₃) :
    Extends s₁ s₃ := by
  intro p
  obtain ⟨es, hes⟩ := h p
  obtain ⟨es', hes'⟩ := h' p
  exact ⟨es ++ es', by rw [hes', hes, insertAll_append]⟩

theorem entries_addNidAndSessionIndex_of_ne {p : String} (h : p ≠ providerId)
    (e : NidAndSessionIndex) : (s.addNidAndSessionIndex providerId e).entries p = s.entries p := by
  unfold addNidAndSessionIndex
  split_ifs
  · rfl
  · simp [entries, AList.lookup_insert_ne h]

theorem extends_addNidAndSessionIndex (s : Session) (providerId : String)
    (e : NidAndSessionIndex) : Extends s (s.addNidAndSessionIndex providerId e) := by
  intro p
  by_cases hp : p = providerId
  · subst hp
    exact ⟨[e], entries_addNidAndSessionIndex e⟩
  · exact ⟨[], entries_addNidAndSessionIndex_of_ne hp e⟩

theorem Adds.extends (h : Adds s s') : Extends s s' := by
  induction h with
  | others hindex _ => exact fun p => ⟨[], by simp [entries, hindex]⟩
  | entry s providerId e => exact extends_addNidAndSessionIndex s providerId e
  | trans _ _ ih ih' => exact ih.trans ih'

theorem entries_erase (p : String) :
    (s.nidAndSessionIndexes.erase providerId |>.lookup p).getD [] =
      if p = providerId then [] else s.entries p := by
  split_ifs with hp
  · subst hp
    simp
  · rw [AList.lookup_erase_ne hp]
    rfl

/-- An operation extends the index of the session it finds or of the empty one, or else drops the
entries of one provider. -/
theorem step_extends (codec : SessionCodec) (s : Session) (e : Event) :
    Extends s (s.step codec e) ∨ Extends {} (s.step codec e) ∨
      ∃ providerId, ∀ p,
        (s.step codec e).entries p = if p = providerId then [] else s.entries p := by
  rcases step_adds codec s e with hadds | hadds | ⟨providerId, herase, -⟩
  · exact .inl hadds.extends
  · exact .inr (.inl hadds.extends)
  · refine .inr (.inr ⟨providerId, fun p => ?_⟩)
    rw [← entries_erase, ← herase]
    rfl

/-! ## The invariant -/

/-- No two entries of a provider have matching NameIDs and the same SessionIndex. -/
def EntriesDiffer (s : Session) : Prop := ∀ p, Unrelated NidAndSessionIndex.sameAs (s.entries p)

theorem entriesDiffer_empty : EntriesDiffer {} := fun _ => List.Pairwise.nil

theorem Extends.entriesDiffer (h : Extends s s') (hs : EntriesDiffer s) : EntriesDiffer s' := by
  intro p
  obtain ⟨es, hes⟩ := h p
  rw [hes]
  exact (hs p).insertAll

theorem EntriesDiffer.step (hs : EntriesDiffer s) (e : Event) :
    EntriesDiffer (s.step codec e) := by
  rcases step_extends codec s e with hextends | hextends | ⟨providerId, hentries⟩
  · exact hextends.entriesDiffer hs
  · exact hextends.entriesDiffer entriesDiffer_empty
  · intro p
    rw [hentries]
    split_ifs
    · exact List.Pairwise.nil
    · exact hs p

/-- The sessions that operations lead to from the empty one. -/
def Reachable (codec : SessionCodec) : Session → Prop :=
  Reaches (Session.step codec) (fun _ _ => True) (· = {})

theorem Reachable.entriesDiffer (h : Reachable codec s) : EntriesDiffer s := by
  refine Reaches.invariant ?_ (fun _ e hs _ => hs.step e) h
  rintro _ rfl
  exact entriesDiffer_empty

/-! ## The answers taken from the index -/

theorem getNameIds_eq_insertAll (s : Session) (p : String) :
    s.getNameIds p = insertAll matchNameId [] ((s.entries p).map (·.nameId)) := by
  rw [insertAll, List.foldl_map]
  rfl

theorem unrelated_getNameIds (s : Session) (p : String) :
    Unrelated matchNameId (s.getNameIds p) := by
  rw [getNameIds_eq_insertAll]
  exact Unrelated.insertAll List.Pairwise.nil

theorem covered_getNameIds {p : String} {e : NidAndSessionIndex} (he : e ∈ s.entries p) :
    e.nameId ∈ s.getNameIds p ∨ ∃ n ∈ s.getNameIds p, matchNameId n e.nameId = true := by
  rw [getNameIds_eq_insertAll]
  exact covered_insertAll (List.mem_map_of_mem he)

theorem mem_getSessionIndexes {p x : String} {n : LassoNode} :
    x ∈ s.getSessionIndexes p (some n) ↔
      ∃ e ∈ s.entries p, matchNameId n e.nameId = true ∧ e.sessionIndex = some x := by
  simp [getSessionIndexes]

/-- Entries with the same SessionIndex that match one NameID would match each other. -/
theorem EntriesDiffer.nodup_getSessionIndexes (hs : EntriesDiffer s) (p : String) (n : LassoNode) :
    (s.getSessionIndexes p (some n)).Nodup := by
  refine List.Pairwise.filterMap _ ?_ (hs p)
  intro e f hdiffer x hx y hy hxy
  simp only [Option.all_some] at hx hy
  split_ifs at hx hy with he hf
  refine NidAndSessionIndex.sameAs_eq_false.mp hdiffer ⟨?_, ?_⟩
  · exact matchNameId_trans (matchNameId_symm he) hf
  · rw [hx, hy, hxy]

/-- What holds of the index of a provider and of the answers taken from it. -/
structure Indexed (s : Session) (p : String) : Prop where
  entries : (s.entries p).Pairwise fun e f =>
    ¬ (matchNameId e.nameId f.nameId = true ∧ e.sessionIndex = f.sessionIndex)
  nameIds : (s.getNameIds p).Pairwise fun n n' => matchNameId n n' = false
  covered : ∀ e ∈ s.entries p,
    e.nameId ∈ s.getNameIds p ∨ ∃ n ∈ s.getNameIds p, matchNameId n e.nameId = true
  sessionIndexes : ∀ n, (s.getSessionIndexes p (some n)).Nodup ∧ ∀ x,
    x ∈ s.getSessionIndexes p (some n) ↔
      ∃ e ∈ s.entries p, matchNameId n e.nameId = true ∧ e.sessionIndex = some x

/-- In every session that operations lead to the entries of a provider differ from each other, the
NameIDs listed cover them without matching each other, and the SessionIndexes listed for a NameID
are those of the entries which match it, each once. -/
theorem indexed_of_reachable (h : Reachable codec s) (p : String) : Indexed s p where
  entries := (h.entriesDiffer p).imp NidAndSessionIndex.sameAs_eq_false.mp
  nameIds := unrelated_getNameIds s p
  covered _ he := covered_getNameIds he
  sessionIndexes n := ⟨h.entriesDiffer.nodup_getSessionIndexes p n, fun _ => mem_getSessionIndexes⟩

/-- Nothing can be read or written. -/
def nullCodec : SessionCodec :=
  { Env.refusing with
    newFromXmlNode := fun _ => none
    getXmlNode := fun _ _ => ⟨.element none "Node" [] [], rfl⟩
    xmlnodeToString := fun _ => []
    base64Encode := fun _ => []
    xmlParseMemory := fun _ => none
    foreachOrder := id }

/-- An assertion with two authentication statements. -/
def twoStatementAssertion : Saml2Assertion where
  id := some "_1"
  subject := some { nameId := some { content := some "user" } }
  authnStatement := [{ sessionIndex := some "s1" }, { sessionIndex := some "s2" }]

theorem indexed_of_reachable_twoStatementAssertion :
    Indexed (Session.step nullCodec {}
      (.addAssertion (some "https://idp.example") (.saml2Assertion twoStatementAssertion)))
      "https://idp.example" :=
  indexed_of_reachable (.next _ (.start rfl) trivial) _

end Session

end Lasso
