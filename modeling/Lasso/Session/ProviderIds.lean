import Lasso.Logout
import Lasso.Session.Index

/-!
# The providers of a session, one after the other

Logout asks the session for its providers by their position in a list, which is built from the
index the first time a provider is asked for. No operation that changes the index changes the list,
so what a scan returns are the providers that the index had then.

## Main definitions

* `Session.getProviderIndex`, `Logout.getNextProviderId` — the functions of the source.
* `Logout.scan` — the calls until no provider is returned, with removals between them.

## Main results

* `Logout.scan_eq` — what a scan returns.
* `Logout.returnsOthers_iff` — when these are the providers that have entries.
-/

namespace Lasso

open Run

namespace Session

/-- `lasso_session_init_provider_ids` -/
def initProviderIds (foreachOrder : List String → List String) (s : Session) : Session :=
  { s with providerIds := foreachOrder s.nidAndSessionIndexes.keys }

/-- `lasso_session_get_provider_index` -/
def getProviderIndex (foreachOrder : List String → List String) (s : Session) (index : Nat) :
    Option String × Session :=
  if s.nidAndSessionIndexes.keys.length = 0 then (none, s)
  else
    let s := if s.providerIds = [] then s.initProviderIds foreachOrder else s
    (s.providerIds[index]?, s)

/-- The operations on a session, with the look at its providers. -/
inductive ProviderEvent where
  | session (e : Event)
  | getProviderIndex (index : Nat)

def providerStep (codec : SessionCodec) (s : Session) : ProviderEvent → Session
  | .session e => s.step codec e
  | .getProviderIndex index => (s.getProviderIndex codec.foreachOrder index).2

/-- The sessions that operations lead to from the empty one, which may have listed its providers
at any time. -/
def ReachableListed (codec : SessionCodec) : Session → Prop :=
  Reaches (Session.providerStep codec) (fun _ _ => True) (· = {})

end Session

namespace Logout

/-- `lasso_logout_get_next_providerID` -/
def getNextProviderId (foreachOrder : List String → List String) (logout : Logout) :
    Option String × Logout :=
  match logout.profile.session with
  | none => (none, logout)
  | some session =>
    let index := logout.providerIdIndex
    let (providerId, session) := session.getProviderIndex foreachOrder index
    -- if it is the provider id of the SP requester, then get the next
    if providerId.isSome ∧ providerId = logout.initialRemoteProviderId then
      let (providerId, session) := session.getProviderIndex foreachOrder (index + 1)
      (providerId, { logout with
        profile := { logout.profile with session := some session }
        providerIdIndex := index + 2 })
    else
      (providerId, { logout with
        profile := { logout.profile with session := some session }
        providerIdIndex := index + 1 })

/-- Assertions are removed from the session of the principal. -/
def removeAssertions (logout : Logout) (providerIds : List String) : Logout :=
  { logout with profile := { logout.profile with
      session := logout.profile.session.map
        (providerIds.foldl fun s p => (s.removeAssertion (some p)).2) } }

/-- Calls of `getNextProviderId` until it returns nothing. What is removed after a call may depend
on all that was returned so far. -/
def scan (foreachOrder removals : List String → List String) :
    Nat → List String → Logout → Option (List String)
  | 0, _, _ => none
  | fuel + 1, returned, logout =>
    match logout.getNextProviderId foreachOrder with
    | (none, _) => some returned
    | (some providerId, logout) =>
      let returned := returned ++ [providerId]
      scan foreachOrder removals fuel returned (logout.removeAssertions (removals returned))

/-- However the assertions of providers already returned are removed, the calls come to an end and
return the providers with an entry in `s`, but for the initial one, each once. -/
def ReturnsOthers (foreachOrder : List String → List String) (logout : Logout) (s : Session) :
    Prop :=
  ∀ removals : List String → List String, (∀ returned, removals returned ⊆ returned) →
    ∃ fuel returned, scan foreachOrder removals fuel [] logout = some returned ∧ returned.Nodup ∧
      ∀ p, p ∈ returned ↔ s.entries p ≠ [] ∧ some p ≠ logout.initialRemoteProviderId

end Logout

/-! ## The list and the index -/

namespace Session

variable {codec : SessionCodec} {foreachOrder : List String → List String} {s s' : Session}
  {p q : String}

/-- What the list and the index keep: each provider is listed once, and is in the index only with
entries. -/
structure Listed (s : Session) : Prop where
  nodup : s.providerIds.Nodup
  entries_ne : ∀ p ∈ s.nidAndSessionIndexes, s.entries p ≠ []

theorem Listed.entries_ne_iff (h : Listed s) : s.entries p ≠ [] ↔ p ∈ s.nidAndSessionIndexes := by
  refine ⟨fun hne => ?_, h.entries_ne p⟩
  by_contra hp
  rw [entries, AList.lookup_eq_none.mpr hp] at hne
  exact hne rfl

theorem Listed.entries_of_empty (h : Listed s) (hempty : s.nidAndSessionIndexes.keys = []) :
    s.entries p = [] := by
  by_contra hp
  have hmem : p ∈ s.nidAndSessionIndexes.keys := h.entries_ne_iff.mp hp
  rw [hempty] at hmem
  exact List.not_mem_nil hmem

theorem listed_empty : Listed {} where
  nodup := List.nodup_nil
  entries_ne _ hp := absurd hp (AList.notMem_empty _)

theorem listed_addNidAndSessionIndex (h : Listed s) (providerId : String)
    (e : NidAndSessionIndex) : Listed (s.addNidAndSessionIndex providerId e) := by
  unfold addNidAndSessionIndex
  split_ifs with hany
  · exact h
  · refine ⟨h.nodup, fun p hp => ?_⟩
    by_cases heq : p = providerId
    · subst heq
      simp [entries]
    · have hp : p ∈ s.nidAndSessionIndexes := by simpa [heq] using hp
      simpa [entries, AList.lookup_insert_ne heq] using h.entries_ne p hp

theorem Adds.listed (h : Adds s s') (hs : Listed s) : Listed s' := by
  induction h with
  | others hindex hids =>
    refine ⟨hids ▸ hs.nodup, fun p hp => ?_⟩
    rw [hindex] at hp
    simpa [entries, hindex] using hs.entries_ne p hp
  | entry s providerId e => exact listed_addNidAndSessionIndex hs providerId e
  | trans _ _ ih ih' => exact ih' (ih hs)

theorem Listed.step (hs : Listed s) (e : Event) : Listed (s.step codec e) := by
  rcases step_adds codec s e with hadds | hadds | ⟨providerId, hindex, hids⟩
  · exact hadds.listed hs
  · exact hadds.listed listed_empty
  · refine ⟨hids ▸ hs.nodup, fun p hp => ?_⟩
    rw [hindex, AList.mem_erase] at hp
    have hentries : (s.step codec e).entries p = s.entries p := by
      rw [entries, hindex, entries_erase, if_neg hp.1]
    rw [hentries]
    exact hs.entries_ne p hp.2

/-- The list that the positions refer to. -/
def listing (foreachOrder : List String → List String) (s : Session) : List String :=
  if s.providerIds = [] then foreachOrder s.nidAndSessionIndexes.keys else s.providerIds

theorem getProviderIndex_of_empty (h : s.nidAndSessionIndexes.keys = []) (index : Nat) :
    s.getProviderIndex foreachOrder index = (none, s) := by
  simp [getProviderIndex, h]

theorem getProviderIndex_of_ne (h : s.nidAndSessionIndexes.keys ≠ []) (index : Nat) :
    s.getProviderIndex foreachOrder index =
      ((s.listing foreachOrder)[index]?, { s with providerIds := s.listing foreachOrder }) := by
  have hlength : s.nidAndSessionIndexes.keys.length ≠ 0 :=
    fun hzero => h (List.length_eq_zero_iff.mp hzero)
  unfold getProviderIndex listing initProviderIds
  rw [if_neg hlength]
  split_ifs <;> rfl

theorem listing_of_listed (h : s.providerIds ≠ []) :
    s.listing foreachOrder = s.providerIds := if_neg h

@[simp] theorem listing_with_listing :
    listing foreachOrder { s with providerIds := s.listing foreachOrder } =
      s.listing foreachOrder := by
  unfold listing
  split_ifs with h <;> simp

theorem nodup_listing (horder : ∀ keys, (foreachOrder keys).Perm keys) (hs : Listed s) :
    (s.listing foreachOrder).Nodup := by
  unfold listing
  split_ifs
  · exact (horder _).nodup_iff.mpr s.nidAndSessionIndexes.keys_nodup
  · exact hs.nodup

theorem Listed.providerStep (horder : ∀ keys, (codec.foreachOrder keys).Perm keys)
    (hs : Listed s) (e : ProviderEvent) : Listed (s.providerStep codec e) := by
  cases e with
  | session e => exact hs.step e
  | getProviderIndex index =>
    show Listed (s.getProviderIndex codec.foreachOrder index).2
    by_cases hempty : s.nidAndSessionIndexes.keys = []
    · rw [getProviderIndex_of_empty hempty]
      exact hs
    · rw [getProviderIndex_of_ne hempty]
      exact ⟨nodup_listing horder hs, hs.entries_ne⟩

theorem ReachableListed.listed (horder : ∀ keys, (codec.foreachOrder keys).Perm keys)
    (h : ReachableListed codec s) : Listed s := by
  refine Reaches.invariant ?_ (fun _ e hs _ => hs.providerStep horder e) h
  rintro _ rfl
  exact listed_empty

/-- The list, once built, is that of the providers that have entries. -/
def Current (s : Session) : Prop :=
  s.providerIds = [] ∨ ∀ p, p ∈ s.providerIds ↔ s.entries p ≠ []

/-- The operation finds no list of providers, or leaves every provider with or without entries as
it is. -/
def KeepsProviders (codec : SessionCodec) (s : Session) (e : ProviderEvent) : Prop :=
  s.providerIds = [] ∨ ∀ p, (s.providerStep codec e).entries p = [] ↔ s.entries p = []

theorem Adds.providerIds (h : Adds s s') : s'.providerIds = s.providerIds := by
  induction h with
  | others _ hids => exact hids
  | entry s providerId e =>
    unfold addNidAndSessionIndex
    split_ifs <;> rfl
  | trans _ _ ih ih' => exact ih'.trans ih

theorem mem_foreachOrder (horder : ∀ keys, (foreachOrder keys).Perm keys) (hs : Listed s) :
    p ∈ foreachOrder s.nidAndSessionIndexes.keys ↔ s.entries p ≠ [] := by
  rw [(horder _).mem_iff, hs.entries_ne_iff]
  rfl

theorem Current.step (h : Current s) (e : Event) (hkeeps : KeepsProviders codec s (.session e)) :
    Current (s.step codec e) := by
  have hids : (s.step codec e).providerIds = s.providerIds ∨
      (s.step codec e).providerIds = [] := by
    rcases step_adds codec s e with hadds | hadds | ⟨providerId, -, hids⟩
    · exact .inl hadds.providerIds
    · exact .inr hadds.providerIds
    · exact .inl hids
  rcases hids with hids | hnil
  · rcases hkeeps with hnil | hkeeps
    · exact .inl (hids.trans hnil)
    · rcases h with hnil | hlist
      · exact .inl (hids.trans hnil)
      · refine .inr fun p => ?_
        rw [hids, hlist p, Ne, Ne, ← hkeeps p]
        rfl
  · exact .inl hnil

theorem Current.getProviderIndex (horder : ∀ keys, (foreachOrder keys).Perm keys)
    (hs : Listed s) (h : Current s) (index : Nat) :
    Current (s.getProviderIndex foreachOrder index).2 := by
  by_cases hempty : s.nidAndSessionIndexes.keys = []
  · rw [getProviderIndex_of_empty hempty]
    exact h
  · rw [getProviderIndex_of_ne hempty]
    by_cases hnil : s.providerIds = []
    · refine .inr fun p => ?_
      dsimp only
      rw [listing, if_pos hnil, mem_foreachOrder horder hs]
      rfl
    · rw [listing_of_listed hnil]
      exact h

theorem current_of_keepsProviders (horder : ∀ keys, (codec.foreachOrder keys).Perm keys)
    (h : Reaches (Session.providerStep codec) (KeepsProviders codec) (· = {}) s) :
    Listed s ∧ Current s := by
  induction h with
  | start h =>
    subst h
    exact ⟨listed_empty, .inl rfl⟩
  | next e _ hkeeps ih =>
    refine ⟨ih.1.providerStep horder e, ?_⟩
    cases e with
    | session e => exact ih.2.step e hkeeps
    | getProviderIndex index => exact ih.2.getProviderIndex horder ih.1 index

/-! ## What removals keep -/

theorem removeAssertion_providerIds (providerId : Option String) :
    (s.removeAssertion providerId).2.providerIds = s.providerIds := by
  unfold removeAssertion
  repeat' split
  all_goals rfl

theorem mem_removeAssertion (hq : q ≠ p) (h : q ∈ s.nidAndSessionIndexes) :
    q ∈ (s.removeAssertion (some p)).2.nidAndSessionIndexes := by
  unfold removeAssertion
  dsimp only
  split_ifs
  · exact h
  · exact (AList.mem_erase).mpr ⟨hq, h⟩
  · exact h

variable {ps : List String}

theorem foldl_removeAssertion_providerIds (s : Session) (ps : List String) :
    (ps.foldl (fun s p => (s.removeAssertion (some p)).2) s).providerIds = s.providerIds := by
  induction ps generalizing s with
  | nil => rfl
  | cons p ps ih => rw [List.foldl_cons, ih, removeAssertion_providerIds]

theorem mem_foldl_removeAssertion (hq : q ∉ ps) (h : q ∈ s.nidAndSessionIndexes) :
    q ∈ (ps.foldl (fun s p => (s.removeAssertion (some p)).2) s).nidAndSessionIndexes := by
  induction ps generalizing s with
  | nil => exact h
  | cons p ps ih =>
    obtain ⟨hqp, hqps⟩ := List.ne_and_not_mem_of_not_mem_cons hq
    apply ih hqps
    exact mem_removeAssertion hqp h

end Session

/-! ## A scan -/

namespace Logout

open Session

variable {codec : SessionCodec} {foreachOrder removals : List String → List String}
  {logout : Logout} {s : Session} {p q : String}

/-- The listed providers but for the initial one. -/
def others (logout : Logout) (ids : List String) : List String :=
  ids.filter fun p => some p ≠ logout.initialRemoteProviderId

theorem mem_others {ids : List String} :
    p ∈ logout.others ids ↔ p ∈ ids ∧ some p ≠ logout.initialRemoteProviderId := by
  simp [others]

/-- What is still to be returned. -/
def rest (foreachOrder : List String → List String) (logout : Logout) (s : Session) :
    List String :=
  logout.others ((s.listing foreachOrder).drop logout.providerIdIndex)

/-- The providers that are left from a position on, one by one. -/
theorem others_drop (ids : List String) (i : Nat) :
    logout.others (ids.drop i) =
      logout.others ids[i]?.toList ++ logout.others (ids.drop (i + 1)) := by
  rw [others, List.drop_eq_getElem?_toList_append, List.filter_append]
  rfl

/-- Behind the initial provider all others are left, as it is not listed a second time. -/
theorem others_drop_of_lt {ids : List String} {i j : Nat} (hnodup : ids.Nodup)
    (hi : ids[i]? = some p) (hinitial : some p = logout.initialRemoteProviderId) (hlt : i < j) :
    logout.others (ids.drop j) = ids.drop j := by
  refine List.filter_eq_self.mpr fun q hq => decide_eq_true fun hsame => ?_
  obtain ⟨k, hk⟩ := List.mem_iff_getElem?.mp hq
  rw [List.getElem?_drop] at hk
  obtain rfl : p = q := Option.some.inj (hinitial.trans hsame.symm)
  have hlength : i < ids.length := (List.getElem?_eq_some_iff.mp hi).1
  have heq : i = j + k := (List.getElem?_inj hlength hnodup).mp (hi.trans hk.symm)
  omega

theorem others_eq_nil_of_initial {x : Option String} (hx : x = logout.initialRemoteProviderId) :
    logout.others x.toList = [] := by
  cases x with
  | none => rfl
  | some p => simp [others, ← hx]

theorem others_of_ne_initial {x : Option String}
    (hx : ¬ (x.isSome ∧ x = logout.initialRemoteProviderId)) :
    logout.others x.toList = x.toList := by
  cases x with
  | none => rfl
  | some p => simpa [others] using hx

/-- A call either is the last one or returns the first of the providers that are left. -/
theorem getNextProviderId_of_ne (hsession : logout.profile.session = some s)
    (hnodup : (s.listing foreachOrder).Nodup) (hne : s.nidAndSessionIndexes.keys ≠ []) :
    ∃ logout' : Logout,
      logout.getNextProviderId foreachOrder = ((logout.rest foreachOrder s).head?, logout') ∧
      logout'.profile.session = some { s with providerIds := s.listing foreachOrder } ∧
      logout'.initialRemoteProviderId = logout.initialRemoteProviderId ∧
      logout'.others ((s.listing foreachOrder).drop logout'.providerIdIndex) =
        (logout.rest foreachOrder s).tail := by
  set ids := s.listing foreachOrder with hids
  set i := logout.providerIdIndex with hi
  have hrest : logout.rest foreachOrder s =
      logout.others ids[i]?.toList ++ logout.others (ids.drop (i + 1)) := others_drop ids i
  -- the list from position `i` on, as far as a call looks at it
  have hsecond (index : Nat) : getProviderIndex foreachOrder { s with providerIds := ids } index =
      (ids[index]?, { s with providerIds := ids }) := by
    rw [getProviderIndex_of_ne (s := { s with providerIds := ids }) hne, hids,
      listing_with_listing]
  unfold getNextProviderId
  rw [hsession]
  dsimp only
  rw [getProviderIndex_of_ne hne, ← hids, ← hi]
  dsimp only
  split_ifs with hinitial
  · obtain ⟨hsome, hinitial⟩ := hinitial
    obtain ⟨x, hx⟩ := Option.isSome_iff_exists.mp hsome
    have hbehind (j : Nat) (hlt : i < j) : logout.others (ids.drop j) = ids.drop j :=
      others_drop_of_lt hnodup hx (hx.symm.trans hinitial) hlt
    rw [others_eq_nil_of_initial hinitial, List.nil_append, hbehind (i + 1) (by omega)] at hrest
    refine ⟨_, Prod.ext ?_ rfl, ?_, rfl, ?_⟩
    · rw [hsecond, hrest, List.head?_drop]
    · rw [hsecond]
    · rw [hrest, List.tail_drop]
      exact hbehind (i + 2) (by omega)
  · rw [others_of_ne_initial hinitial] at hrest
    refine ⟨_, Prod.ext ?_ rfl, rfl, rfl, ?_⟩
    · rw [hrest]
      cases hx : ids[i]? with
      | none =>
        have hlen : ids.length ≤ i := List.getElem?_eq_none_iff.mp hx
        simp [others, List.drop_eq_nil_of_le (Nat.le_succ_of_le hlen)]
      | some x => rfl
    · rw [hrest]
      cases hx : ids[i]? with
      | none =>
        have hlen : ids.length ≤ i := List.getElem?_eq_none_iff.mp hx
        simp [others, List.drop_eq_nil_of_le (Nat.le_succ_of_le hlen)]
      | some x => rfl

theorem getNextProviderId_of_empty (hsession : logout.profile.session = some s)
    (hempty : s.nidAndSessionIndexes.keys = []) :
    (logout.getNextProviderId foreachOrder).1 = none := by
  simp [getNextProviderId, hsession, getProviderIndex_of_empty hempty]

/-- While `alive` holds of the session, of what was returned and of what is left, a scan returns all
that is left. -/
theorem scan_eq (alive : Session → List String → List String → Prop)
    (hne : ∀ s returned q qs, alive s returned (q :: qs) → s.nidAndSessionIndexes.keys ≠ [])
    (hnext : ∀ s returned q qs ids, alive s returned (q :: qs) →
      alive ((removals (returned ++ [q])).foldl (fun s p => (s.removeAssertion (some p)).2)
        { s with providerIds := ids }) (returned ++ [q]) qs)
    {left returned : List String} (hsession : logout.profile.session = some s)
    (hnodup : (s.listing foreachOrder).Nodup) (hleft : logout.rest foreachOrder s = left)
    (halive : alive s returned left) :
    ∃ fuel, scan foreachOrder removals fuel returned logout = some (returned ++ left) := by
  induction left generalizing logout s returned with
  | nil =>
    have hnone : (logout.getNextProviderId foreachOrder).1 = none := by
      by_cases hempty : s.nidAndSessionIndexes.keys = []
      · exact getNextProviderId_of_empty hsession hempty
      · obtain ⟨logout', hnext, -⟩ := getNextProviderId_of_ne hsession hnodup hempty
        rw [hnext, hleft]
        rfl
    refine ⟨1, ?_⟩
    unfold scan
    split
    · simp
    · rename_i heq
      rw [heq] at hnone
      cases hnone
  | cons q qs ih =>
    obtain ⟨logout', hcall, hsession', hinitial', hrest'⟩ :=
      getNextProviderId_of_ne hsession hnodup (hne s returned q qs halive)
    rw [hleft] at hcall hrest'
    set s' := (removals (returned ++ [q])).foldl (fun s p => (s.removeAssertion (some p)).2)
      { s with providerIds := s.listing foreachOrder } with hs'
    -- the list is not built again: it is not empty
    have hids : s.listing foreachOrder ≠ [] := by
      intro hnil
      simp [rest, hnil, others] at hleft
    have hlisting : s'.listing foreachOrder = s.listing foreachOrder := by
      rw [listing_of_listed (by rwa [hs', foldl_removeAssertion_providerIds]), hs',
        foldl_removeAssertion_providerIds]
    obtain ⟨fuel, hfuel⟩ : ∃ fuel, scan foreachOrder removals fuel (returned ++ [q])
        (logout'.removeAssertions (removals (returned ++ [q]))) = some (returned ++ [q] ++ qs) := by
      apply ih (s := s')
      · simp [removeAssertions, hsession', hs']
      · exact hlisting ▸ hnodup
      · rw [rest, hlisting]
        exact hrest'
      · exact hnext s returned q qs _ halive
    refine ⟨fuel + 1, ?_⟩
    rw [scan, hcall]
    simpa using hfuel

theorem scan_succ {fuel : Nat} {returned all : List String}
    (h : scan foreachOrder removals fuel returned logout = some all) :
    scan foreachOrder removals (fuel + 1) returned logout = some all := by
  induction fuel generalizing returned logout with
  | zero => simp [scan] at h
  | succ fuel ih =>
    rw [scan] at h ⊢
    split at h
    · exact h
    · exact ih h

theorem scan_of_le {fuel fuel' : Nat} {returned all : List String} (hle : fuel ≤ fuel')
    (h : scan foreachOrder removals fuel returned logout = some all) :
    scan foreachOrder removals fuel' returned logout = some all := by
  induction hle with
  | refl => exact h
  | step _ ih => exact scan_succ ih

/-- More calls do not change what a scan returns. -/
theorem scan_unique {fuel fuel' : Nat} {returned all all' : List String}
    (h : scan foreachOrder removals fuel returned logout = some all)
    (h' : scan foreachOrder removals fuel' returned logout = some all') : all = all' := by
  have hmax := scan_of_le (Nat.le_max_left fuel fuel') h
  rw [scan_of_le (Nat.le_max_right fuel fuel') h'] at hmax
  exact (Option.some.inj hmax).symm

/-! ## When the scan returns the right providers -/

/-- The list that a scan goes by, at its start. -/
theorem rest_of_index_zero (hindex : logout.providerIdIndex = 0) :
    logout.rest foreachOrder s = logout.others (s.listing foreachOrder) := by
  simp [rest, hindex]

/-- Providers that all have an entry are returned whatever is removed. -/
theorem scan_of_mem (hremovals : ∀ returned, removals returned ⊆ returned)
    (hsession : logout.profile.session = some s) (hindex : logout.providerIdIndex = 0)
    (hnodup : (s.listing foreachOrder).Nodup)
    (hmem : ∀ p ∈ logout.others (s.listing foreachOrder), p ∈ s.nidAndSessionIndexes) :
    ∃ fuel, scan foreachOrder removals fuel [] logout =
      some (logout.others (s.listing foreachOrder)) := by
  refine scan_eq
    (fun s returned left => (∀ p ∈ left, p ∈ s.nidAndSessionIndexes) ∧ (returned ++ left).Nodup)
    ?_ ?_ hsession hnodup (rest_of_index_zero hindex) ⟨hmem, hnodup.filter _⟩
  · intro s returned q qs halive hnil
    have hq : q ∈ s.nidAndSessionIndexes.keys := halive.1 q List.mem_cons_self
    rw [hnil] at hq
    exact List.not_mem_nil hq
  · rintro s returned q qs ids ⟨hmem, hnodup⟩
    have hnodup' : ((returned ++ [q]) ++ qs).Nodup := by simpa using hnodup
    refine ⟨fun p hp => ?_, hnodup'⟩
    apply mem_foldl_removeAssertion
    · intro hremoved
      exact (List.disjoint_of_nodup_append hnodup') (hremovals _ hremoved) hp
    · exact hmem p (List.mem_cons_of_mem q hp)

/-- Without removals all listed providers are returned, unless the index is empty. -/
theorem scan_of_no_removals (hsession : logout.profile.session = some s)
    (hindex : logout.providerIdIndex = 0) (hnodup : (s.listing foreachOrder).Nodup)
    (hne : s.nidAndSessionIndexes.keys ≠ []) :
    ∃ fuel, scan foreachOrder (fun _ => []) fuel [] logout =
      some (logout.others (s.listing foreachOrder)) := by
  refine scan_eq (fun s _ _ => s.nidAndSessionIndexes.keys ≠ []) ?_ ?_ hsession hnodup
    (rest_of_index_zero hindex) hne
  · exact fun _ _ _ _ h => h
  · exact fun _ _ _ _ _ h => h

theorem scan_of_empty (hsession : logout.profile.session = some s)
    (hempty : s.nidAndSessionIndexes.keys = []) :
    scan foreachOrder removals 1 [] logout = some [] := by
  have hcall : (logout.getNextProviderId foreachOrder).1 = none :=
    getNextProviderId_of_empty hsession hempty
  unfold scan
  split
  · rfl
  · rename_i heq
    rw [heq] at hcall
    cases hcall

theorem returnsOthers_iff_of_listed (horder : ∀ keys, (foreachOrder keys).Perm keys)
    (hs : Listed s) (hsession : logout.profile.session = some s)
    (hindex : logout.providerIdIndex = 0) :
    logout.ReturnsOthers foreachOrder s ↔
      (∀ p, s.entries p = []) ∨ s.providerIds = [] ∨
        ∀ p, some p ≠ logout.initialRemoteProviderId →
          (p ∈ s.providerIds ↔ s.entries p ≠ []) := by
  have hnodup := nodup_listing horder hs
  constructor
  · intro hreturns
    by_cases hempty : s.nidAndSessionIndexes.keys = []
    · exact .inl fun p => hs.entries_of_empty hempty
    · right
      rw [or_iff_not_imp_left]
      intro hids p hp
      obtain ⟨fuel, returned, hscan, -, hreturned⟩ :=
        hreturns (fun _ => []) fun returned => List.nil_subset returned
      obtain ⟨fuel', hscan'⟩ := scan_of_no_removals hsession hindex hnodup hempty
      obtain rfl := scan_unique hscan hscan'
      have h := hreturned p
      rw [mem_others, listing_of_listed hids] at h
      tauto
  · intro hcondition removals hremovals
    by_cases hempty : s.nidAndSessionIndexes.keys = []
    · exact ⟨1, [], scan_of_empty hsession hempty, List.nodup_nil, fun p => by
        simp [hs.entries_of_empty hempty]⟩
    · have hlisted : ∀ p, some p ≠ logout.initialRemoteProviderId →
          (p ∈ s.listing foreachOrder ↔ s.entries p ≠ []) := by
        intro p hp
        rcases hcondition with hnone | hids | hids
        · obtain ⟨q, hq⟩ := List.exists_mem_of_ne_nil _ hempty
          exact absurd (hnone q) (hs.entries_ne q hq)
        · rw [listing, if_pos hids, mem_foreachOrder horder hs]
        · by_cases hnil : s.providerIds = []
          · rw [listing, if_pos hnil, mem_foreachOrder horder hs]
          · rw [listing_of_listed hnil]
            exact hids p hp
      obtain ⟨fuel, hscan⟩ := scan_of_mem hremovals hsession hindex hnodup fun p hp =>
        hs.entries_ne_iff.mp ((hlisted p (mem_others.mp hp).2).mp (mem_others.mp hp).1)
      refine ⟨fuel, _, hscan, hnodup.filter _, fun p => ?_⟩
      rw [mem_others]
      constructor
      · exact fun ⟨hp, hinitial⟩ => ⟨(hlisted p hinitial).mp hp, hinitial⟩
      · exact fun ⟨hp, hinitial⟩ => ⟨(hlisted p hinitial).mpr hp, hinitial⟩

/-- In every session that operations lead to, a scan returns the right providers if and only if the
index is empty, or the list is not built yet, or it lists, the initial provider apart, the providers
that have entries. -/
theorem returnsOthers_iff (horder : ∀ keys, (codec.foreachOrder keys).Perm keys)
    (h : ReachableListed codec s) (hsession : logout.profile.session = some s)
    (hindex : logout.providerIdIndex = 0) :
    logout.ReturnsOthers codec.foreachOrder s ↔
      (∀ p, s.entries p = []) ∨ s.providerIds = [] ∨
        ∀ p, some p ≠ logout.initialRemoteProviderId →
          (p ∈ s.providerIds ↔ s.entries p ≠ []) :=
  returnsOthers_iff_of_listed horder (h.listed horder) hsession hindex

/-- If no provider comes or goes once the list is built, then at any time of the run a scan returns
the right providers. -/
theorem returnsOthers_of_keepsProviders (horder : ∀ keys, (codec.foreachOrder keys).Perm keys)
    (h : Reaches (Session.providerStep codec) (KeepsProviders codec) (· = {}) s)
    (hsession : logout.profile.session = some s) (hindex : logout.providerIdIndex = 0) :
    logout.ReturnsOthers codec.foreachOrder s := by
  obtain ⟨hs, hcurrent⟩ := current_of_keepsProviders horder h
  apply (returnsOthers_iff_of_listed horder hs hsession hindex).mpr
  exact .inr (hcurrent.imp_right fun hlist p _ => hlist p)

/-! ## A provider that comes late -/

/-- The principal logs in at one provider, the providers are looked at, and the principal logs in at
another one. -/
def lateSession : Session :=
  [.session (.addAssertion (some "https://sp1.example") (.saml2Assertion twoStatementAssertion)),
    .getProviderIndex 0,
    .session (.addAssertion (some "https://sp2.example")
      (.saml2Assertion twoStatementAssertion))].foldl (Session.providerStep nullCodec) {}

def lateLogout : Logout := { profile := { session := some lateSession } }

theorem lateSession_reachable : ReachableListed nullCodec lateSession := by
  have hstart : ReachableListed nullCodec {} := .start rfl
  exact Reaches.foldl (fun _ _ => trivial) hstart _

theorem late_provider_not_returned :
    ReachableListed nullCodec lateSession ∧ lateLogout.profile.session = some lateSession ∧
      lateLogout.providerIdIndex = 0 ∧
      ¬ lateLogout.ReturnsOthers nullCodec.foreachOrder lateSession := by
  have horder : ∀ keys, (nullCodec.foreachOrder keys).Perm keys := fun _ => .rfl
  refine ⟨lateSession_reachable, rfl, rfl, ?_⟩
  rw [returnsOthers_iff_of_listed horder (lateSession_reachable.listed horder) rfl rfl]
  have hids : lateSession.providerIds = ["https://sp1.example"] := rfl
  have hentries : (lateSession.entries "https://sp2.example").length = 2 := rfl
  rintro (hnone | hnil | hlisted)
  · rw [hnone] at hentries
    cases hentries
  · rw [hids] at hnil
    cases hnil
  · have hne : lateSession.entries "https://sp2.example" ≠ [] := by
      intro hnil
      rw [hnil] at hentries
      cases hentries
    have hmem := (hlisted "https://sp2.example" (by simp [lateLogout])).mpr hne
    rw [hids] at hmem
    simp at hmem

theorem returnsOthers_iff_lateSession :
    lateLogout.ReturnsOthers nullCodec.foreachOrder lateSession ↔
      (∀ p, lateSession.entries p = []) ∨ lateSession.providerIds = [] ∨
        ∀ p, some p ≠ lateLogout.initialRemoteProviderId →
          (p ∈ lateSession.providerIds ↔ lateSession.entries p ≠ []) :=
  returnsOthers_iff (fun _ => .rfl) lateSession_reachable rfl rfl

end Logout

end Lasso
