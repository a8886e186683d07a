import Mathlib
import Lasso.Identity
import Lasso.Library.Tables
import Lasso.Session.Dump

/-!
# Identities across restarts

`getXmlNode` writes the federations and the resource offerings of an identity into an element,
`initFromXml` reads them into a new one. The keys of the tables are not written: they are taken
from the objects, and the counter of the entry IDs starts at zero again.

## Main definitions

* `IdentityCodec` — how the objects of an identity are written and read.
* `Identity.step`, `Identity.run` — operations on an identity, and restarts between them.

## Main results

* `Identity.run_keeps` — what was added and not removed is found, and entry IDs are not shared.
-/

namespace Lasso

open Tables

/-- The functions that the dump calls on the objects of an identity. -/
structure IdentityCodec where
  /-- `lasso_node_get_xmlNode` of a federation -/
  federationXml : Federation → XmlElement
  /-- `lasso_node_new_from_xmlNode`, cast to a federation -/
  newFederation : XmlNode → Option Federation
  /-- `lasso_node_get_xmlNode` of a resource offering -/
  offeringXml : DiscoResourceOffering → XmlElement
  /-- `lasso_node_new_from_xmlNode`, cast to a resource offering -/
  newOffering : XmlNode → Option DiscoResourceOffering
  /-- the order in which `g_hash_table_foreach` visits the keys of a table -/
  foreachOrder : List String → List String

namespace Identity

variable (codec : IdentityCodec)

/-! ## The dump -/

/-- The element with the identifiers of service metadata. -/
def svcMdidsNode (svcMdid : List String) : XmlNode :=
  .element (some lassoHref) "SvcMDIDs" [] (svcMdid.map fun value =>
    .element (some lassoHref) "SvcMDID" [] [.text value])

/-- The children of the dump. -/
def childnodes (i : Identity) : List XmlNode :=
  ((entriesIn (codec.foreachOrder i.federations.keys) i.federations).map fun entry =>
      (codec.federationXml entry.2).val) ++
    ((entriesIn (codec.foreachOrder i.resourceOfferingsMap.keys) i.resourceOfferingsMap).map
      fun entry => (codec.offeringXml entry.2).val) ++
    if i.svcMdid = [] then [] else [svcMdidsNode i.svcMdid]

/-- `get_xmlNode` -/
def getXmlNode (i : Identity) : XmlNode :=
  .element (some lassoHref) "Identity" [xmlProp "Version" (some "2")] (i.childnodes codec)

/-- One turn of the loop in `init_from_xml`. An object that is not read, or an offering without an
entry ID, stops the source; here it is passed over. -/
def initFromXmlChild (i : Identity) (t : XmlNode) : Identity :=
  if t.elementName = some "Federation" then
    match codec.newFederation t with
    | some federation => { i with
        federations := i.federations.insert federation.remoteProviderId federation }
    | none => i
  else if t.elementName = some "ResourceOffering" then
    match codec.newOffering t with
    | some offering =>
      match offering.entryId with
      | some entryId => { i with
          resourceOfferingsMap := i.resourceOfferingsMap.insert entryId offering }
      | none => i
    | none => i
  else if t.elementName = some "SvcMDIDs" then
    { i with svcMdid := i.svcMdid ++ (t.children.filter (·.isElement)).map (·.textContent) }
  else i

/-- `init_from_xml` -/
def initFromXml (i : Identity) (xmlnode : XmlNode) : Identity :=
  xmlnode.children.foldl (initFromXmlChild codec) i

/-- `lasso_identity_new_from_dump` of the dump of an identity. -/
def restart (i : Identity) : Identity := initFromXml codec {} (i.getXmlNode codec)

/-! ## Runs -/

/-- The operations on an identity, and a restart. -/
inductive Event where
  | addFederation (federation : Federation)
  | removeFederation (providerId : Option String)
  | addResourceOffering (offering : DiscoResourceOffering)
  | removeResourceOffering (entryId : String)
  | restart

/-- The identity after an operation, if it ends. -/
def step (i : Identity) : Event → Option Identity
  | .addFederation federation => some (i.addFederation federation)
  | .removeFederation providerId => some (i.removeFederation providerId).2
  | .addResourceOffering offering => (i.addResourceOffering offering).map (·.2)
  | .removeResourceOffering entryId => some (i.removeResourceOffering entryId).2
  | .restart => some (i.restart codec)

/-- The identity after a sequence of operations, if all of them end. -/
def run (events : List Event) (i : Identity) : Option Identity := events.foldlM (step codec) i

/-! ## The dump is read back -/

/-- The codec reads the federation back. -/
def KeepsFederation (federation : Federation) : Prop :=
  (codec.federationXml federation).val.elementName = some "Federation" ∧
    codec.newFederation (codec.federationXml federation).val = some federation

/-- The codec reads the offering back. -/
def KeepsOffering (offering : DiscoResourceOffering) : Prop :=
  (codec.offeringXml offering).val.elementName = some "ResourceOffering" ∧
    codec.newOffering (codec.offeringXml offering).val = some offering

/-- The codec reads back what an operation adds, an offering with whatever entry ID. -/
def KeepsEvent : Event → Prop
  | .addFederation federation => KeepsFederation codec federation
  | .addResourceOffering offering =>
    ∀ entryId, KeepsOffering codec { offering with entryId := some entryId }
  | _ => True

/-- The objects stand under the keys that they name themselves, and can be read back. -/
structure Storable (i : Identity) : Prop where
  federation : ∀ key federation, i.federations.lookup key = some federation →
    federation.remoteProviderId = key ∧ KeepsFederation codec federation
  offering : ∀ key offering, i.resourceOfferingsMap.lookup key = some offering →
    offering.entryId = some key ∧ KeepsOffering codec offering

variable {codec} {i j : Identity}

theorem foldl_federations {entries : List (String × Federation)}
    (h : ∀ e ∈ entries, e.2.remoteProviderId = e.1 ∧ KeepsFederation codec e.2) (i : Identity) :
    (entries.map fun e => (codec.federationXml e.2).val).foldl (initFromXmlChild codec) i =
      { i with federations := insertEntries i.federations entries } := by
  induction entries generalizing i with
  | nil => rfl
  | cons e entries ih =>
    obtain ⟨hkey, hname, hread⟩ := h e List.mem_cons_self
    have hchild : initFromXmlChild codec i (codec.federationXml e.2).val =
        { i with federations := i.federations.insert e.1 e.2 } := by
      rw [initFromXmlChild, if_pos hname, hread, ← hkey]
    rw [List.map_cons, List.foldl_cons, hchild, ih fun e he => h e (List.mem_cons_of_mem _ he)]
    rfl

theorem foldl_offerings {entries : List (String × DiscoResourceOffering)}
    (h : ∀ e ∈ entries, e.2.entryId = some e.1 ∧ KeepsOffering codec e.2) (i : Identity) :
    (entries.map fun e => (codec.offeringXml e.2).val).foldl (initFromXmlChild codec) i =
      { i with resourceOfferingsMap := insertEntries i.resourceOfferingsMap entries } := by
  induction entries generalizing i with
  | nil => rfl
  | cons e entries ih =>
    obtain ⟨hkey, hname, hread⟩ := h e List.mem_cons_self
    have hchild : initFromXmlChild codec i (codec.offeringXml e.2).val =
        { i with resourceOfferingsMap := i.resourceOfferingsMap.insert e.1 e.2 } := by
      rw [initFromXmlChild, if_neg (by simp [hname]), if_pos hname, hread]
      simp only [hkey]
    rw [List.map_cons, List.foldl_cons, hchild, ih fun e he => h e (List.mem_cons_of_mem _ he)]
    rfl

/-- The identifiers of service metadata leave the tables alone. -/
theorem foldl_svcMdids (codec : IdentityCodec) (svcMdid : List String) (i : Identity) :
    ∃ svcMdid', (if svcMdid = [] then [] else [svcMdidsNode svcMdid]).foldl
      (initFromXmlChild codec) i = { i with svcMdid := svcMdid' } := by
  split_ifs
  · exact ⟨i.svcMdid, rfl⟩
  · exact ⟨_, rfl⟩

/-- After a restart every lookup gives what it gave before. -/
theorem restart_lookup (horder : ∀ keys, (codec.foreachOrder keys).Perm keys)
    (h : Storable codec i) (key : String) :
    (i.restart codec).federations.lookup key = i.federations.lookup key ∧
      (i.restart codec).resourceOfferingsMap.lookup key = i.resourceOfferingsMap.lookup key := by
  have hfederations : ∀ e ∈ entriesIn (codec.foreachOrder i.federations.keys) i.federations,
      e.2.remoteProviderId = e.1 ∧ KeepsFederation codec e.2 :=
    fun e he => h.federation e.1 e.2 (mem_entriesIn.mp he).2
  have hofferings : ∀ e ∈ entriesIn (codec.foreachOrder i.resourceOfferingsMap.keys)
      i.resourceOfferingsMap, e.2.entryId = some e.1 ∧ KeepsOffering codec e.2 :=
    fun e he => h.offering e.1 e.2 (mem_entriesIn.mp he).2
  have hrestart : i.restart codec = (i.childnodes codec).foldl (initFromXmlChild codec) {} := rfl
  rw [childnodes, List.foldl_append, List.foldl_append, foldl_federations hfederations,
    foldl_offerings hofferings] at hrestart
  obtain ⟨svcMdid, hsvcMdid⟩ := foldl_svcMdids codec i.svcMdid _
  rw [hsvcMdid] at hrestart
  rw [hrestart]
  exact ⟨lookup_insertEntries_entriesIn (horder _) key,
    lookup_insertEntries_entriesIn (horder _) key⟩

/-! ## What an operation does to the tables -/

theorem freshEntryId_free {entryId : String} {lastEntryId : UInt32}
    (h : i.freshEntryId = some (entryId, lastEntryId)) :
    i.resourceOfferingsMap.lookup entryId = none := by
  obtain ⟨id, hfree, hid⟩ := Option.map_eq_some_iff.mp h
  obtain ⟨rfl, -⟩ := Prod.mk.inj hid
  simpa using Search.firstFree_free hfree

theorem addResourceOffering_eq_some {offering : DiscoResourceOffering} {entryId : String}
    (h : i.addResourceOffering offering = some (entryId, j)) :
    i.resourceOfferingsMap.lookup entryId = none ∧
      j.resourceOfferingsMap =
        i.resourceOfferingsMap.insert entryId { offering with entryId := some entryId } ∧
      j.federations = i.federations := by
  obtain ⟨⟨id, lastEntryId⟩, hfresh, hresult⟩ := Option.map_eq_some_iff.mp h
  obtain ⟨rfl, rfl⟩ := Prod.mk.inj hresult
  exact ⟨freshEntryId_free hfresh, rfl, rfl⟩

/-- Different values of the counter are written differently. -/
theorem entryIdText_injective : Function.Injective entryIdText := by
  intro a b h
  have hsigned := Int32.toInt_inj.mp (Int.repr_injective h)
  exact congrArg Int32.toUInt32 hsigned

/-- The loop of `lasso_identity_add_resource_offering` ends while the counter has more values than
the table has entries. -/
theorem addResourceOffering_isSome (offering : DiscoResourceOffering)
    (h : i.resourceOfferingsMap.keys.length < UInt32.size) :
    ∃ entryId j, i.addResourceOffering offering = some (entryId, j) := by
  have hiterate (n : Nat) : (· + 1)^[n] i.lastEntryId = i.lastEntryId + UInt32.ofNat n := by
    induction n with
    | zero => simp
    | succ n ih => rw [Function.iterate_succ_apply', ih, UInt32.ofNat_add, UInt32.add_assoc]; rfl
  have hdistinct : Set.InjOn (fun n => entryIdText ((· + 1)^[n] i.lastEntryId))
      {n | n < UInt32.size} := by
    intro m hm n hn heq
    have hids := entryIdText_injective heq
    rw [hiterate, hiterate, UInt32.add_right_inj] at hids
    have hnats := congrArg UInt32.toNat hids
    rwa [UInt32.toNat_ofNat_of_lt' hm, UInt32.toNat_ofNat_of_lt' hn] at hnats
  have htaken : ∀ id, (i.resourceOfferingsMap.lookup (entryIdText id)).isSome = true →
      entryIdText id ∈ i.resourceOfferingsMap.keys :=
    fun id hid => AList.lookup_isSome.mp hid
  obtain ⟨id, hid⟩ := Option.isSome_iff_exists.mp (Search.firstFree_isSome hdistinct htaken h)
  exact ⟨_, _, by rw [addResourceOffering, freshEntryId, hid]; rfl⟩

theorem lookup_removeFederation (i : Identity) (providerId : Option String) (key : String) :
    (i.removeFederation providerId).2.federations.lookup key =
      if providerId = some key then none else i.federations.lookup key := by
  cases providerId with
  | none => rfl
  | some providerId =>
    rw [removeFederation]
    by_cases hkey : providerId = key
    · subst hkey
      rw [if_pos rfl]
      split_ifs with hnone
      · simpa using hnone
      · exact AList.lookup_erase providerId i.federations
    · have hne : some providerId ≠ some key := fun h => hkey (Option.some.inj h)
      rw [if_neg hne]
      split_ifs
      · rfl
      · exact AList.lookup_erase_ne (Ne.symm hkey)

theorem lookup_removeResourceOffering (i : Identity) (entryId key : String) :
    (i.removeResourceOffering entryId).2.resourceOfferingsMap.lookup key =
      if entryId = key then none else i.resourceOfferingsMap.lookup key := by
  rw [removeResourceOffering]
  by_cases hkey : entryId = key
  · subst hkey
    rw [if_pos rfl]
    split_ifs with hnone
    · simpa using hnone
    · exact AList.lookup_erase entryId i.resourceOfferingsMap
  · rw [if_neg hkey]
    split_ifs
    · rfl
    · exact AList.lookup_erase_ne (Ne.symm hkey)

theorem removeFederation_resourceOfferingsMap (i : Identity) (providerId : Option String) :
    (i.removeFederation providerId).2.resourceOfferingsMap = i.resourceOfferingsMap := by
  unfold removeFederation
  repeat' split
  all_goals rfl

theorem removeResourceOffering_federations (i : Identity) (entryId : String) :
    (i.removeResourceOffering entryId).2.federations = i.federations := by
  unfold removeResourceOffering
  split_ifs <;> rfl

/-- What a lookup of a federation gives after an operation, given what it gave before. -/
def federationAfter (key : String) (found : Option Federation) : Event → Option Federation
  | .addFederation federation =>
    if federation.remoteProviderId = key then some federation else found
  | .removeFederation providerId => if providerId = some key then none else found
  | _ => found

theorem step_federation (horder : ∀ keys, (codec.foreachOrder keys).Perm keys)
    (hi : Storable codec i) {e : Event} (h : step codec i e = some j) (key : String) :
    j.federations.lookup key = federationAfter key (i.federations.lookup key) e := by
  cases e with
  | addFederation federation =>
    obtain rfl := Option.some.inj h
    show (i.federations.insert _ _).lookup key = if _ then _ else _
    split_ifs with hkey
    · subst hkey
      exact AList.lookup_insert _
    · exact AList.lookup_insert_ne (Ne.symm hkey)
  | removeFederation providerId =>
    obtain rfl := Option.some.inj h
    exact lookup_removeFederation i providerId key
  | addResourceOffering offering =>
    obtain ⟨⟨entryId, j'⟩, hadd, rfl⟩ := Option.map_eq_some_iff.mp h
    exact congrArg (AList.lookup key) (addResourceOffering_eq_some hadd).2.2
  | removeResourceOffering entryId =>
    obtain rfl := Option.some.inj h
    exact congrArg (AList.lookup key) (removeResourceOffering_federations i entryId)
  | restart =>
    obtain rfl := Option.some.inj h
    exact (restart_lookup horder hi key).1

/-- An operation puts an offering under an entry ID that is free, takes away the one that it names,
and leaves the others. -/
theorem step_offering (horder : ∀ keys, (codec.foreachOrder keys).Perm keys)
    (hi : Storable codec i) {e : Event} (h : step codec i e = some j) (key : String) :
    (e = .removeResourceOffering key ∧ j.resourceOfferingsMap.lookup key = none) ∨
    (∃ offering, e = .addResourceOffering offering ∧ i.resourceOfferingsMap.lookup key = none ∧
      j.resourceOfferingsMap.lookup key = some { offering with entryId := some key }) ∨
    (e ≠ .removeResourceOffering key ∧
      j.resourceOfferingsMap.lookup key = i.resourceOfferingsMap.lookup key) := by
  cases e with
  | addFederation federation =>
    obtain rfl := Option.some.inj h
    exact .inr (.inr ⟨by simp, rfl⟩)
  | removeFederation providerId =>
    obtain rfl := Option.some.inj h
    exact .inr (.inr ⟨by simp,
      congrArg (AList.lookup key) (removeFederation_resourceOfferingsMap i providerId)⟩)
  | addResourceOffering offering =>
    obtain ⟨⟨entryId, j'⟩, hadd, rfl⟩ := Option.map_eq_some_iff.mp h
    obtain ⟨hfree, hmap, -⟩ := addResourceOffering_eq_some hadd
    dsimp only
    rw [hmap]
    by_cases hkey : key = entryId
    · subst hkey
      exact .inr (.inl ⟨offering, rfl, hfree, AList.lookup_insert _⟩)
    · exact .inr (.inr ⟨by simp, AList.lookup_insert_ne hkey⟩)
  | removeResourceOffering entryId =>
    obtain rfl := Option.some.inj h
    rw [lookup_removeResourceOffering]
    by_cases hkey : entryId = key
    · exact .inl ⟨by rw [hkey], if_pos hkey⟩
    · exact .inr (.inr ⟨by simpa using hkey, if_neg hkey⟩)
  | restart =>
    obtain rfl := Option.some.inj h
    exact .inr (.inr ⟨by simp, (restart_lookup horder hi key).2⟩)

/-! ## Runs -/

theorem step_storable (horder : ∀ keys, (codec.foreachOrder keys).Perm keys)
    (hi : Storable codec i) {e : Event} (he : KeepsEvent codec e) (h : step codec i e = some j) :
    Storable codec j where
  federation key federation hfound := by
    rw [step_federation horder hi h key] at hfound
    unfold federationAfter at hfound
    split at hfound
    · split_ifs at hfound with hkey
      · obtain rfl := Option.some.inj hfound
        exact ⟨hkey, he⟩
      · exact hi.federation key federation hfound
    · split_ifs at hfound
      exact hi.federation key federation hfound
    · exact hi.federation key federation hfound
  offering key offering hfound := by
    rcases step_offering horder hi h key with ⟨-, hnone⟩ | ⟨added, rfl, -, hadded⟩ | ⟨-, hsame⟩
    · rw [hnone] at hfound
      cases hfound
    · obtain rfl := Option.some.inj (hadded.symm.trans hfound)
      exact ⟨rfl, he key⟩
    · rw [hsame] at hfound
      exact hi.offering key offering hfound

theorem run_cons (e : Event) (events : List Event) (i : Identity) :
    run codec (e :: events) i = (step codec i e).bind (run codec events) := rfl

theorem run_append (before after : List Event) (i : Identity) :
    run codec (before ++ after) i = (run codec before i).bind (run codec after) := by
  rw [run, List.foldlM_append]
  rfl

/-- What every operation preserves on storable identities holds after the run. -/
theorem run_induct (horder : ∀ keys, (codec.foreachOrder keys).Perm keys)
    (property : Identity → Prop) {events : List Event}
    (hstep : ∀ e ∈ events, ∀ i j, Storable codec i → property i → step codec i e = some j →
      property j)
    (hkeeps : ∀ e ∈ events, KeepsEvent codec e) (hi : Storable codec i) (hproperty : property i)
    (h : run codec events i = some j) : Storable codec j ∧ property j := by
  induction events generalizing i with
  | nil =>
    obtain rfl := Option.some.inj h
    exact ⟨hi, hproperty⟩
  | cons e events ih =>
    rw [run_cons] at h
    obtain ⟨next, hnext, hrest⟩ := Option.bind_eq_some_iff.mp h
    have hstorable := step_storable horder hi (hkeeps e List.mem_cons_self) hnext
    exact ih (fun e he => hstep e (List.mem_cons_of_mem _ he))
      (fun e he => hkeeps e (List.mem_cons_of_mem _ he)) hstorable
      (hstep e List.mem_cons_self i next hi hproperty hnext) hrest

theorem storable_new : Storable codec {} where
  federation _ _ h := nomatch h
  offering _ _ h := nomatch h

/-- The event adds or removes a federation with this provider. -/
def Event.concerns (providerId : String) : Event → Prop
  | .addFederation federation => federation.remoteProviderId = providerId
  | .removeFederation removed => removed = some providerId
  | _ => False

theorem federationAfter_of_not_concerns {key : String} {e : Event} (h : ¬ e.concerns key)
    (found : Option Federation) : federationAfter key found e = found := by
  cases e with
  | addFederation federation => exact if_neg h
  | removeFederation providerId => exact if_neg h
  | _ => rfl

theorem storable_of_run (horder : ∀ keys, (codec.foreachOrder keys).Perm keys)
    {events : List Event} (hkeeps : ∀ e ∈ events, KeepsEvent codec e)
    (h : run codec events {} = some i) : Storable codec i :=
  (run_induct horder (fun _ => True) (fun _ _ _ _ _ _ _ => trivial) hkeeps storable_new trivial h).1

/-- The states before and after one event of a run. -/
theorem run_split (horder : ∀ keys, (codec.foreachOrder keys).Perm keys)
    {before after : List Event} {e : Event}
    (hkeeps : ∀ e' ∈ before ++ e :: after, KeepsEvent codec e')
    (h : run codec (before ++ e :: after) {} = some i) :
    ∃ j next, run codec before {} = some j ∧ Storable codec j ∧ step codec j e = some next ∧
      Storable codec next ∧ run codec after next = some i := by
  rw [run_append] at h
  obtain ⟨j, hbefore, hrest⟩ := Option.bind_eq_some_iff.mp h
  rw [run_cons] at hrest
  obtain ⟨next, hnext, hafter⟩ := Option.bind_eq_some_iff.mp hrest
  have hj : Storable codec j :=
    storable_of_run horder (fun e' he' => hkeeps e' (List.mem_append_left _ he')) hbefore
  exact ⟨j, next, hbefore, hj, hnext, step_storable horder hj (hkeeps e (by simp)) hnext, hafter⟩

theorem federation_kept (horder : ∀ keys, (codec.foreachOrder keys).Perm keys)
    {before after : List Event} {federation : Federation}
    (hkeeps : ∀ e ∈ before ++ .addFederation federation :: after, KeepsEvent codec e)
    (h : run codec (before ++ .addFederation federation :: after) {} = some i)
    (hafter : ∀ e ∈ after, ¬ e.concerns federation.remoteProviderId) :
    i.getFederation (some federation.remoteProviderId) = some federation := by
  obtain ⟨j, next, -, hj, hnext, hstorable, hrest⟩ := run_split horder hkeeps h
  have hadded : next.federations.lookup federation.remoteProviderId = some federation := by
    rw [step_federation horder hj hnext]
    exact if_pos rfl
  refine (run_induct horder
    (fun i => i.federations.lookup federation.remoteProviderId = some federation) ?_
    (fun e he => hkeeps e (by simp [he])) hstorable hadded hrest).2
  intro e he i j hi hfound hstep
  rw [step_federation horder hi hstep, federationAfter_of_not_concerns (hafter e he), hfound]

theorem offering_kept (horder : ∀ keys, (codec.foreachOrder keys).Perm keys)
    {before after : List Event} {offering : DiscoResourceOffering}
    (hkeeps : ∀ e ∈ before ++ .addResourceOffering offering :: after, KeepsEvent codec e)
    (h : run codec (before ++ .addResourceOffering offering :: after) {} = some i) :
    ∃ j entryId j', run codec before {} = some j ∧
      j.addResourceOffering offering = some (entryId, j') ∧
      (.removeResourceOffering entryId ∉ after →
        i.getResourceOffering entryId = some { offering with entryId := some entryId }) := by
  obtain ⟨j, next, hbefore, -, hnext, hstorable, hrest⟩ := run_split horder hkeeps h
  obtain ⟨⟨entryId, j'⟩, hadd, rfl⟩ := Option.map_eq_some_iff.mp hnext
  refine ⟨j, entryId, j', hbefore, hadd, fun hafter => ?_⟩
  have hadded : j'.resourceOfferingsMap.lookup entryId =
      some { offering with entryId := some entryId } := by
    rw [(addResourceOffering_eq_some hadd).2.1]
    exact AList.lookup_insert _
  refine (run_induct horder
    (fun i => i.resourceOfferingsMap.lookup entryId = some { offering with entryId := some entryId })
    ?_ (fun e he => hkeeps e (by simp [he])) hstorable hadded hrest).2
  intro e he i j hi hfound hstep
  rcases step_offering horder hi hstep entryId with ⟨rfl, -⟩ | ⟨-, -, hfree, -⟩ | ⟨-, hsame⟩
  · exact absurd he hafter
  · rw [hfound] at hfree
    cases hfree
  · exact hsame.trans hfound

/-- After any sequence of operations and restarts, what was added last and not removed since is
found under its name, entry IDs are not shared, and one more offering gets an entry ID that is
free; `guint` values are more than a table of the library can have entries. -/
theorem run_keeps (horder : ∀ keys, (codec.foreachOrder keys).Perm keys) {events : List Event}
    (hkeeps : ∀ e ∈ events, KeepsEvent codec e) (h : run codec events {} = some i) :
    (∀ before federation after, events = before ++ .addFederation federation :: after →
      (∀ e ∈ after, ¬ e.concerns federation.remoteProviderId) →
      i.getFederation (some federation.remoteProviderId) = some federation) ∧
    (∀ before offering after, events = before ++ .addResourceOffering offering :: after →
      ∃ j entryId j', run codec before {} = some j ∧
        j.addResourceOffering offering = some (entryId, j') ∧
        (.removeResourceOffering entryId ∉ after →
          i.getResourceOffering entryId = some { offering with entryId := some entryId })) ∧
    (∀ a b offering offering', i.getResourceOffering a = some offering →
      i.getResourceOffering b = some offering' → offering.entryId = offering'.entryId → a = b) ∧
    (∀ offering entryId j, i.addResourceOffering offering = some (entryId, j) →
      i.getResourceOffering entryId = none ∧
      ∀ key, key ≠ entryId → j.getResourceOffering key = i.getResourceOffering key) ∧
    (∀ offering, i.resourceOfferingsMap.keys.length < UInt32.size →
      ∃ entryId j, i.addResourceOffering offering = some (entryId, j)) := by
  have hi := storable_of_run horder hkeeps h
  refine ⟨?_, ?_, ?_, ?_, fun offering => addResourceOffering_isSome offering⟩
  · rintro before federation after rfl hafter
    exact federation_kept horder hkeeps h hafter
  · rintro before offering after rfl
    exact offering_kept horder hkeeps h
  · intro a b offering offering' ha hb hid
    have hkeys := (hi.offering a offering ha).1.symm.trans (hid.trans (hi.offering b offering' hb).1)
    exact Option.some.inj hkeys
  · intro offering entryId j hadd
    obtain ⟨hfree, hmap, -⟩ := addResourceOffering_eq_some hadd
    refine ⟨hfree, fun key hkey => ?_⟩
    rw [getResourceOffering, hmap]
    exact AList.lookup_insert_ne hkey

/-! ## A principal with two services -/

/-- The federation that an identity provider knows a principal under. -/
def idpFederation : Federation where
  remoteProviderId := "idp"
  localNameIdentifier := some (.saml2NameId { content := some "alice" })

def resourceOffering (resourceId : String) : DiscoResourceOffering where
  resourceId := some resourceId

/-- The codec for the objects of this principal: attributes, and a child with a text. -/
def serviceCodec : IdentityCodec where
  federationXml f := ⟨.element (some lassoHref) "Federation"
    [xmlProp "RemoteProviderID" (some f.remoteProviderId)]
    ((f.localNameIdentifier.bind (·.nameContent)).toList.map fun content =>
      .element (some lassoHref) "LocalNameIdentifier" [] [.text content]), rfl⟩
  newFederation t := (t.getProp "RemoteProviderID").map fun remoteProviderId =>
    { remoteProviderId
      localNameIdentifier := t.firstElement.map fun node =>
        .saml2NameId { content := some node.textContent } }
  offeringXml o := ⟨.element none "ResourceOffering" [xmlProp "entryID" o.entryId]
    (o.resourceId.toList.map fun resourceId => .element none "ResourceID" [] [.text resourceId]),
    rfl⟩
  newOffering t := some
    { entryId := t.getProp "entryID"
      resourceId := t.firstElement.map (·.textContent) }
  foreachOrder := id

/-- The counter starts at zero again, where an entry ID is free and the next one is not. -/
def serviceEvents : List Event :=
  [.addFederation idpFederation, .addResourceOffering (resourceOffering "mail"),
    .removeResourceOffering "0", .addResourceOffering (resourceOffering "calendar"), .restart,
    .addResourceOffering (resourceOffering "photos"),
    .addResourceOffering (resourceOffering "contacts"), .restart]

theorem serviceEvents_kept : ∀ e ∈ serviceEvents, KeepsEvent serviceCodec e := by
  simp only [serviceEvents, List.forall_mem_cons, List.not_mem_nil, false_implies, implies_true,
    and_true]
  exact ⟨⟨rfl, rfl⟩, fun _ => ⟨rfl, rfl⟩, trivial, fun _ => ⟨rfl, rfl⟩, trivial,
    fun _ => ⟨rfl, rfl⟩, fun _ => ⟨rfl, rfl⟩, trivial⟩

theorem run_keeps_serviceEvents :
    ∃ i, run serviceCodec serviceEvents {} = some i ∧
      i.getFederation (some "idp") = some idpFederation ∧
      ∃ entryId, i.getResourceOffering entryId =
        some { resourceOffering "calendar" with entryId := some entryId } := by
  have hends : (run serviceCodec serviceEvents {}).isSome := by decide +kernel
  obtain ⟨i, hrun⟩ := Option.isSome_iff_exists.mp hends
  have hkept := run_keeps (fun keys => .refl keys) serviceEvents_kept hrun
  refine ⟨i, hrun, hkept.1 [] idpFederation _ rfl ?_, ?_⟩
  · simp [Event.concerns]
  · obtain ⟨j, entryId, j', -, -, hfound⟩ := hkept.2.1 [.addFederation idpFederation,
      .addResourceOffering (resourceOffering "mail"), .removeResourceOffering "0"]
      (resourceOffering "calendar") _ rfl
    exact ⟨entryId, hfound (by simp)⟩

end Identity

end Lasso
