import Lasso.Identity.Restarts
import Lasso.Xml.NodeClass

/-!
# Modifying the offerings of a discovery service

A request names entries to remove and brings offerings to insert. The entries are looked up first,
removed in a second loop, and the offerings are inserted in a third one, which runs whatever came of
the other two. The status of the response would be set through a pointer that is never assigned, so
that every failure stops the process.

## Main definitions

* `IdWsf.WsfProfile.buildModifyResponseMsg` — the function of `discovery.c`.
* `IdWsf.WsfProfile.AppliesOrRefuses` — the request is applied as a whole, or refused.
* `IdWsf.WsfProfile.CanApply` — nothing goes wrong in any loop.

## Main results

* `IdWsf.WsfProfile.appliesOrRefuses_iff` — only then is the request applied or refused.
-/

namespace Lasso

namespace IdWsf

/-- `LassoDiscoRemoveEntry` -/
structure DiscoRemoveEntry where
  entryId : Option String

/-- `LassoDiscoInsertEntry` -/
structure DiscoInsertEntry where
  resourceOffering : Option DiscoResourceOffering

/-- `LassoDiscoModify`, without the resource, which is read by another function. -/
structure DiscoModify where
  insertEntry : List DiscoInsertEntry := []
  removeEntry : List DiscoRemoveEntry := []

/-- `LassoDiscoModifyResponse`, with the code of its status. -/
structure DiscoModifyResponse where
  status : String
  newEntryIds : Option String := none

/-- What stands in the body of an envelope: the response of the profile, or its SOAP fault. -/
inductive SoapContent where
  | response | soapFault

/-- `LassoSoapEnvelope`, with the nodes of its body. -/
structure SoapEnvelope where
  body : Option (List SoapContent)

/-- What the discovery service uses of `LassoWsfProfile`; the text in `msg_body` is taken for the
envelope that it is made of. -/
structure WsfProfile where
  identity : Option Identity
  request : DiscoModify
  response : Option DiscoModifyResponse
  soapEnvelopeResponse : Option SoapEnvelope
  soapFault : Bool := false
  msgBody : Option SoapEnvelope := none

namespace WsfProfile

/-- The end of `lasso_discovery_process_modify_msg`: a response with status OK, in the envelope of
`lasso_wsf_profile_init_soap_response`. -/
def initModifyResponse (profile : WsfProfile) : WsfProfile :=
  { profile with
    response := some { status := "OK" }
    soapEnvelopeResponse := some { body := some [.response] } }

/-- `lasso_wsf_profile_build_soap_response_msg` -/
def buildSoapResponseMsg (profile : WsfProfile) : Rc × WsfProfile :=
  match profile.soapEnvelopeResponse with
  | none => (.soap .missingEnvelope, profile)
  | some envelope =>
    if profile.soapFault then
      match envelope.body with
      | none => (.soap .missingBody, profile)
      | some _ =>
        let envelope : SoapEnvelope := { body := some [.soapFault] }
        (.ok, { profile with soapEnvelopeResponse := some envelope, msgBody := some envelope })
    else (.ok, { profile with msgBody := some envelope })

end WsfProfile

/-! ## The loops -/

/-- The first loop: every entry to remove is known. -/
def verifyRemoveEntries (identity : Identity) (entries : List DiscoRemoveEntry) : Bool :=
  entries.all fun entry => (entry.entryId.bind identity.getResourceOffering).isSome

/-- The second loop, and whether it came to its end. A missing entry ID is refused with a code that
counts as a success. -/
def removeEntries : List DiscoRemoveEntry → Identity → Bool × Identity
  | [], identity => (true, identity)
  | entry :: entries, identity =>
    match entry.entryId with
    | none => removeEntries entries identity
    | some entryId =>
      match identity.removeResourceOffering entryId with
      | (true, identity) => removeEntries entries identity
      | (false, identity) => (false, identity)

/-- `g_stpcpy` to the end of the text in a buffer, with its terminating zero. There is no buffer of
no size. -/
def stpcpy (capacity : Nat) (buffer : Option String) (text : String) :
    Except Fault (Option String) :=
  match buffer with
  | none => .ok none
  | some written =>
    if written.utf8ByteSize + text.utf8ByteSize < capacity then .ok (some (written ++ text))
    else .error .overrun

/-- The third loop. The entry ID of an offering is read after it was added, also if there is none
to add. -/
def insertEntries (capacity : Nat) : List DiscoInsertEntry → Identity → Option String →
    Except Fault (Identity × Option String)
  | [], identity, buffer => .ok (identity, buffer)
  | entry :: entries, identity, buffer =>
    match entry.resourceOffering with
    | none => .error .nullPointer
    | some offering =>
      match identity.addResourceOffering offering with
      | none => .error .endless
      | some (entryId, identity) => do
        let buffer ← stpcpy capacity buffer entryId
        let buffer ← stpcpy capacity buffer " "
        insertEntries capacity entries identity buffer

/-- The size that is given to `g_malloc`, an unsigned number of 32 bits. -/
def newEntryIdsSize (request : DiscoModify) : Nat := 10 * request.insertEntry.length % 2 ^ 32

/-- What is left of the new entry IDs without the last blank. -/
def trimNewEntryIds (newEntryIds : String) : String := String.ofList newEntryIds.toList.dropLast

/-- The first two loops: the code, and the identity. -/
def removeVerified (entries : List DiscoRemoveEntry) (identity : Identity) : Rc × Identity :=
  if verifyRemoveEntries identity entries then
    match removeEntries entries identity with
    | (true, identity) => (.ok, identity)
    | (false, identity) => (.undefined, identity)
  else (.profile .missingResourceOffering, identity)

namespace WsfProfile

/-- What comes behind the loops. The status that would be set for a failure is `NULL`. -/
def finishModify (profile : WsfProfile) (res : Rc) (newEntryIds : Option String) :
    Except Fault (Rc × WsfProfile) := do
  let profile ←
    match newEntryIds, profile.response with
    | none, _ => .ok profile
    | some _, none => .error .nullPointer
    | some newEntryIds, some response =>
      .ok { profile with
        response := some { response with newEntryIds := some (trimNewEntryIds newEntryIds) } }
  if res ≠ .ok then .error .nullPointer
  else return profile.buildSoapResponseMsg

/-- `lasso_discovery_build_modify_response_msg` -/
def buildModifyResponseMsg (profile : WsfProfile) : Except Fault (Rc × WsfProfile) :=
  match profile.identity with
  | none => .ok (.profile .identityNotFound, profile)
  | some identity => do
    let (res, identity) := removeVerified profile.request.removeEntry identity
    let size := newEntryIdsSize profile.request
    let (identity, newEntryIds) ←
      insertEntries size profile.request.insertEntry identity (if size = 0 then none else some "")
    finishModify { profile with identity := some identity } res newEntryIds

end WsfProfile

/-! ## Removing -/

theorem removeResourceOffering_fst (identity : Identity) (entryId : String) :
    (identity.removeResourceOffering entryId).1 =
      (identity.getResourceOffering entryId).isSome := by
  unfold Identity.removeResourceOffering Identity.getResourceOffering
  cases identity.resourceOfferingsMap.lookup entryId <;> rfl

theorem removeEntries_cons (entryId : String) (entries : List DiscoRemoveEntry)
    (identity : Identity) :
    removeEntries (⟨some entryId⟩ :: entries) identity =
      if (identity.getResourceOffering entryId).isSome then
        removeEntries entries (identity.removeResourceOffering entryId).2
      else (false, (identity.removeResourceOffering entryId).2) := by
  rw [removeEntries, ← removeResourceOffering_fst]
  dsimp only
  generalize identity.removeResourceOffering entryId = result
  rcases result with ⟨_ | _, identity⟩ <;> rfl

/-- The second loop comes to its end if the entries are known and no two are the same, and then
they are gone. -/
theorem removeEntries_named (named : List String) (identity : Identity) :
    ((removeEntries (named.map fun id => ⟨some id⟩) identity).1 = true ↔
      named.Nodup ∧ ∀ id ∈ named, (identity.getResourceOffering id).isSome) ∧
    ((removeEntries (named.map fun id => ⟨some id⟩) identity).1 = true → ∀ key,
      (removeEntries (named.map fun id => ⟨some id⟩) identity).2.getResourceOffering key =
        if key ∈ named then none else identity.getResourceOffering key) := by
  induction named generalizing identity with
  | nil => simp [removeEntries]
  | cons id named ih =>
    have hremoved (key : String) :
        (identity.removeResourceOffering id).2.getResourceOffering key =
          if id = key then none else identity.getResourceOffering key :=
      Identity.lookup_removeResourceOffering identity id key
    obtain ⟨hend, hlookup⟩ := ih (identity.removeResourceOffering id).2
    rw [List.map_cons, removeEntries_cons]
    by_cases hknown : (identity.getResourceOffering id).isSome
    · rw [if_pos hknown]
      constructor
      · rw [hend, List.nodup_cons, List.forall_mem_cons]
        constructor
        · rintro ⟨hnodup, hrest⟩
          have hother : ∀ other ∈ named,
              id ≠ other ∧ (identity.getResourceOffering other).isSome := by
            intro other hmem
            have hother := hrest other hmem
            rw [hremoved] at hother
            split_ifs at hother with heq
            · cases hother
            · exact ⟨heq, hother⟩
          exact ⟨⟨fun hmem => (hother id hmem).1 rfl, hnodup⟩, hknown,
            fun other hmem => (hother other hmem).2⟩
        · rintro ⟨⟨hnew, hnodup⟩, -, hrest⟩
          refine ⟨hnodup, fun other hmem => ?_⟩
          have hne : id ≠ other := fun heq => hnew (heq ▸ hmem)
          rw [hremoved, if_neg hne]
          exact hrest other hmem
      · intro hok key
        rw [hlookup hok, hremoved]
        by_cases hmem : key ∈ named
        · rw [if_pos hmem, if_pos (List.mem_cons_of_mem id hmem)]
        · rw [if_neg hmem]
          simp only [List.mem_cons, hmem, or_false, eq_comm]
    · rw [if_neg hknown]
      simp [hknown]

/-- Both loops over the entries to remove. -/
theorem verify_removeEntries {entries : List DiscoRemoveEntry} {identity : Identity} :
    (verifyRemoveEntries identity entries = true ∧ (removeEntries entries identity).1 = true) ↔
      ∃ named : List String, entries = named.map (fun id => ⟨some id⟩) ∧ named.Nodup ∧
        ∀ id ∈ named, (identity.getResourceOffering id).isSome := by
  constructor
  · rintro ⟨hverify, hremove⟩
    obtain ⟨named, rfl⟩ :
        entries ∈ Set.range (List.map fun id => (⟨some id⟩ : DiscoRemoveEntry)) := by
      rw [Set.range_list_map]
      intro entry hmem
      have hknown := List.all_eq_true.mp hverify entry hmem
      obtain ⟨_ | id⟩ := entry
      · cases hknown
      · exact ⟨id, rfl⟩
    exact ⟨named, rfl, (removeEntries_named named identity).1.mp hremove⟩
  · rintro ⟨named, rfl, hnodup, hknown⟩
    exact ⟨by simpa [verifyRemoveEntries] using hknown,
      (removeEntries_named named identity).1.mpr ⟨hnodup, hknown⟩⟩

/-! ## Inserting -/

/-- The offerings added one after the other, with their entry IDs. -/
def addResourceOfferings : List DiscoResourceOffering → Identity → Option (List String × Identity)
  | [], identity => some ([], identity)
  | offering :: offerings, identity => do
    let (entryId, identity) ← identity.addResourceOffering offering
    let (entryIds, identity) ← addResourceOfferings offerings identity
    return (entryId :: entryIds, identity)

theorem addResourceOfferings_cons {offering : DiscoResourceOffering}
    {offerings : List DiscoResourceOffering} {identity after : Identity} {ids : List String} :
    addResourceOfferings (offering :: offerings) identity = some (ids, after) ↔
      ∃ entryId next rest, identity.addResourceOffering offering = some (entryId, next) ∧
        addResourceOfferings offerings next = some (rest, after) ∧ ids = entryId :: rest := by
  rw [addResourceOfferings]
  simp only [bind, Option.bind_eq_some_iff, pure, Option.some.injEq, Prod.mk.injEq, Prod.exists]
  constructor
  · rintro ⟨entryId, next, hadd, rest, last, hrest, rfl, rfl⟩
    exact ⟨entryId, next, rest, hadd, hrest, rfl⟩
  · rintro ⟨entryId, next, rest, hadd, hrest, rfl⟩
    exact ⟨entryId, next, hadd, rest, after, hrest, rfl, rfl⟩

/-- The entry IDs are new and distinct, and the offerings are found under them. -/
theorem addResourceOfferings_eq_some {offerings : List DiscoResourceOffering}
    {identity after : Identity} {ids : List String}
    (h : addResourceOfferings offerings identity = some (ids, after)) :
    ids.length = offerings.length ∧ ids.Nodup ∧
      (∀ id ∈ ids, identity.getResourceOffering id = none) ∧
      ∀ key, after.getResourceOffering key =
        match (ids.zip offerings).lookup key with
        | some offering => some { offering with entryId := some key }
        | none => identity.getResourceOffering key := by
  induction offerings generalizing identity ids with
  | nil =>
    obtain ⟨rfl, rfl⟩ := Prod.mk.inj (Option.some.inj h)
    simp
  | cons offering offerings ih =>
    obtain ⟨entryId, next, rest, hadd, hrest, rfl⟩ := addResourceOfferings_cons.mp h
    obtain ⟨hfree, hmap, -⟩ := Identity.addResourceOffering_eq_some hadd
    obtain ⟨hlength, hnodup, hnew, hlookup⟩ := ih hrest
    have hself :
        next.getResourceOffering entryId = some { offering with entryId := some entryId } := by
      rw [Identity.getResourceOffering, hmap, AList.lookup_insert]
    have hother (key : String) (hne : key ≠ entryId) :
        next.getResourceOffering key = identity.getResourceOffering key := by
      rw [Identity.getResourceOffering, hmap, AList.lookup_insert_ne hne]
      rfl
    have hnotMem : entryId ∉ rest := by
      intro hmem
      rw [hnew entryId hmem] at hself
      cases hself
    refine ⟨by simp [hlength], List.nodup_cons.mpr ⟨hnotMem, hnodup⟩,
      List.forall_mem_cons.mpr ⟨hfree, fun id hmem => ?_⟩, fun key => ?_⟩
    · rw [← hother id (fun heq => hnotMem (heq ▸ hmem))]
      exact hnew id hmem
    · rw [hlookup key, List.zip_cons_cons, List.lookup_cons]
      by_cases hkey : key = entryId
      · subst hkey
        have hnone : (rest.zip offerings).lookup key = none := by
          refine List.lookup_eq_none_iff.mpr fun entry hentry => ?_
          rw [bne_iff_ne]
          exact fun heq => hnotMem (heq ▸ (List.of_mem_zip hentry).1)
        rw [hnone, beq_self_eq_true]
        exact hself
      · rw [beq_eq_false_iff_ne.mpr hkey]
        cases (rest.zip offerings).lookup key with
        | some found => rfl
        | none => exact hother key hkey

/-- The text of entry IDs in the buffer, each with a blank behind it. -/
def entryIdsText (ids : List String) : String := String.join (ids.map (· ++ " "))

theorem entryIdsText_cons (id : String) (ids : List String) :
    entryIdsText (id :: ids) = id ++ " " ++ entryIdsText ids := by
  rw [entryIdsText, List.map_cons, String.join_cons]
  rfl

theorem append_entryIdsText (written id : String) (ids : List String) :
    written ++ (id ++ " ") ++ entryIdsText ids = written ++ entryIdsText (id :: ids) := by
  rw [entryIdsText_cons, String.append_assoc]

theorem trimNewEntryIds_entryIdsText {ids : List String} (h : ids ≠ []) :
    trimNewEntryIds (entryIdsText ids) = String.intercalate " " ids := by
  apply String.toList_inj.mp
  rw [trimNewEntryIds, String.toList_ofList]
  induction ids with
  | nil => contradiction
  | cons id ids ih =>
    rw [entryIdsText_cons]
    cases ids with
    | nil => simp [entryIdsText]
    | cons next ids =>
      have hne : (entryIdsText (next :: ids)).toList ≠ [] := by simp [entryIdsText_cons]
      rw [String.intercalate_cons_cons]
      simp only [String.toList_append]
      rw [← ih (by simp), List.dropLast_append_of_ne_nil hne]

/-- Both writes for one entry ID. -/
theorem stpcpy_entryId (capacity : Nat) (written entryId : String) :
    (do
      let buffer ← stpcpy capacity (some written) entryId
      stpcpy capacity buffer " ") =
      if (written ++ (entryId ++ " ")).utf8ByteSize < capacity then
        .ok (some (written ++ (entryId ++ " ")))
      else .error .overrun := by
  have hblank : " ".utf8ByteSize = 1 := rfl
  simp only [stpcpy, String.utf8ByteSize_append, hblank, ← String.append_assoc]
  by_cases hid : written.utf8ByteSize + entryId.utf8ByteSize < capacity
  · rw [if_pos hid]
    simp only [bind, Except.bind, String.utf8ByteSize_append]
  · rw [if_neg hid, if_neg (by omega)]
    rfl

theorem insertEntries_cons {capacity : Nat} {offering : DiscoResourceOffering}
    {entries : List DiscoInsertEntry} {identity next : Identity} {written entryId : String}
    (h : identity.addResourceOffering offering = some (entryId, next)) :
    insertEntries capacity (⟨some offering⟩ :: entries) identity (some written) =
      if (written ++ (entryId ++ " ")).utf8ByteSize < capacity then
        insertEntries capacity entries next (some (written ++ (entryId ++ " ")))
      else .error .overrun := by
  have hbind : insertEntries capacity (⟨some offering⟩ :: entries) identity (some written) =
      (do
        let buffer ← stpcpy capacity (some written) entryId
        stpcpy capacity buffer " ") >>= fun buffer =>
          insertEntries capacity entries next buffer := by
    rw [insertEntries]
    dsimp only
    rw [h, bind_assoc]
  rw [hbind, stpcpy_entryId]
  split_ifs <;> rfl

/-- The third loop, with a buffer that has room for the terminating zero: every entry has an
offering, there are entry IDs for them, and their texts fit. -/
theorem insertEntries_eq_ok {capacity : Nat} {entries : List DiscoInsertEntry}
    {identity after : Identity} {written : String} {buffer : Option String}
    (hwritten : written.utf8ByteSize < capacity) :
    insertEntries capacity entries identity (some written) = .ok (after, buffer) ↔
      ∃ offerings ids, entries = offerings.map (fun offering => ⟨some offering⟩) ∧
        addResourceOfferings offerings identity = some (ids, after) ∧
        buffer = some (written ++ entryIdsText ids) ∧
        (written ++ entryIdsText ids).utf8ByteSize < capacity := by
  induction entries generalizing identity written with
  | nil =>
    constructor
    · intro h
      obtain ⟨rfl, rfl⟩ := Prod.mk.inj (Except.ok.inj h)
      exact ⟨[], [], rfl, rfl, by simp [entryIdsText], by simpa [entryIdsText] using hwritten⟩
    · rintro ⟨offerings, ids, hentries, hadd, rfl, -⟩
      obtain rfl : offerings = [] := List.map_eq_nil_iff.mp hentries.symm
      obtain ⟨rfl, rfl⟩ := Prod.mk.inj (Option.some.inj hadd)
      simp [insertEntries, entryIdsText]
  | cons entry entries ih =>
    obtain ⟨_ | offering⟩ := entry
    · constructor
      · intro h
        cases h
      · rintro ⟨offerings, ids, hentries, -⟩
        cases offerings <;> simp at hentries
    · cases hadd : identity.addResourceOffering offering with
      | none =>
        constructor
        · intro h
          rw [insertEntries] at h
          simp [hadd] at h
        · rintro ⟨_ | ⟨first, offerings⟩, ids, hentries, hall, -⟩
          · cases hentries
          · obtain ⟨rfl, -⟩ := by simpa using hentries
            obtain ⟨_, _, _, hfirst, -⟩ := addResourceOfferings_cons.mp hall
            rw [hadd] at hfirst
            cases hfirst
      | some added =>
        obtain ⟨entryId, next⟩ := added
        rw [insertEntries_cons hadd]
        constructor
        · intro h
          split_ifs at h with hfits
          obtain ⟨offerings, ids, rfl, hall, rfl, hsize⟩ := (ih hfits).mp h
          rw [append_entryIdsText] at hsize ⊢
          exact ⟨offering :: offerings, entryId :: ids, rfl,
            addResourceOfferings_cons.mpr ⟨entryId, next, ids, hadd, hall, rfl⟩, rfl, hsize⟩
        · rintro ⟨_ | ⟨first, offerings⟩, ids, hentries, hall, rfl, hsize⟩
          · cases hentries
          · obtain ⟨rfl, hrest⟩ : offering = first ∧
                entries = offerings.map (fun offering => ⟨some offering⟩) := by
              simpa using hentries
            obtain ⟨entryId', next', ids, hadd', hall, rfl⟩ := addResourceOfferings_cons.mp hall
            obtain ⟨rfl, rfl⟩ := Prod.mk.inj (Option.some.inj (hadd.symm.trans hadd'))
            rw [← append_entryIdsText] at hsize
            have hfits : (written ++ (entryId ++ " ")).utf8ByteSize < capacity := by
              rw [String.utf8ByteSize_append] at hsize
              omega
            rw [if_pos hfits]
            exact (ih hfits).mpr ⟨offerings, ids, hrest, hall,
              congrArg some (append_entryIdsText written entryId ids).symm, hsize⟩

/-- Without a buffer nothing is written. -/
theorem insertEntries_none {capacity : Nat} {entries : List DiscoInsertEntry}
    {identity after : Identity} {buffer : Option String}
    (h : insertEntries capacity entries identity none = .ok (after, buffer)) : buffer = none := by
  induction entries generalizing identity with
  | nil => exact (Prod.mk.inj (Except.ok.inj h)).2.symm
  | cons entry entries ih =>
    rw [insertEntries] at h
    split at h
    · cases h
    · split at h
      · cases h
      · exact ih h

/-! ## What a request asks for -/

/-- The request is applied: the offerings have been put under new entry IDs, which the response
lists, the named entries are gone, and all others are as before. -/
def Applied (request : DiscoModify) (before after : Identity)
    (response : Option DiscoModifyResponse) : Prop :=
  ∃ (newIds : List String) (offerings : List DiscoResourceOffering),
    request.insertEntry = offerings.map (fun offering => ⟨some offering⟩) ∧
    newIds.length = offerings.length ∧ newIds.Nodup ∧
    (∀ id ∈ newIds, (before.getResourceOffering id).isSome →
      some id ∈ request.removeEntry.map (·.entryId)) ∧
    (∀ key, after.getResourceOffering key =
      match (newIds.zip offerings).lookup key with
      | some offering => some { offering with entryId := some key }
      | none =>
        if some key ∈ request.removeEntry.map (·.entryId) then none
        else before.getResourceOffering key) ∧
    response = some {
      status := "OK"
      newEntryIds := if newIds = [] then none else some (String.intercalate " " newIds) }

namespace WsfProfile

/-- The request is applied, and zero returned, or it is refused with status Failed, and the
offerings are as before. -/
def AppliesOrRefuses (profile : WsfProfile) : Prop :=
  ∃ rc profile', profile.buildModifyResponseMsg = .ok (rc, profile') ∧
    ((rc = .ok ∧ ∃ before after, profile.identity = some before ∧ profile'.identity = some after ∧
        Applied profile.request before after profile'.response) ∨
      (rc ≠ .ok ∧ profile'.response.map (·.status) = some "Failed" ∧
        profile'.identity.map (·.resourceOfferingsMap) =
          profile.identity.map (·.resourceOfferingsMap)))

/-- Nothing goes wrong in any loop: the entries to remove are known and distinct, every entry to
insert has an offering, and the next entry IDs fit into ten bytes each, with a blank behind each of
them and the zero at the end. -/
def CanApply (profile : WsfProfile) : Prop :=
  ∃ (identity after : Identity) (named newIds : List String)
      (offerings : List DiscoResourceOffering),
    profile.identity = some identity ∧
    profile.request.removeEntry = named.map (fun id => ⟨some id⟩) ∧ named.Nodup ∧
    (∀ id ∈ named, (identity.getResourceOffering id).isSome) ∧
    profile.request.insertEntry = offerings.map (fun offering => ⟨some offering⟩) ∧
    addResourceOfferings offerings (removeEntries profile.request.removeEntry identity).2 =
      some (newIds, after) ∧
    (offerings = [] ∨ (entryIdsText newIds).utf8ByteSize < newEntryIdsSize profile.request)

/-- In its envelope a response can be built, whatever fault there is. -/
theorem buildSoapResponseMsg_eq_ok {profile : WsfProfile}
    (h : profile.soapEnvelopeResponse = some { body := some [.response] }) :
    ∃ profile', profile.buildSoapResponseMsg = (.ok, profile') ∧
      profile'.identity = profile.identity ∧ profile'.response = profile.response := by
  unfold buildSoapResponseMsg
  rw [h]
  dsimp only
  split_ifs
  · exact ⟨_, rfl, rfl, rfl⟩
  · exact ⟨_, rfl, rfl, rfl⟩

theorem finishModify_eq_ok (profile : WsfProfile) {res rc : Rc} {newEntryIds : Option String}
    {identity : Option Identity} {response : Option DiscoModifyResponse} :
    (∃ profile', finishModify profile.initModifyResponse res newEntryIds = .ok (rc, profile') ∧
        profile'.identity = identity ∧ profile'.response = response) ↔
      res = .ok ∧ rc = .ok ∧ profile.identity = identity ∧
        response = some { status := "OK", newEntryIds := newEntryIds.map trimNewEntryIds } := by
  -- a buffer without entry IDs leaves the response alone
  have hfinish : ∃ next : WsfProfile, next.identity = profile.identity ∧
      next.response = some { status := "OK", newEntryIds := newEntryIds.map trimNewEntryIds } ∧
      next.soapEnvelopeResponse = some { body := some [.response] } ∧
      finishModify profile.initModifyResponse res newEntryIds =
        if res ≠ .ok then .error .nullPointer else .ok next.buildSoapResponseMsg := by
    cases newEntryIds with
    | none => exact ⟨profile.initModifyResponse, rfl, rfl, rfl, rfl⟩
    | some text =>
      let response : DiscoModifyResponse :=
        { status := "OK", newEntryIds := some (trimNewEntryIds text) }
      exact ⟨{ profile.initModifyResponse with response := some response }, rfl, rfl, rfl, rfl⟩
  obtain ⟨next, hidentity, hresponse, henvelope, hfinish⟩ := hfinish
  obtain ⟨profile', hbuild, hidentity', hresponse'⟩ := buildSoapResponseMsg_eq_ok henvelope
  rw [hfinish, hbuild]
  by_cases hres : res = .ok
  · rw [if_neg (not_not.mpr hres)]
    constructor
    · rintro ⟨_, heq, rfl, rfl⟩
      obtain ⟨rfl, rfl⟩ := Prod.mk.inj (Except.ok.inj heq)
      exact ⟨hres, rfl, (hidentity'.trans hidentity).symm, hresponse'.trans hresponse⟩
    · rintro ⟨-, rfl, rfl, rfl⟩
      exact ⟨profile', rfl, hidentity'.trans hidentity, hresponse'.trans hresponse⟩
  · rw [if_pos hres]
    constructor
    · rintro ⟨_, heq, -⟩
      cases heq
    · rintro ⟨hok, -⟩
      exact absurd hok hres

theorem removeVerified_fst {entries : List DiscoRemoveEntry} {identity : Identity} :
    (removeVerified entries identity).1 = .ok ↔
      verifyRemoveEntries identity entries = true ∧ (removeEntries entries identity).1 = true := by
  unfold removeVerified
  cases verifyRemoveEntries identity entries with
  | false => simp
  | true =>
    rcases removeEntries entries identity with ⟨_ | _, next⟩ <;> simp

theorem removeVerified_snd {entries : List DiscoRemoveEntry} {identity : Identity}
    (h : (removeVerified entries identity).1 = .ok) :
    (removeVerified entries identity).2 = (removeEntries entries identity).2 := by
  unfold removeVerified at h ⊢
  cases hverify : verifyRemoveEntries identity entries with
  | false => simp [hverify] at h
  | true => rcases removeEntries entries identity with ⟨_ | _, next⟩ <;> rfl

/-- The function returns for an identity if the entries can be removed and the third loop
returns. -/
theorem buildModifyResponseMsg_eq_ok {profile : WsfProfile} {identity : Identity}
    (hidentity : profile.identity = some identity) {rc : Rc} {after : Option Identity}
    {response : Option DiscoModifyResponse} :
    (∃ profile', profile.initModifyResponse.buildModifyResponseMsg = .ok (rc, profile') ∧
        profile'.identity = after ∧ profile'.response = response) ↔
      (removeVerified profile.request.removeEntry identity).1 = .ok ∧ rc = .ok ∧
      ∃ last buffer,
        insertEntries (newEntryIdsSize profile.request) profile.request.insertEntry
          (removeVerified profile.request.removeEntry identity).2
          (if newEntryIdsSize profile.request = 0 then none else some "") = .ok (last, buffer) ∧
        some last = after ∧
        response = some { status := "OK", newEntryIds := buffer.map trimNewEntryIds } := by
  have hinit : profile.initModifyResponse.identity = some identity := hidentity
  have hrequest : profile.initModifyResponse.request = profile.request := rfl
  unfold buildModifyResponseMsg
  rw [hinit, hrequest]
  dsimp only
  constructor
  · rintro ⟨profile', hbuild, rfl, rfl⟩
    obtain ⟨⟨last, buffer⟩, hinsert, hfinish⟩ := Outcome.bind_eq_ok.mp hbuild
    obtain ⟨hres, hrc, hlast, hresponse⟩ :=
      (finishModify_eq_ok { profile with identity := some last }).mp ⟨profile', hfinish, rfl, rfl⟩
    exact ⟨hres, hrc, last, buffer, hinsert, hlast, hresponse⟩
  · rintro ⟨hres, hrc, last, buffer, hinsert, hlast, hresponse⟩
    obtain ⟨profile', hfinish, hidentity', hresponse'⟩ :=
      (finishModify_eq_ok { profile with identity := some last }).mpr
        ⟨hres, hrc, hlast, hresponse⟩
    exact ⟨profile', Outcome.bind_eq_ok.mpr ⟨_, hinsert, hfinish⟩, hidentity', hresponse'⟩

/-- What the loops leave when nothing goes wrong. -/
theorem applied_of_loops {request : DiscoModify} {identity after : Identity}
    {named newIds : List String} {offerings : List DiscoResourceOffering}
    (hremove : request.removeEntry = named.map fun id => ⟨some id⟩) (hnodup : named.Nodup)
    (hknown : ∀ id ∈ named, (identity.getResourceOffering id).isSome)
    (hinsert : request.insertEntry = offerings.map fun offering => ⟨some offering⟩)
    (hadd : addResourceOfferings offerings (removeEntries request.removeEntry identity).2 =
      some (newIds, after)) :
    Applied request identity after (some {
      status := "OK"
      newEntryIds := if newIds = [] then none else some (String.intercalate " " newIds) }) := by
  have hnamed (key : String) : some key ∈ request.removeEntry.map (·.entryId) ↔ key ∈ named := by
    simp [hremove]
  have hremoved (key : String) :
      (removeEntries request.removeEntry identity).2.getResourceOffering key =
        if key ∈ named then none else identity.getResourceOffering key := by
    obtain ⟨hend, hlookup⟩ := removeEntries_named named identity
    rw [hremove]
    exact hlookup (hend.mpr ⟨hnodup, hknown⟩) key
  obtain ⟨hlength, hdistinct, hnew, hlookup⟩ := addResourceOfferings_eq_some hadd
  refine ⟨newIds, offerings, hinsert, hlength, hdistinct, fun id hmem hsome => ?_,
    fun key => ?_, rfl⟩
  · rw [hnamed]
    by_contra hother
    have hnone := hnew id hmem
    rw [hremoved, if_neg hother] at hnone
    rw [hnone] at hsome
    cases hsome
  · rw [hlookup, hremoved]
    simp only [hnamed]

/-- Where the entry IDs fit, the third loop comes to its end and lists them. -/
theorem insertEntries_of_fits {request : DiscoModify} {identity after : Identity}
    {newIds : List String} {offerings : List DiscoResourceOffering}
    (hinsert : request.insertEntry = offerings.map fun offering => ⟨some offering⟩)
    (hadd : addResourceOfferings offerings identity = some (newIds, after))
    (hfits : offerings = [] ∨ (entryIdsText newIds).utf8ByteSize < newEntryIdsSize request) :
    ∃ buffer,
      insertEntries (newEntryIdsSize request) request.insertEntry identity
        (if newEntryIdsSize request = 0 then none else some "") = .ok (after, buffer) ∧
      buffer.map trimNewEntryIds =
        if newIds = [] then none else some (String.intercalate " " newIds) := by
  by_cases hnone : offerings = []
  · subst hnone
    obtain ⟨rfl, rfl⟩ := Prod.mk.inj (Option.some.inj hadd)
    have hsize : newEntryIdsSize request = 0 := by simp [newEntryIdsSize, hinsert]
    rw [hsize, hinsert]
    exact ⟨none, rfl, rfl⟩
  · have hfits := hfits.resolve_left hnone
    have hlength := (addResourceOfferings_eq_some hadd).1
    have hne : newIds ≠ [] := fun hnil => hnone (by simpa [hnil] using hlength.symm)
    have hsize : newEntryIdsSize request ≠ 0 := by omega
    rw [if_neg hsize]
    refine ⟨some ("" ++ entryIdsText newIds), ?_, ?_⟩
    · refine (insertEntries_eq_ok (Nat.pos_of_ne_zero hsize)).mpr
        ⟨offerings, newIds, hinsert, hadd, rfl, ?_⟩
      rwa [String.empty_append]
    · rw [if_neg hne, String.empty_append, Option.map_some, trimNewEntryIds_entryIdsText hne]

theorem appliesOrRefuses_of_canApply {profile : WsfProfile} (h : profile.CanApply) :
    profile.initModifyResponse.AppliesOrRefuses := by
  obtain ⟨identity, after, named, newIds, offerings, hidentity, hremove, hnodup, hknown, hinsert,
    hadd, hfits⟩ := h
  have hres := removeVerified_fst.mpr
    (verify_removeEntries.mpr ⟨named, hremove, hnodup, hknown⟩)
  obtain ⟨buffer, hloop, hids⟩ := insertEntries_of_fits hinsert hadd hfits
  rw [← removeVerified_snd hres] at hloop
  obtain ⟨profile', hbuild, hafter, hresponse⟩ := (buildModifyResponseMsg_eq_ok hidentity).mpr
    ⟨hres, rfl, after, buffer, hloop, rfl, rfl⟩
  refine ⟨.ok, profile', hbuild, .inl ⟨rfl, identity, after, hidentity, hafter, ?_⟩⟩
  rw [hresponse, hids]
  exact applied_of_loops hremove hnodup hknown hinsert hadd

/-- Without an identity the response has no status Failed. -/
theorem isSome_identity_of_appliesOrRefuses {profile : WsfProfile}
    (h : profile.initModifyResponse.AppliesOrRefuses) : profile.identity.isSome = true := by
  cases hidentity : profile.identity with
  | some identity => rfl
  | none =>
    have hinit : profile.initModifyResponse.identity = none := hidentity
    obtain ⟨rc, profile', hbuild, happlied | hrefused⟩ := h
    · obtain ⟨-, before, -, hbefore, -⟩ := happlied
      rw [hinit] at hbefore
      cases hbefore
    · unfold buildModifyResponseMsg at hbuild
      rw [hinit] at hbuild
      obtain ⟨rfl, rfl⟩ := Prod.mk.inj (Except.ok.inj hbuild)
      have hstatus : some "OK" = some "Failed" := hrefused.2.1
      exact absurd hstatus (by decide)

theorem canApply_of_appliesOrRefuses {profile : WsfProfile}
    (h : profile.initModifyResponse.AppliesOrRefuses) : profile.CanApply := by
  obtain ⟨identity, hidentity⟩ :=
    Option.isSome_iff_exists.mp (isSome_identity_of_appliesOrRefuses h)
  obtain ⟨rc, profile', hbuild, hcase⟩ := h
  obtain ⟨hres, hrc, last, buffer, hinsert, hlast, hresponse⟩ :=
    (buildModifyResponseMsg_eq_ok hidentity).mp ⟨profile', hbuild, rfl, rfl⟩
  obtain ⟨-, before, after, -, -, newIds, offerings, hentries, hlength, -, -, -, hlist⟩ :=
    hcase.resolve_right fun hrefused => hrefused.1 hrc
  obtain ⟨named, hremove, hnodup, hknown⟩ := verify_removeEntries.mp (removeVerified_fst.mp hres)
  rw [removeVerified_snd hres] at hinsert
  by_cases hsize : newEntryIdsSize profile.request = 0
  · -- without a buffer the response lists no entry IDs
    rw [if_pos hsize] at hinsert
    obtain rfl := insertEntries_none hinsert
    have hnil : newIds = [] := by
      by_contra hne
      simpa [hne] using hresponse.symm.trans hlist
    obtain rfl : offerings = [] := by simpa [hnil] using hlength.symm
    exact ⟨identity, _, named, [], [], hidentity, hremove, hnodup, hknown, hentries, rfl, .inl rfl⟩
  · rw [if_neg hsize] at hinsert
    obtain ⟨offerings, newIds, hentries, hadd, -, hfits⟩ :=
      (insertEntries_eq_ok (Nat.pos_of_ne_zero hsize)).mp hinsert
    rw [String.empty_append] at hfits
    exact ⟨identity, last, named, newIds, offerings, hidentity, hremove, hnodup, hknown, hentries,
      hadd, .inr hfits⟩

/-- The request is applied or refused just if nothing goes wrong in any loop. -/
theorem appliesOrRefuses_iff (profile : WsfProfile) :
    profile.initModifyResponse.AppliesOrRefuses ↔ profile.CanApply :=
  ⟨canApply_of_appliesOrRefuses, appliesOrRefuses_of_canApply⟩

/-- The identity of a principal with one offering. -/
def oneOffering : Identity where
  resourceOfferingsMap := AList.insert "0" { entryId := some "0" } ∅
  lastEntryId := 1

/-- A request to remove it twice. -/
def removeTwice : WsfProfile where
  identity := some oneOffering
  request := { removeEntry := [⟨some "0"⟩, ⟨some "0"⟩] }
  response := none
  soapEnvelopeResponse := none

/-- That stops the process. -/
theorem not_appliesOrRefuses :
    ¬ ∀ profile : WsfProfile, profile.initModifyResponse.AppliesOrRefuses := by
  intro hall
  obtain ⟨rc, profile', hbuild, -⟩ := hall removeTwice
  have hfault : removeTwice.initModifyResponse.buildModifyResponseMsg = .error .nullPointer := rfl
  rw [hfault] at hbuild
  cases hbuild

end WsfProfile

end IdWsf

end Lasso
