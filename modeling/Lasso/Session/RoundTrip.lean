import Lasso.Session.Index

/-!
# A dumped session restored

What a session holds under one key is a `View` of it, and everything that the restoration of a dump
does changes the view at one key only. The restored session therefore has at every key what the
four passes over the tables make of an empty view: the entries that the stored assertion gives come
first, then those of the dumped index that are not among them.

## Main results

* `view_restore` — what a restored session holds under a key.
* `restore_getXmlNode` — when the restored session is the dumped one.
-/

namespace Lasso

open Distinct Run

/-- The index entries that an assertion gives. -/
def assertionEntries : LassoNode → List NidAndSessionIndex
  | .samlAssertion a =>
    match (a.subjectStatement.or a.authenticationStatement).bind (·.nameIdentifier),
      a.authenticationStatement with
    | some nameIdentifier, some authStatement =>
      if authStatement.isLibAuthenticationStatement then
        authStatement.sessionIndex.toList.map fun sessionIndex => {
          nameId := .samlNameIdentifier nameIdentifier
          assertionId := a.assertionId
          sessionIndex := some sessionIndex }
      else []
    | _, _ => []
  | .saml2Assertion a => a.nameId.elim [] a.sessionEntries
  | _ => []

/-- A dumped entry as it is read: the attribute for its assertion is always there. -/
def NidAndSessionIndex.reread (e : NidAndSessionIndex) : NidAndSessionIndex :=
  { e with assertionId := some (e.assertionId.getD "") }

namespace Session

variable {codec : SessionCodec} {s : Session} {providerId key : String}

theorem addAssertionNidAndSessionIndex_snd (s : Session) (providerId : String)
    (assertion : LassoNode) :
    (s.addAssertionNidAndSessionIndex providerId assertion).2 =
      (assertionEntries assertion).foldl (addNidAndSessionIndex · providerId ·) s := by
  cases assertion with
  | samlAssertion a =>
    simp only [addAssertionNidAndSessionIndex, assertionEntries]
    cases a.subjectStatement.or a.authenticationStatement with
    | none => rfl
    | some ss =>
      cases hname : ss.nameIdentifier with
      | none => simp [hname]
      | some nameIdentifier =>
        cases a.authenticationStatement with
        | none => simp [hname]
        | some authStatement =>
          cases hlib : authStatement.isLibAuthenticationStatement with
          | false => simp [hname, hlib]
          | true =>
            cases hindex : authStatement.sessionIndex with
            | none => simp [hname, hlib, hindex]
            | some sessionIndex => simp [hname, hlib, hindex]
  | saml2Assertion a =>
    simp only [addAssertionNidAndSessionIndex, assertionEntries]
    cases a.nameId with
    | none => rfl
    | some nameId => rfl
  | _ => rfl

/-! ## The session under one key -/

/-- What a session holds under a key. -/
structure View where
  assertion : Option LassoNode := none
  status : Option (Option LassoNode) := none
  assertionById : Option XmlNode := none
  entries : List NidAndSessionIndex := []

def view (s : Session) (key : String) : View where
  assertion := s.assertions.lookup key
  status := s.status.lookup key
  assertionById := s.assertionsById.lookup key
  entries := s.entries key

/-- The function changes what a session holds under `key` by `F`, and nothing else. -/
def ActsOn (f : Session → Session) (key : String) (F : View → View) : Prop :=
  ∀ s q, (f s).view q = if q = key then F (s.view q) else s.view q

theorem ActsOn.id (key : String) : ActsOn id key id := fun s q => by simp

theorem ActsOn.comp {f g : Session → Session} {F G : View → View} (hg : ActsOn g key G)
    (hf : ActsOn f key F) : ActsOn (g ∘ f) key (G ∘ F) := by
  intro s q
  rw [Function.comp_apply, hg, hf]
  split_ifs <;> rfl

theorem ActsOn.congr {f g : Session → Session} {F : View → View} (h : ∀ s, f s = g s)
    (hg : ActsOn g key F) : ActsOn f key F := by
  intro s q
  rw [h]
  exact hg s q

theorem actsOn_addNidAndSessionIndex (key : String) (e : NidAndSessionIndex) :
    ActsOn (addNidAndSessionIndex · key e) key
      fun v => { v with entries := insertNew NidAndSessionIndex.sameAs v.entries e } := by
  intro s q
  have hassertions : (s.addNidAndSessionIndex key e).assertions = s.assertions :=
    addNidAndSessionIndex_assertions e
  have hrest : (s.addNidAndSessionIndex key e).status = s.status ∧
      (s.addNidAndSessionIndex key e).assertionsById = s.assertionsById := by
    unfold addNidAndSessionIndex
    split_ifs <;> exact ⟨rfl, rfl⟩
  simp only [view, hassertions, hrest]
  split_ifs with hq
  · subst hq
    rw [entries_addNidAndSessionIndex]
    rfl
  · rw [entries_addNidAndSessionIndex_of_ne hq]

theorem actsOn_foldl (key : String) (es : List NidAndSessionIndex) :
    ActsOn (fun s => es.foldl (addNidAndSessionIndex · key ·) s) key
      fun v => { v with entries := insertAll NidAndSessionIndex.sameAs v.entries es } := by
  induction es with
  | nil => exact .id key
  | cons e es ih => exact ih.comp (actsOn_addNidAndSessionIndex key e)

/-! ## One child of the dump -/

theorem actsOn_assertion {a : LassoNode}
    (hcodec : codec.newFromXmlNode (codec.getXmlNode a true).val = some a) :
    ActsOn (initFromXmlChild codec · (objectChildnode codec "Assertion" key (some a))) key
      fun v => { v with
        assertion := if codec.thinSessions then v.assertion else some a
        entries := insertAll NidAndSessionIndex.sameAs v.entries (assertionEntries a) } := by
  have hread (s : Session) :
      initFromXmlChild codec s (objectChildnode codec "Assertion" key (some a)) =
        (assertionEntries a).foldl (addNidAndSessionIndex · key ·)
          (s.addAssertionSimple codec.toEnv (some key) a).2 := by
    rw [← addAssertionNidAndSessionIndex_snd]
    have hfirst : (objectChildnode codec "Assertion" key (some a)).firstElement =
        some (codec.getXmlNode a true).val := by
      simp [objectChildnode, XmlNode.firstElement, XmlNode.children, (codec.getXmlNode a true).2]
    have hbranch : s.initFromXmlAssertion codec (objectChildnode codec "Assertion" key (some a)) =
        ((s.addAssertionSimple codec.toEnv (some key) a).2.addAssertionNidAndSessionIndex key
          a).2 := by
      unfold initFromXmlAssertion
      rw [hfirst]
      simp only [hcodec]
      rfl
    rw [← hbranch]
    rfl
  have hstored : ActsOn (fun s => (s.addAssertionSimple codec.toEnv (some key) a).2) key
      fun v => { v with assertion := if codec.thinSessions then v.assertion else some a } := by
    intro s q
    unfold addAssertionSimple
    dsimp only
    split_ifs with hthin hq hq
    · rfl
    · rfl
    · subst hq
      simp [view, entries]
    · simp [view, entries, AList.lookup_insert_ne hq]
  exact .congr hread ((actsOn_foldl key (assertionEntries a)).comp hstored)

theorem actsOn_status {status : Option LassoNode}
    (hcodec : ∀ n ∈ status, codec.newFromXmlNode (codec.getXmlNode n true).val = some n) :
    ActsOn (initFromXmlChild codec · (objectChildnode codec "Status" key status)) key
      fun v => { v with status := if status.isSome then some status else v.status } := by
  cases status with
  | none => exact .congr (g := id) (fun _ => rfl) (.id key)
  | some n =>
    have hfirst : (objectChildnode codec "Status" key (some n)).firstElement =
        some (codec.getXmlNode n true).val := by
      simp [objectChildnode, XmlNode.firstElement, XmlNode.children, (codec.getXmlNode n true).2]
    have hread (s : Session) :
        initFromXmlChild codec s (objectChildnode codec "Status" key (some n)) =
          { s with status := s.status.insert key (some n) } := by
      have hbranch : s.initFromXmlStatus codec (objectChildnode codec "Status" key (some n)) =
          { s with status := s.status.insert key (some n) } := by
        unfold initFromXmlStatus
        rw [hfirst, ← hcodec n rfl]
        rfl
      rw [← hbranch]
      rfl
    refine .congr hread ?_
    intro s q
    by_cases hq : q = key
    · subst hq
      simp [view, entries]
    · simp [view, entries, hq, AList.lookup_insert_ne hq]

theorem actsOn_assertionById {node : XmlNode}
    (hcodec : base64ToXmlNode codec (xmlNodeToBase64 codec node) = some node) :
    ActsOn (initFromXmlChild codec · (assertionByIdChildnode codec key node)) key
      fun v => { v with assertionById := some node } := by
  have hcontent : (assertionByIdChildnode codec key node).getContent =
      xmlNodeToBase64 codec node := by
    simp [assertionByIdChildnode, XmlNode.getContent, XmlNode.children]
  have hread (s : Session) : initFromXmlChild codec s (assertionByIdChildnode codec key node) =
      (s.addAssertionWithId (some key) node).2 := by
    have hbranch : s.initFromXmlAssertion codec (assertionByIdChildnode codec key node) =
        (s.addAssertionWithId (some key) node).2 := by
      have hfirst : (assertionByIdChildnode codec key node).firstElement = none := rfl
      unfold initFromXmlAssertion
      rw [hfirst, hcontent]
      simp only [hcodec]
      rfl
    rw [← hbranch]
    rfl
  refine .congr hread ?_
  intro s q
  split_ifs with hq
  · subst hq
    simp [view, entries, addAssertionWithId]
  · simp [view, entries, addAssertionWithId, AList.lookup_insert_ne hq]

theorem actsOn_nidAndSessionIndex {e : NidAndSessionIndex}
    (hcodec : codec.newFromXmlNode (codec.getXmlNode e.nameId false).val = some e.nameId) :
    ActsOn (initFromXmlChild codec · (nidAndSessionIndexChildnode codec key e)) key
      fun v => { v with entries := insertNew NidAndSessionIndex.sameAs v.entries e.reread } := by
  have hread (s : Session) : initFromXmlChild codec s (nidAndSessionIndexChildnode codec key e) =
      s.addNidAndSessionIndex key e.reread := by
    have hfirst : (nidAndSessionIndexChildnode codec key e).firstElement =
        some (codec.getXmlNode e.nameId false).val := by
      simp [nidAndSessionIndexChildnode, XmlNode.firstElement, XmlNode.children,
        (codec.getXmlNode e.nameId false).2]
    have hindex : (nidAndSessionIndexChildnode codec key e).getProp "SessionIndex" =
        e.sessionIndex := by
      cases hsession : e.sessionIndex <;>
        simp [nidAndSessionIndexChildnode, XmlNode.getProp, XmlNode.attrs, xmlProp, hsession]
    have hbranch : s.initFromXmlNidAndSessionIndex codec (nidAndSessionIndexChildnode codec key e) =
        s.addNidAndSessionIndex key e.reread := by
      unfold initFromXmlNidAndSessionIndex
      rw [hfirst, hindex]
      simp only [Option.bind_some, hcodec]
      rfl
    rw [← hbranch]
    rfl
  exact .congr hread (actsOn_addNidAndSessionIndex key e.reread)

/-! ## All children of the dump -/

theorem actsOn_map_nidAndSessionIndex {es : List NidAndSessionIndex}
    (hcodec : ∀ e ∈ es,
      codec.newFromXmlNode (codec.getXmlNode e.nameId false).val = some e.nameId) :
    ActsOn
      (fun s => (es.map (nidAndSessionIndexChildnode codec key)).foldl (initFromXmlChild codec) s)
      key fun v => { v with
        entries := insertAll NidAndSessionIndex.sameAs v.entries (es.map (·.reread)) } := by
  induction es with
  | nil => exact .id key
  | cons e es ih =>
    exact (ih fun e' he' => hcodec e' (List.mem_cons_of_mem e he')).comp
      (actsOn_nidAndSessionIndex (hcodec e List.mem_cons_self))

/-- Functions on keys that are visited once each leave at a key what the function for it does. -/
theorem view_foldl_keys {f : Session → String → Session} {F : String → View → View}
    (h : ∀ key, ActsOn (f · key) key (F key)) {keys : List String} (hkeys : keys.Nodup)
    (s : Session) (q : String) :
    (keys.foldl f s).view q = if q ∈ keys then F q (s.view q) else s.view q := by
  induction keys generalizing s with
  | nil => simp
  | cons key keys ih =>
    obtain ⟨hnotMem, hkeys⟩ := List.nodup_cons.mp hkeys
    rw [List.foldl_cons, ih hkeys, h key s q]
    by_cases hq : q = key
    · subst hq
      simp [hnotMem]
    · simp [hq]

/-- The pass over one table. -/
theorem view_foldl_foreachChildnode (horder : ∀ keys, (codec.foreachOrder keys).Perm keys)
    {β : Type} (table : AList fun _ : String => β) (childnodes : String → β → List XmlNode)
    {F : β → View → View}
    (h : ∀ key value, table.lookup key = some value →
      ActsOn (fun s => (childnodes key value).foldl (initFromXmlChild codec) s) key (F value))
    (s : Session) (q : String) :
    ((foreachChildnode codec table childnodes).foldl (initFromXmlChild codec) s).view q =
      (table.lookup q).elim (s.view q) (F · (s.view q)) := by
  have hkey (key : String) : ActsOn
      (fun s =>
        (((table.lookup key).map (childnodes key)).getD []).foldl (initFromXmlChild codec) s)
      key fun v => (table.lookup key).elim v (F · v) := by
    cases hvalue : table.lookup key with
    | none => exact .id key
    | some value => exact h key value hvalue
  have hnodup : (codec.foreachOrder table.keys).Nodup :=
    (horder table.keys).nodup_iff.mpr table.keys_nodup
  rw [foreachChildnode, List.foldl_flatMap, view_foldl_keys hkey hnodup]
  split_ifs with hq
  · rfl
  · have hnone : table.lookup q = none := by
      rwa [(horder _).mem_iff, ← AList.mem_keys, ← AList.lookup_eq_none] at hq
    rw [hnone]
    rfl

/-- The codecs bring back the nodes of the session, and every key of a table is visited. -/
structure RoundTrips (codec : SessionCodec) (s : Session) : Prop where
  order : ∀ keys, (codec.foreachOrder keys).Perm keys
  assertion : ∀ p, ∀ a ∈ s.getAssertion p,
    codec.newFromXmlNode (codec.getXmlNode a true).val = some a
  status : ∀ p, ∀ n ∈ s.getStatus p, codec.newFromXmlNode (codec.getXmlNode n true).val = some n
  assertionById : ∀ id, ∀ node ∈ s.getAssertionById id,
    base64ToXmlNode codec (xmlNodeToBase64 codec node) = some node
  nameId : ∀ p, ∀ e ∈ s.entries p,
    codec.newFromXmlNode (codec.getXmlNode e.nameId false).val = some e.nameId

/-- The entries that the stored assertion of a provider gives when the dump is read. -/
def derivedEntries (s : Session) (p : String) : List NidAndSessionIndex :=
  insertAll NidAndSessionIndex.sameAs [] (((s.getAssertion p).map assertionEntries).getD [])

/-- What a restored session holds under a key. -/
theorem view_restore (h : RoundTrips codec s) (q : String) :
    (restore codec (s.getXmlNode codec)).view q = {
      assertion := if codec.thinSessions then none else s.getAssertion q
      status := (s.status.lookup q).filter (·.isSome)
      assertionById := s.getAssertionById q
      entries := insertAll NidAndSessionIndex.sameAs (s.derivedEntries q)
        ((s.entries q).map (·.reread)) } := by
  have hassertions := view_foldl_foreachChildnode h.order s.assertions
    (fun key value => [objectChildnode codec "Assertion" key (some value)])
    fun key value hvalue => actsOn_assertion (h.assertion key value hvalue)
  have hstatus := view_foldl_foreachChildnode h.order s.status
    (fun key value => [objectChildnode codec "Status" key value])
    fun key value hvalue => actsOn_status fun n hn => h.status key n (by
      rw [getStatus, hvalue]
      exact hn)
  have hassertionsById := view_foldl_foreachChildnode h.order s.assertionsById
    (fun key value => [assertionByIdChildnode codec key value])
    fun key value hvalue => actsOn_assertionById (h.assertionById key value hvalue)
  have hindexes := view_foldl_foreachChildnode h.order s.nidAndSessionIndexes
    (fun key value => value.map (nidAndSessionIndexChildnode codec key))
    fun key value hvalue => actsOn_map_nidAndSessionIndex fun e he => h.nameId key e (by
      rw [entries, hvalue]
      exact he)
  unfold restore initFromXml
  simp only [getXmlNode, XmlNode.children, List.foldl_append]
  rw [hindexes, hassertionsById, hstatus, hassertions]
  have hempty : ({} : Session).view q = {} := rfl
  rw [hempty, derivedEntries, getAssertion, getAssertionById, entries]
  cases s.assertions.lookup q <;> cases s.status.lookup q <;> cases s.assertionsById.lookup q <;>
    cases s.nidAndSessionIndexes.lookup q <;> simp [Option.filter_some]

/-! ## The restored session -/

/-- Both sessions give the same answers. -/
structure SameAnswers (s s' : Session) : Prop where
  assertion : ∀ p, s'.getAssertion p = s.getAssertion p
  status : ∀ p, s'.getStatus p = s.getStatus p
  assertionById : ∀ id, s'.getAssertionById id = s.getAssertionById id
  sessionIndexes : ∀ p n, s'.getSessionIndexes p n = s.getSessionIndexes p n
  nameIds : ∀ p, s'.getNameIds p = s.getNameIds p
  assertionIds : ∀ p, s'.getAssertionIds p = s.getAssertionIds p

/-- The index of each provider starts with what the stored assertion gives, where the NameID matches
itself, and its other entries name their assertions. -/
def Restorable (s : Session) : Prop :=
  ∀ p, ∃ others, s.entries p = s.derivedEntries p ++ others ∧
    (∀ e ∈ s.derivedEntries p, matchNameId e.nameId e.nameId = true) ∧
    ∀ e ∈ others, e.assertionId.isSome = true

theorem addAssertionSimple_of_thin {env : Env} (hthin : env.thinSessions = true) (s : Session)
    (providerId : Option String) (assertion : LassoNode) :
    (s.addAssertionSimple env providerId assertion).2 = s := by
  cases providerId <;> simp [addAssertionSimple, hthin]

theorem initFromXmlChild_assertions (hthin : codec.thinSessions = true) (s : Session)
    (t : XmlNode) : (s.initFromXmlChild codec t).assertions = s.assertions := by
  have hassertion (s : Session) : (s.initFromXmlAssertion codec t).assertions = s.assertions := by
    unfold initFromXmlAssertion
    repeat' split
    all_goals first
      | rfl
      | simp only [addAssertionSimple_of_thin hthin, addAssertionNidAndSessionIndex_assertions]
  have hstatus (s : Session) : (s.initFromXmlStatus codec t).assertions = s.assertions := by
    unfold initFromXmlStatus
    split <;> rfl
  have hindex (s : Session) :
      (s.initFromXmlNidAndSessionIndex codec t).assertions = s.assertions := by
    unfold initFromXmlNidAndSessionIndex
    repeat' split
    all_goals first | rfl | exact addNidAndSessionIndex_assertions _
  unfold initFromXmlChild
  dsimp only
  split_ifs <;> simp only [hassertion, hstatus, hindex]

theorem restore_assertions (hthin : codec.thinSessions = true) (xmlnode : XmlNode) :
    (restore codec xmlnode).assertions = ∅ := by
  have hfold (children : List XmlNode) (s : Session) :
      (children.foldl (initFromXmlChild codec) s).assertions = s.assertions := by
    induction children generalizing s with
    | nil => rfl
    | cons t children ih => rw [List.foldl_cons, ih, initFromXmlChild_assertions hthin]
  exact hfold xmlnode.children {}

/-- A thin session stores no assertions. -/
theorem Reachable.assertions_of_thin (h : Reachable codec s) (hthin : codec.thinSessions = true) :
    s.assertions = ∅ := by
  have hstep (s : Session) (e : Event) (hs : s.assertions = ∅) :
      (s.step codec e).assertions = ∅ := by
    cases e with
    | addAssertion providerId assertion =>
      cases providerId with
      | none => exact hs
      | some providerId =>
        simp only [step]
        rw [addAssertion_assertions, if_pos hthin, hs]
    | addAssertionWithId assertionId assertion => cases assertionId <;> exact hs
    | addStatus providerId status => cases providerId <;> exact hs
    | removeAssertion providerId =>
      simp only [step, removeAssertion]
      repeat' split
      all_goals first | exact hs | (rw [hs]; rfl)
    | removeStatus providerId =>
      simp only [step, removeStatus]
      repeat' split
      all_goals exact hs
    | restore dump => exact restore_assertions hthin dump
  induction h with
  | start hs => rw [hs]
  | next e _ _ ih => exact hstep _ e ih

/-- The entries that are read again are those that were there. -/
theorem insertAll_reread {derived others : List NidAndSessionIndex}
    (hdiffer : Unrelated NidAndSessionIndex.sameAs (derived ++ others))
    (hself : ∀ e ∈ derived, matchNameId e.nameId e.nameId = true)
    (hids : ∀ e ∈ others, e.assertionId.isSome = true) :
    insertAll NidAndSessionIndex.sameAs derived ((derived ++ others).map (·.reread)) =
      derived ++ others := by
  have hrereads : others.map (·.reread) = others := by
    refine (List.map_congr_left ?_).trans (List.map_id others)
    intro e he
    obtain ⟨id, hid⟩ := Option.isSome_iff_exists.mp (hids e he)
    rw [NidAndSessionIndex.reread, hid, Option.getD_some, ← hid]
    rfl
  have hknown : ∀ e ∈ derived.map (·.reread), derived.any (·.sameAs e) = true := by
    intro e he
    obtain ⟨e, hmem, rfl⟩ := List.mem_map.mp he
    refine List.any_eq_true.mpr ⟨e, hmem, ?_⟩
    simp [NidAndSessionIndex.sameAs, NidAndSessionIndex.reread, hself e hmem]
  rw [List.map_append, insertAll_append, insertAll_of_related hknown, hrereads,
    insertAll_of_unrelated hdiffer]

/-- A session restored from its dump gives the same answers if every index starts with what the
stored assertion gives and the other entries name their assertions. -/
theorem restore_getXmlNode (h : Reachable codec s) (hcodec : RoundTrips codec s)
    (hs : Restorable s) : SameAnswers s (restore codec (s.getXmlNode codec)) := by
  have hview := view_restore hcodec
  have hentries (p : String) : (restore codec (s.getXmlNode codec)).entries p = s.entries p := by
    obtain ⟨others, hsplit, hself, hids⟩ := hs p
    have hdiffer := h.entriesDiffer p
    calc (restore codec (s.getXmlNode codec)).entries p
        = insertAll NidAndSessionIndex.sameAs (s.derivedEntries p)
            ((s.entries p).map (·.reread)) := congrArg View.entries (hview p)
      _ = s.entries p := by
          rw [hsplit] at hdiffer ⊢
          exact insertAll_reread hdiffer hself hids
  constructor
  · intro p
    have hassertion : (restore codec (s.getXmlNode codec)).getAssertion p =
        if codec.thinSessions then none else s.getAssertion p := congrArg View.assertion (hview p)
    rw [hassertion]
    split_ifs with hthin
    · rw [getAssertion, h.assertions_of_thin hthin]
      rfl
    · rfl
  · intro p
    have hstatus : (restore codec (s.getXmlNode codec)).status.lookup p =
        (s.status.lookup p).filter (·.isSome) := congrArg View.status (hview p)
    rw [getStatus, getStatus, hstatus]
    rcases s.status.lookup p with _ | _ | n <;> rfl
  · exact fun id => congrArg View.assertionById (hview id)
  · intro p n
    rw [getSessionIndexes, getSessionIndexes, hentries]
  · intro p
    rw [getNameIds, getNameIds, hentries]
  · intro p
    cases p with
    | none => rfl
    | some p => simp [getAssertionIds, hentries]

/-! ## Two assertions of one provider -/

/-- An assertion about `user`, for one session. -/
def userAssertion (id sessionIndex : String) : Saml2Assertion where
  id := some id
  subject := some { nameId := some { content := some "user" } }
  authnStatement := [{ sessionIndex := some sessionIndex }]

/-- A codec for the NameID of `user` and for one assertion about it. -/
def userCodec (assertion : Saml2Assertion) : SessionCodec :=
  { nullCodec with
    newFromXmlNode := fun node =>
      if node.elementName = some "Assertion" then some (.saml2Assertion assertion)
      else some (.saml2NameId { content := some "user" })
    getXmlNode := fun node _ =>
      match node with
      | .saml2Assertion _ => ⟨.element (some saml2AssertionHref) "Assertion" [] [], rfl⟩
      | _ => ⟨.element (some saml2AssertionHref) "NameID" [] [], rfl⟩ }

/-- The session after assertions of one provider were added. -/
def userSession (codec : SessionCodec) (assertions : List Saml2Assertion) : Session :=
  assertions.foldl (fun s a =>
    s.step codec (.addAssertion (some "https://idp.example") (.saml2Assertion a))) {}

theorem reachable_userSession (codec : SessionCodec) (assertions : List Saml2Assertion) :
    Reachable codec (userSession codec assertions) := by
  have hfold (s : Session) (hs : Reachable codec s) : Reachable codec (assertions.foldl (fun s a =>
      s.step codec (.addAssertion (some "https://idp.example") (.saml2Assertion a))) s) := by
    induction assertions generalizing s with
    | nil => exact hs
    | cons a assertions ih => exact ih _ (.next _ hs trivial)
  exact hfold {} (.start rfl)

/-- The codec brings back a session whose stored assertion and NameIDs are those it knows. -/
theorem roundTrips_userCodec {assertion : Saml2Assertion} {s : Session}
    {es : List NidAndSessionIndex}
    (hassertions : s.assertions = AList.insert "https://idp.example" (.saml2Assertion assertion) ∅)
    (hstatus : s.status = ∅) (hassertionsById : s.assertionsById = ∅)
    (hindexes : s.nidAndSessionIndexes = AList.insert "https://idp.example" es ∅)
    (hes : ∀ e ∈ es, e.nameId = .saml2NameId { content := some "user" }) :
    RoundTrips (userCodec assertion) s where
  order _ := List.Perm.refl _
  assertion p a ha := by
    rw [getAssertion, hassertions] at ha
    by_cases hp : p = "https://idp.example"
    · subst hp
      rw [AList.lookup_insert] at ha
      cases ha
      rfl
    · rw [AList.lookup_insert_ne hp] at ha
      cases ha
  status p n hn := by
    rw [getStatus, hstatus] at hn
    cases hn
  assertionById id node hnode := by
    rw [getAssertionById, hassertionsById] at hnode
    cases hnode
  nameId p e he := by
    rw [entries, hindexes] at he
    by_cases hp : p = "https://idp.example"
    · subst hp
      rw [AList.lookup_insert] at he
      rw [hes e he]
      rfl
    · rw [AList.lookup_insert_ne hp] at he
      cases he

/-- The index entry of an assertion about `user`. -/
def userEntry (id sessionIndex : String) : NidAndSessionIndex where
  nameId := .saml2NameId { content := some "user" }
  assertionId := some id
  sessionIndex := some sessionIndex

/-- The entries of two assertions of one provider change their order. -/
theorem restore_reorders :
    ¬ ∀ (codec : SessionCodec) (s : Session), Reachable codec s → RoundTrips codec s →
      SameAnswers s (restore codec (s.getXmlNode codec)) := by
  intro hall
  have hcodec : RoundTrips (userCodec (userAssertion "_2" "s2"))
      (userSession (userCodec (userAssertion "_2" "s2"))
        [userAssertion "_1" "s1", userAssertion "_2" "s2"]) := by
    have hes : ∀ e ∈ [userEntry "_1" "s1", userEntry "_2" "s2"],
        e.nameId = .saml2NameId { content := some "user" } := by
      intro e he
      simp only [List.mem_cons, List.not_mem_nil, or_false] at he
      rcases he with rfl | rfl <;> rfl
    exact roundTrips_userCodec rfl rfl rfl rfl hes
  have hsame := (hall _ _ (reachable_userSession _ _) hcodec).sessionIndexes
    "https://idp.example" none
  revert hsame
  decide

theorem restore_getXmlNode_userSession :
    SameAnswers (userSession (userCodec (userAssertion "_1" "s1")) [userAssertion "_1" "s1"])
      (restore (userCodec (userAssertion "_1" "s1"))
        ((userSession (userCodec (userAssertion "_1" "s1")) [userAssertion "_1" "s1"]).getXmlNode
          (userCodec (userAssertion "_1" "s1")))) := by
  have hindexes : (userSession (userCodec (userAssertion "_1" "s1"))
      [userAssertion "_1" "s1"]).nidAndSessionIndexes =
        AList.insert "https://idp.example" [userEntry "_1" "s1"] ∅ := rfl
  have hassertions : (userSession (userCodec (userAssertion "_1" "s1"))
      [userAssertion "_1" "s1"]).assertions =
        AList.insert "https://idp.example" (.saml2Assertion (userAssertion "_1" "s1")) ∅ := rfl
  refine restore_getXmlNode (reachable_userSession _ _)
    (roundTrips_userCodec hassertions rfl rfl hindexes (by simp [userEntry])) ?_
  intro p
  refine ⟨[], ?_⟩
  by_cases hp : p = "https://idp.example"
  · subst hp
    rw [entries, hindexes, derivedEntries, getAssertion, hassertions]
    refine ⟨rfl, ?_, by simp⟩
    intro e he
    obtain rfl : e = userEntry "_1" "s1" := List.mem_singleton.mp he
    decide
  · rw [entries, hindexes, derivedEntries, getAssertion, hassertions, AList.lookup_insert_ne hp,
      AList.lookup_insert_ne hp]
    exact ⟨rfl, by simp, by simp⟩

end Session

end Lasso
