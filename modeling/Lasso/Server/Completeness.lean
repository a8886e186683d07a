import Lasso.Server.Restores

/-!
# What a restore leaves out

The loop over the providers of a dump ends at the first one that does not load, and an unknown
signature method skips the loop. Both leave the function by its common exit, which returns zero
whatever happened before.

## Main definitions

* `ServerObject.Complete` — a restored server has the method and the providers of the dump.
* `ServerObject.RestoresComplete` — zero is returned for complete servers only.

## Main results

* `ServerObject.restoresComplete_iff` — the dumps for which that is so.
-/

namespace Lasso

namespace ServerObject

section

variable (cx : ServerContext) (R : Registry) (searchNs : NsScope)

/-! ## One provider -/

/-- The body of the loop over the providers: the entry for the table, `none` for a provider that
does not load. A provider without an ID is no key for the table. -/
def loadProvider (place : PlacedNode) : Except Fault (Option (String × ProviderObject)) := do
  match (← ProviderObject.ofXml R searchNs cx.toProviderContext place).bind
      (·.loadPublicKey cx.toProviderContext .signing) with
  | none => return none
  | some p =>
    match p.providerId with
    | none => .error .nullPointer
    | some providerId => return some (providerId, p)

/-- A Provider element gives an entry of the table. -/
def Loads (place : PlacedNode) (entry : String × ProviderObject) : Prop :=
  loadProvider cx R searchNs place = .ok (some entry)

/-! ## Complete servers -/

/-- The method of the dump is known, and every Provider element of it is in the table. -/
structure Complete (place : PlacedNode) (server : ServerObject) : Prop where
  signatureMethod :
    readSignatureMethod (place.node.getProp "SignatureMethod") = some server.signatureMethod
  providers : ∃ entries, List.Forall₂ (Loads cx R searchNs) (providerPlaces place) entries ∧
    server.providers = Tables.insertEntries ∅ entries

/-- The reader returns zero for complete servers only. -/
def RestoresComplete (place : PlacedNode) : Prop :=
  ∀ server, initFromXml cx R searchNs place = .ok (some server) →
    Complete cx R searchNs place server

/-- The server is loaded as a provider itself: the method of the parent class returns zero. -/
def OwnPartLoads (place : PlacedNode) : Prop :=
  ∃ stores p, implStores R searchNs serverClass.toLassoNodeClass place = .ok stores ∧
    ProviderObject.initFromXml cx.toProviderContext true (.mk serverClass.name stores) place.node =
      .ok (some p)

/-- The first Provider element that does not load, if there is one, is not refused: it stops the
process. -/
def NoneRefused (places : List PlacedNode) : Prop :=
  ∀ before place after, places = before ++ place :: after →
    (∀ other ∈ before, ∃ entry, Loads cx R searchNs other entry) →
      loadProvider cx R searchNs place ≠ .ok none

end

variable {cx : ServerContext} {R : Registry} {searchNs : NsScope}

theorem noneRefused_cons {place : PlacedNode} {places : List PlacedNode} :
    NoneRefused cx R searchNs (place :: places) ↔
      loadProvider cx R searchNs place ≠ .ok none ∧
        ((∃ entry, Loads cx R searchNs place entry) → NoneRefused cx R searchNs places) := by
  constructor
  · intro h
    refine ⟨h [] place places rfl (by simp), fun hloads before other after hplaces hbefore => ?_⟩
    refine h (place :: before) other after (by rw [hplaces, List.cons_append]) ?_
    exact List.forall_mem_cons.mpr ⟨hloads, hbefore⟩
  · rintro ⟨hfirst, hrest⟩ before other after hplaces hbefore
    cases before with
    | nil =>
      obtain ⟨rfl, -⟩ := List.cons.inj hplaces
      exact hfirst
    | cons head before =>
      rw [List.cons_append] at hplaces
      obtain ⟨rfl, htail⟩ := List.cons.inj hplaces
      obtain ⟨hhead, hbefore⟩ := List.forall_mem_cons.mp hbefore
      exact hrest hhead before other after htail hbefore

/-! ## The loop -/

theorem insertProviders_cons (place : PlacedNode) (places : List PlacedNode)
    (providers : AList fun _ : String => ProviderObject) :
    insertProviders cx R searchNs (place :: places) providers =
      match loadProvider cx R searchNs place with
      | .error fault => .error fault
      | .ok none => .ok providers
      | .ok (some entry) =>
        insertProviders cx R searchNs places (providers.insert entry.1 entry.2) := by
  rw [insertProviders, loadProvider]
  cases ProviderObject.ofXml R searchNs cx.toProviderContext place with
  | error fault => rfl
  | ok read =>
    simp only [bind, Except.bind]
    cases read.bind (·.loadPublicKey cx.toProviderContext .signing) with
    | none => rfl
    | some p =>
      dsimp only
      cases p.providerId <;> rfl

/-- How the loop ends: with all providers, at one that does not load, or at one that stops the
process. -/
theorem insertProviders_cases (cx : ServerContext) (R : Registry) (searchNs : NsScope)
    (places : List PlacedNode)
    (providers : AList fun _ : String => ProviderObject) :
    (∃ fault, insertProviders cx R searchNs places providers = .error fault ∧
        NoneRefused cx R searchNs places) ∨
      (∃ entries, List.Forall₂ (Loads cx R searchNs) places entries ∧
        NoneRefused cx R searchNs places ∧
        insertProviders cx R searchNs places providers = .ok (Tables.insertEntries providers entries)) ∨
      (∃ table, insertProviders cx R searchNs places providers = .ok table ∧
        (¬ ∃ entries, List.Forall₂ (Loads cx R searchNs) places entries) ∧
        ¬ NoneRefused cx R searchNs places) := by
  induction places generalizing providers with
  | nil =>
    refine .inr (.inl ⟨[], .nil, ?_, rfl⟩)
    intro before place after hplaces
    simp at hplaces
  | cons place places ih =>
    rw [insertProviders_cons, noneRefused_cons]
    cases hload : loadProvider cx R searchNs place with
    | error fault =>
      refine .inl ⟨fault, rfl, nofun, fun ⟨entry, hentry⟩ => ?_⟩
      rw [Loads, hload] at hentry
      cases hentry
    | ok loaded =>
      cases loaded with
      | none =>
        refine .inr (.inr ⟨providers, rfl, fun ⟨entries, hentries⟩ => ?_, fun h => h.1 rfl⟩)
        cases hentries with
        | cons hentry _ =>
          rw [Loads, hload] at hentry
          cases hentry
      | some entry =>
        dsimp only
        rcases ih (providers.insert entry.1 entry.2) with ⟨fault, hrun, hnone⟩ |
          ⟨entries, hentries, hnone, hrun⟩ | ⟨table, hrun, hentries, hnone⟩
        · exact .inl ⟨fault, hrun, nofun, fun _ => hnone⟩
        · exact .inr (.inl ⟨entry :: entries, .cons hload hentries, ⟨nofun, fun _ => hnone⟩, hrun⟩)
        · refine .inr (.inr ⟨table, hrun, fun ⟨_, hall⟩ => ?_, fun h => hnone (h.2 ⟨entry, hload⟩)⟩)
          cases hall with
          | cons _ hall => exact hentries ⟨_, hall⟩

/-! ## The whole dump -/

/-- Once the server itself is loaded, only the process can stop: the code is zero. -/
theorem initFromXml_of_ownPartLoads {place : PlacedNode} (h : OwnPartLoads cx R searchNs place) :
    ∃ server : ServerObject, initFromXml cx R searchNs place =
      match readSignatureMethod (place.node.getProp "SignatureMethod") with
      | none => .ok (some server)
      | some signatureMethod =>
        (insertProviders cx R searchNs (providerPlaces place) ∅).map fun providers =>
          some { server with signatureMethod, providers } := by
  obtain ⟨stores, p, hstores, hown⟩ := h
  refine ⟨{
    toProviderObject := p
    privateKey := (ParsedNode.mk serverClass.name stores).content "private_key"
    privateKeyPassword := (ParsedNode.mk serverClass.name stores).content "private_key_password"
    certificate := (ParsedNode.mk serverClass.name stores).content "certificate"
    signatureMethod := cx.defaultSignatureMethod }, ?_⟩
  unfold initFromXml
  simp only [hstores, bind, Except.bind, hown]
  cases readSignatureMethod (place.node.getProp "SignatureMethod") with
  | none => rfl
  | some signatureMethod =>
    dsimp only
    cases insertProviders cx R searchNs (providerPlaces place) ∅ <;> rfl

theorem ownPartLoads_of_initFromXml {place : PlacedNode} {server : ServerObject}
    (h : initFromXml cx R searchNs place = .ok (some server)) :
    OwnPartLoads cx R searchNs place := by
  unfold initFromXml at h
  cases hstores : implStores R searchNs serverClass.toLassoNodeClass place with
  | error fault =>
    rw [hstores] at h
    cases h
  | ok stores =>
    simp only [hstores, bind, Except.bind] at h
    cases hown : ProviderObject.initFromXml cx.toProviderContext true (.mk serverClass.name stores)
        place.node with
    | error fault =>
      rw [hown] at h
      cases h
    | ok read =>
      cases read with
      | none =>
        rw [hown] at h
        cases h
      | some p => exact ⟨stores, p, hstores, hown⟩

/-- Zero is returned for complete servers only just if the server itself does not load, or the
method is known and no provider is refused. -/
theorem restoresComplete_iff (cx : ServerContext) (R : Registry) (searchNs : NsScope)
    (place : PlacedNode) :
    RestoresComplete cx R searchNs place ↔
      (OwnPartLoads cx R searchNs place →
        (readSignatureMethod (place.node.getProp "SignatureMethod")).isSome ∧
          NoneRefused cx R searchNs (providerPlaces place)) := by
  constructor
  · intro hcomplete hown
    obtain ⟨server, hread⟩ := initFromXml_of_ownPartLoads hown
    cases hmethod : readSignatureMethod (place.node.getProp "SignatureMethod") with
    | none =>
      rw [hmethod] at hread
      have hknown := (hcomplete server hread).signatureMethod
      rw [hmethod] at hknown
      cases hknown
    | some signatureMethod =>
      rw [hmethod] at hread
      refine ⟨rfl, ?_⟩
      rcases insertProviders_cases cx R searchNs
        (providerPlaces place) ∅ with ⟨-, -, hnone⟩ | ⟨-, -, hnone, -⟩ | ⟨table, hrun, hentries, -⟩
      · exact hnone
      · exact hnone
      · rw [hrun] at hread
        obtain ⟨entries, hall, -⟩ := (hcomplete _ hread).providers
        exact absurd ⟨entries, hall⟩ hentries
  · intro hcondition server hrestored
    have hown := ownPartLoads_of_initFromXml hrestored
    obtain ⟨hknown, hnone⟩ := hcondition hown
    obtain ⟨own, hread⟩ := initFromXml_of_ownPartLoads hown
    obtain ⟨signatureMethod, hmethod⟩ := Option.isSome_iff_exists.mp hknown
    rw [hmethod] at hread
    rcases insertProviders_cases cx R searchNs
      (providerPlaces place) ∅ with ⟨fault, hrun, -⟩ | ⟨entries, hall, -, hrun⟩ |
        ⟨-, -, -, hrefused⟩
    · rw [hrun, hrestored] at hread
      cases hread
    · rw [hrun, hrestored] at hread
      obtain rfl : server = _ := Option.some.inj (Except.ok.inj hread)
      exact ⟨hmethod, entries, hall, rfl⟩
    · exact absurd hnone hrefused

/-- A provider whose metadata is neither a document nor the name of a file. -/
def lostProvider : XmlNode :=
  .element (some lassoHref) "Provider" [{ name := "ProviderID", value := "https://sp.example" }]
    [.element (some lassoHref) "MetadataFilePath" [] [.text "sp.xml"]]

/-- The dump of a server that knows it. -/
def lostProviderDump : XmlNode :=
  .element (some lassoHref) "Server" [{ name := "SignatureMethod", value := "RSA_SHA256" }]
    [.element (some lassoHref) "Providers" [] [lostProvider]]

/-- The restore of that server returns zero, without the provider. -/
theorem not_restoresComplete :
    ¬ ∀ (cx : ServerContext) (R : Registry) (searchNs : NsScope) (place : PlacedNode),
      RestoresComplete cx R searchNs place := by
  intro hall
  let cx := exampleContext.toServerContext
  let R := dumpRegistry serverClass
  obtain ⟨server, hserver⟩ : ∃ server,
      initFromXml cx R (fun _ _ => none) ⟨[], lostProviderDump⟩ = .ok (some server) := ⟨_, rfl⟩
  have hplaces : providerPlaces ⟨[], lostProviderDump⟩ = [⟨[0, 0], lostProvider⟩] := rfl
  have hload : loadProvider cx R (fun _ _ => none) ⟨[0, 0], lostProvider⟩ = .ok none := rfl
  obtain ⟨entries, hentries, -⟩ := (hall cx R (fun _ _ => none) _ server hserver).providers
  rw [hplaces] at hentries
  cases hentries with
  | cons hentry _ =>
    rw [Loads, hload] at hentry
    cases hentry

end ServerObject

end Lasso
