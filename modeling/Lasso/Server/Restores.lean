import Lasso.Server.Loading
import Lasso.Server.RoundTrip

/-!
# What a restored server has

A dump keeps the role of a provider, its encryption mode, and the text of its metadata. Everything
else that is set on a provider is gone, metadata without a text is gone, and a role that has no name
in the table of the reader stops the process.

## Main definitions

* `ServerObject.Restores` — the dump of a server gives a server with the same providers.
* `ServerObject.Kept` — the servers that lose nothing.

## Main results

* `ServerObject.restores_iff_kept` — these are the ones that come back.
-/

namespace Lasso

variable {R : Registry} {searchNs : NsScope}

namespace ProviderObject

variable {cx : ProviderContext} {p q : ProviderObject}

/-! ## Reading a provider again -/

/-- The keys of some sources: `none` if there are sources without a key, and no keys if there are no
sources. -/
def keysOf (cx : ProviderContext) (sources : Option String × List XmlNode) :
    Option (Option (List SecKey)) :=
  match sources with
  | (none, []) => some none
  | sources =>
    match readKeys cx sources with
    | [] => none
    | keys => some (some keys)

/-- The keys are all that depends on the sources. -/
theorem loadPublicKey_eq (p : ProviderObject) (type : PublicKeyType) :
    p.loadPublicKey cx type = (keysOf cx (p.keySources type)).map fun keys =>
      keys.elim p (p.setPublicKeys · type) := by
  unfold loadPublicKey keysOf
  rcases p.keySources type with ⟨_ | file, _ | ⟨node, nodes⟩⟩
  · rfl
  all_goals
    dsimp only
    generalize readKeys cx _ = keys
    cases keys <;> rfl

theorem loadPublicKey_encryptionMode (p : ProviderObject) (mode : EncryptionMode)
    (type : PublicKeyType) :
    loadPublicKey cx { p with encryptionMode := mode } type =
      (p.loadPublicKey cx type).map fun q => { q with encryptionMode := mode } := by
  have hsources : keySources { p with encryptionMode := mode } type = p.keySources type := by
    cases type <;> rfl
  rw [loadPublicKey_eq, loadPublicKey_eq, hsources, Option.map_map]
  congr 1
  funext keys
  cases keys with
  | none => rfl
  | some keys => cases type <;> rfl

theorem loadPublicKeys_encryptionMode (p : ProviderObject) (mode : EncryptionMode) :
    loadPublicKeys cx { p with encryptionMode := mode } =
      (p.loadPublicKeys cx).map fun q => { q with encryptionMode := mode } := by
  unfold loadPublicKeys
  rw [loadPublicKey_encryptionMode]
  cases p.loadPublicKey cx .signing with
  | none => rfl
  | some p' =>
    rw [Option.map_some, Option.bind_some, Option.bind_some, loadPublicKey_encryptionMode]

/-- Keys that are loaded are loaded again. -/
theorem loadPublicKey_signing_of_loadPublicKeys (h : p.loadPublicKeys cx = some q) :
    q.loadPublicKey cx .signing = some q := by
  obtain ⟨p', hsigning, hencryption⟩ := Option.bind_eq_some_iff.mp h
  rw [loadPublicKey_eq] at hsigning hencryption
  obtain ⟨signing, hkeys, rfl⟩ := Option.map_eq_some_iff.mp hsigning
  obtain ⟨encryption, -, rfl⟩ := Option.map_eq_some_iff.mp hencryption
  rw [loadPublicKey_eq]
  cases signing <;> cases encryption <;>
    exact Option.map_eq_some_iff.mpr ⟨_, hkeys, rfl⟩

/-- What a dump leaves of a provider. -/
def restarted (p : ProviderObject) : ProviderObject :=
  match p.metadataFilename with
  | some _ => { p.unset with encryptionMode := p.encryptionMode }
  | none => p.kept

/-- The text of the metadata is not the name of a file, and read again. -/
theorem readAgain {isServer : Bool} {text : String} {metadata : Metadata}
    (hfile : p.metadataFilename = some text)
    (hread : cx.readMetadata isServer p.role text = some metadata)
    (hmetadata : p.metadata = metadata) (hid : p.providerId = metadata.providerId) :
    p.kept.reload cx isServer =
      (p.fresh.loadPublicKeys cx).map fun q => { q with encryptionMode := p.encryptionMode } := by
  have hnoFile : p.kept.loadMetadata cx isServer text = none := by
    obtain ⟨node, hparse, -⟩ := Option.bind_eq_some_iff.mp hread
    unfold loadMetadata
    rw [cx.document_not_file text (by simp [hparse])]
    rfl
  have hbuffer : p.kept.loadMetadataFromBuffer cx isServer text =
      some { p.fresh with encryptionMode := p.encryptionMode } := by
    have hread' : cx.readMetadata isServer p.kept.role text = some metadata := hread
    unfold loadMetadataFromBuffer
    rw [hread', Option.map_some, ← hmetadata]
    rw [← hmetadata] at hid
    unfold kept fresh
    rw [← hid, hfile]
  have hkept : p.kept.metadataFilename = some text := hfile
  unfold reload
  rw [hkept]
  dsimp only
  rw [hnoFile, hbuffer, Option.none_or, Option.bind_some, loadPublicKeys_encryptionMode]

/-- Without metadata and a file there are no keys to load. -/
theorem loadPublicKey_kept (hpublicKey : p.publicKey = none) (type : PublicKeyType) :
    p.kept.loadPublicKey cx type = some p.kept := by
  have hsources : p.kept.keySources type = (none, []) := by
    cases type
    · exact congrArg (·, []) hpublicKey
    · rfl
  unfold loadPublicKey
  rw [hsources]

theorem reload_kept (h : p.Loaded cx) : p.kept.reload cx false = some p.restarted := by
  unfold restarted
  cases hfile : p.metadataFilename with
  | some text =>
    obtain ⟨hread, hid⟩ := h.text text hfile
    rw [readAgain hfile hread rfl hid, h.keys]
    rfl
  | none =>
    have hkept : p.kept.metadataFilename = none := hfile
    unfold reload loadPublicKeys
    rw [hkept]
    simp only [Option.bind_some, loadPublicKey_kept (h.noText hfile)]

/-- The keys for signatures are loaded once more by the server. -/
theorem loadPublicKey_restarted (h : p.Loaded cx) :
    p.restarted.loadPublicKey cx .signing = some p.restarted := by
  unfold restarted
  cases hfile : p.metadataFilename with
  | some text =>
    dsimp only
    rw [loadPublicKey_encryptionMode, loadPublicKey_signing_of_loadPublicKeys h.keys]
    rfl
  | none => exact loadPublicKey_kept (h.noText hfile) .signing

theorem providerId_restarted (p : ProviderObject) : p.restarted.providerId = p.providerId := by
  unfold restarted
  cases p.metadataFilename <;> rfl

/-! ## What is lost -/

/-- The settings of a provider, and what later lookups of endpoints and keys go by. -/
structure SameSettings (p q : ProviderObject) : Prop where
  role : q.role = p.role
  encryptionMode : q.encryptionMode = p.encryptionMode
  encryptionSymKeyType : q.encryptionSymKeyType = p.encryptionSymKeyType
  signatureContext : q.signatureContext = p.signatureContext
  affiliationId : q.affiliationId = p.affiliationId
  metadata : q.metadata = p.metadata
  signingPublicKeys : q.signingPublicKeys = p.signingPublicKeys
  encryptionPublicKeys : q.encryptionPublicKeys = p.encryptionPublicKeys

/-- A provider whose metadata has a text, and on which nothing is set that has no place in a
dump. -/
structure Kept (p : ProviderObject) : Prop where
  metadataFilename : p.metadataFilename.isSome
  encryptionSymKeyType : p.encryptionSymKeyType = .aes128
  signatureContext : p.signatureContext = ⟨.none, none⟩
  affiliationId : p.affiliationId = none

theorem sameSettings_restarted_iff (h : p.Loaded cx) : SameSettings p p.restarted ↔ p.Kept := by
  unfold restarted
  cases hfile : p.metadataFilename with
  | some text =>
    constructor
    · intro hsame
      exact ⟨by simp [hfile], hsame.encryptionSymKeyType.symm, hsame.signatureContext.symm,
        hsame.affiliationId.symm⟩
    · intro hkept
      exact ⟨rfl, rfl, hkept.encryptionSymKeyType.symm, hkept.signatureContext.symm,
        hkept.affiliationId.symm, rfl, rfl, rfl⟩
  | none =>
    constructor
    · intro hsame
      have hmetadata : ({} : Metadata) = p.metadata := hsame.metadata
      exact absurd (congrArg Metadata.conformance hmetadata).symm h.conformance
    · intro hkept
      have := hkept.metadataFilename
      simp [hfile] at this

end ProviderObject

namespace ServerObject

variable {cx : LoadingContext} {server : ServerObject}

/-- A provider of the table is read again. -/
theorem Loaded.restart_eq (h : server.Loaded cx.toProviderContext) {key : String}
    {p : ProviderObject} (hp : server.providers.lookup key = some p) :
    restart cx.toServerContext p = some p.restarted ∧ p.restarted.providerId = some key := by
  obtain ⟨hid, hloaded⟩ := h.providers key p hp
  constructor
  · unfold restart
    rw [ProviderObject.reload_kept hloaded, Option.bind_some,
      ProviderObject.loadPublicKey_restarted hloaded]
  · rw [p.providerId_restarted, hid]

theorem Loaded.restarts (h : server.Loaded cx.toProviderContext) :
    ∀ entry ∈ server.entries cx.toServerContext, Restarts cx.toServerContext entry := by
  rintro ⟨key, p⟩ hentry
  obtain ⟨-, hp⟩ := Tables.mem_entriesIn.mp hentry
  exact ⟨p.restarted, h.restart_eq hp⟩

/-- The metadata of a server do not depend on its role. -/
theorem readMetadata_role (cx : ProviderContext) (role role' : Int) (text : String) :
    cx.readMetadata true role text = cx.readMetadata true role' text :=
  rfl

/-- The server itself is read again if its keys are. -/
theorem Loaded.reload_isSome_iff (h : server.Loaded cx.toProviderContext) :
    (server.kept.reload cx.toProviderContext true).isSome ↔
      (server.fresh.loadPublicKeys cx.toProviderContext).isSome := by
  cases hfile : server.metadataFilename with
  | some text =>
    obtain ⟨hread, hid⟩ := h.own text hfile
    rw [readMetadata_role _ 0 server.role] at hread
    rw [ProviderObject.readAgain hfile hread rfl hid, Option.isSome_map]
  | none =>
    have hmetadata := h.ownNone hfile
    have hkept : server.kept = { server.fresh with encryptionMode := server.encryptionMode } := by
      unfold ProviderObject.kept ProviderObject.fresh
      rw [hmetadata]
    have hnone : server.kept.metadataFilename = none := hfile
    unfold ProviderObject.reload
    rw [hnone]
    dsimp only
    rw [Option.bind_some, hkept, ProviderObject.loadPublicKeys_encryptionMode, Option.isSome_map]

/-! ## Restoring a server -/

/-- The dump of the server is restored to a server with the same providers. -/
def Restores (cx : LoadingContext) (R : Registry) (searchNs : NsScope) (server : ServerObject) :
    Prop :=
  ∃ dump restored, server.dump cx.toServerContext = some dump ∧
    newFromDump cx.toServerContext R searchNs dump = some restored ∧
    ∀ key, Option.Rel ProviderObject.SameSettings (server.providers.lookup key)
      (restored.providers.lookup key)

/-- A server that loses nothing: its keys can be loaded, there is a name for its signature method,
which is needed for providers, and names for all roles; and every provider is kept. -/
structure Kept (cx : LoadingContext) (server : ServerObject) : Prop where
  role : server.NamedRole
  keys : (server.fresh.loadPublicKeys cx.toProviderContext).isSome
  signatureMethod : server.signatureMethod = .none → ∀ key, server.providers.lookup key = none
  roles : ∀ key p, server.providers.lookup key = some p → p.NamedRole
  providers : ∀ key p, server.providers.lookup key = some p → p.Kept

section

variable (horder : ∀ keys, (cx.foreachOrder keys).Perm keys)
include horder

theorem forall_mem_entries {P : ProviderObject → Prop} :
    (∀ entry ∈ server.entries cx.toServerContext, P entry.2) ↔
      ∀ key p, server.providers.lookup key = some p → P p := by
  constructor
  · intro h key p hp
    have hkey : key ∈ server.providers.keys := AList.lookup_isSome.mp (by simp [hp])
    exact h (key, p) (Tables.mem_entriesIn.mpr ⟨(horder _).mem_iff.mpr hkey, hp⟩)
  · rintro h ⟨key, p⟩ hentry
    exact h key p (Tables.mem_entriesIn.mp hentry).2

/-- The table of the providers, when all of them have been read again. -/
theorem Loaded.lookup_insertEntries (h : server.Loaded cx.toProviderContext) (key : String) :
    (Tables.insertEntries ∅ ((server.entries cx.toServerContext).map fun entry =>
      (entry.1, (restart cx.toServerContext entry.2).getD entry.2))).lookup key =
        (server.providers.lookup key).map (·.restarted) := by
  unfold entries
  rw [Tables.lookup_insertEntries_map_entriesIn
    (fun p => (restart cx.toServerContext p).getD p) (horder _)]
  cases hp : server.providers.lookup key with
  | none => rfl
  | some p =>
    rw [Option.map_some, (h.restart_eq hp).1]
    rfl

end

theorem isSome_roleAttributes {p : ProviderObject} (h : p.NamedRole) :
    p.roleAttributes.isSome = true := by
  obtain ⟨hlow, hhigh⟩ := h
  unfold ProviderObject.roleAttributes roleAttribute
  split_ifs
  · rfl
  · rfl
  · omega

/-- A dump is made if all roles have names. -/
theorem isSome_dump (hrole : server.NamedRole)
    (hroles : ∀ entry ∈ server.entries cx.toServerContext, entry.2.NamedRole) :
    (server.dump cx.toServerContext).isSome = true := by
  have hnodes : (server.providersNodes cx.toServerContext (some lassoHref)).isSome = true := by
    unfold providersNodes
    dsimp only
    split_ifs
    · rfl
    · rw [Option.isSome_map]
      exact (mapM_getXmlNode_isSome_iff _).mpr fun entry hentry =>
        isSome_roleAttributes (hroles entry hentry)
  obtain ⟨role, hattributes⟩ := Option.isSome_iff_exists.mp (isSome_roleAttributes hrole)
  rw [dump_eq, hattributes, Option.bind_some, Option.isSome_map]
  exact hnodes

theorem rel_sameSettings_iff (h : server.Loaded cx.toProviderContext) (key : String) :
    Option.Rel ProviderObject.SameSettings (server.providers.lookup key)
        ((server.providers.lookup key).map (·.restarted)) ↔
      ∀ p, server.providers.lookup key = some p → p.Kept := by
  cases hp : server.providers.lookup key with
  | none => simp [Option.rel_none_none]
  | some p =>
    rw [Option.map_some, Option.rel_some_some,
      ProviderObject.sameSettings_restarted_iff (h.providers key p hp).2]
    simp

/-- A loaded server is restored from its dump if and only if it loses nothing. -/
theorem Loaded.comesBack_iff (hR : Registered R serverClass)
    (horder : ∀ keys, (cx.foreachOrder keys).Perm keys) (h : server.Loaded cx.toProviderContext) :
    server.Restores cx R searchNs ↔ server.Kept cx := by
  constructor
  · rintro ⟨dump, restored, hdump, hread, hsame⟩
    rw [newFromDump_dump hR hdump h.restarts] at hread
    unfold ServerObject.restored at hread
    by_cases hrole : server.NamedRole
    · rw [if_pos hrole] at hread
      obtain ⟨p, hreload, hread⟩ := Option.bind_eq_some_iff.mp hread
      have hkeys := h.reload_isSome_iff.mp (by simp [hreload])
      split_ifs at hread with hmethod hroles
      · obtain rfl := Option.some.inj hread
        have hempty : ∀ key, server.providers.lookup key = none := by
          intro key
          have hrel := hsame key
          cases hp : server.providers.lookup key with
          | none => rfl
          | some p =>
            rw [hp] at hrel
            cases hrel
        exact ⟨hrole, hkeys, fun _ => hempty, fun key p hp => by simp [hempty] at hp,
          fun key p hp => by simp [hempty] at hp⟩
      · obtain rfl := Option.some.inj hread
        refine ⟨hrole, hkeys, fun hnone => absurd hnone hmethod, ?_, ?_⟩
        · exact (forall_mem_entries horder).mp hroles
        · intro key p hp
          have hrel := hsame key
          dsimp only at hrel
          rw [h.lookup_insertEntries horder, rel_sameSettings_iff h] at hrel
          exact hrel p hp
    · rw [if_neg hrole] at hread
      cases hread
  · intro hkept
    have hroles := (forall_mem_entries (P := ProviderObject.NamedRole) horder).mpr hkept.roles
    obtain ⟨dump, hdump⟩ := Option.isSome_iff_exists.mp (isSome_dump hkept.role hroles)
    obtain ⟨p, hreload⟩ := Option.isSome_iff_exists.mp (h.reload_isSome_iff.mpr hkept.keys)
    rw [Restores]
    refine ⟨dump, ?_⟩
    rw [newFromDump_dump hR hdump h.restarts, ServerObject.restored, if_pos hkept.role, hreload,
      Option.bind_some]
    by_cases hmethod : server.signatureMethod = .none
    · rw [if_pos hmethod]
      refine ⟨_, hdump, rfl, fun key => ?_⟩
      rw [hkept.signatureMethod hmethod key]
      exact .none
    · rw [if_neg hmethod, if_pos hroles]
      refine ⟨_, hdump, rfl, fun key => ?_⟩
      dsimp only
      rw [h.lookup_insertEntries horder, rel_sameSettings_iff h]
      exact hkept.providers key

/-- After any calls on a server, it is restored from its dump if and only if it loses nothing. -/
theorem restores_iff_kept (hR : Registered R serverClass)
    (horder : ∀ keys, (cx.foreachOrder keys).Perm keys)
    (h : Run.Reaches (call cx) (fun _ _ => True) (IsNew cx) server) :
    server.Restores cx R searchNs ↔ server.Kept cx :=
  (loaded_of_reaches h).comesBack_iff hR horder

/-! ### A service provider in an affiliation -/

/-- The metadata of an entity with one descriptor. -/
def entityNode (entityId descriptor : String) : XmlNode :=
  .element (some saml2MetadataHref) "EntityDescriptor" [{ name := "entityID", value := entityId }]
    [.element (some saml2MetadataHref) descriptor [] []]

/-- An affiliation with one member. -/
def affiliationNode : XmlNode :=
  .element (some saml2MetadataHref) "EntityDescriptor"
    [{ name := "entityID", value := "https://affiliation.example" }]
    [.element (some saml2MetadataHref) "AffiliationDescriptor"
      [{ name := "affiliationOwnerID", value := "https://owner.example" }]
      [.element (some saml2MetadataHref) "AffiliateMember" [] [.text "https://sp.example"]]]

/-- Metadata without endpoints and keys. -/
def exampleContext : LoadingContext where
  fileContents _ := none
  parseMemory text :=
    if text = "<idp/>" then some (entityNode "https://idp.example" "IDPSSODescriptor")
    else if text = "<sp/>" then some (entityNode "https://sp.example" "SPSSODescriptor")
    else none
  loadDescriptor _ role metadata := (true, { metadata with roles := Int.lor metadata.roles role })
  loadIdFfDescriptors _ metadata := metadata
  loadPublicKey _ := none
  loadKeyInfo _ := none
  document_not_file _ _ := rfl
  foreachOrder keys := keys
  defaultSignatureMethod := .rsaSha256
  parseFile _ := some affiliationNode
  okSignatureMethod method := method ≠ .none

/-- An identity provider. -/
def exampleServer : ServerObject where
  metadataFilename := some "<idp/>"
  providerId := some "https://idp.example"
  metadata := { providerId := some "https://idp.example", conformance := .saml20, roles := 2 }
  signatureMethod := .rsaSha256

/-- The service provider it knows. -/
def exampleProvider : ProviderObject where
  role := 1
  metadataFilename := some "<sp/>"
  providerId := some "https://sp.example"
  metadata := { providerId := some "https://sp.example", conformance := .saml20, roles := 1 }

/-- The server with a provider. -/
def serverWith (p : ProviderObject) : ServerObject :=
  { exampleServer with providers := AList.insert "https://sp.example" p ∅ }

theorem lookup_serverWith {p p' : ProviderObject} {key : String}
    (h : (serverWith p).providers.lookup key = some p') : p' = p := by
  unfold serverWith at h
  dsimp only at h
  by_cases hkey : key = "https://sp.example"
  · subst hkey
    rw [AList.lookup_insert] at h
    exact (Option.some.inj h).symm
  · rw [AList.lookup_insert_ne hkey, AList.lookup_empty] at h
    cases h

theorem reaches_exampleServer : Run.Reaches (call exampleContext) (fun _ _ => True)
    (IsNew exampleContext) (serverWith exampleProvider) := by
  have hnew : exampleServer.IsNew exampleContext :=
    ⟨some "<idp/>", none, none, none, .inr rfl⟩
  have hadded : exampleServer.call exampleContext
      (.addProviderFromBuffer 1 (some "<sp/>") none none) = serverWith exampleProvider := rfl
  rw [← hadded]
  exact .next _ (.start hnew) trivial

/-- It is restored. -/
theorem restores_exampleServer :
    (serverWith exampleProvider).Restores exampleContext (dumpRegistry serverClass)
      fun _ _ => none :=
  (restores_iff_kept (registered_dumpRegistry rfl (by decide)) (fun _ => .rfl)
    reaches_exampleServer).mpr {
      role := by decide
      keys := rfl
      signatureMethod := nofun
      roles := by
        intro key p hp
        rw [lookup_serverWith hp]
        decide
      providers := by
        intro key p hp
        rw [lookup_serverWith hp]
        exact ⟨rfl, rfl, rfl, rfl⟩ }

/-- The service provider as a member of an affiliation. -/
def affiliatedProvider : ProviderObject :=
  { exampleProvider with
    affiliationId := some "https://affiliation.example"
    affiliationOwnerId := some "https://owner.example" }

/-- A service provider is no member of its affiliation after a restart. -/
theorem affiliation_not_restored :
    Run.Reaches (call exampleContext) (fun _ _ => True) (IsNew exampleContext)
        (serverWith affiliatedProvider) ∧
      ¬ (serverWith affiliatedProvider).Restores exampleContext (dumpRegistry serverClass)
        fun _ _ => none := by
  have hreaches : Run.Reaches (call exampleContext) (fun _ _ => True) (IsNew exampleContext)
      (serverWith affiliatedProvider) := by
    have hloaded : (serverWith exampleProvider).call exampleContext
        (.loadAffiliation "affiliation.xml") = serverWith affiliatedProvider := rfl
    rw [← hloaded]
    exact .next _ reaches_exampleServer trivial
  refine ⟨hreaches, fun hrestores => ?_⟩
  have hkept := ((loaded_of_reaches hreaches).comesBack_iff
    (registered_dumpRegistry rfl (by decide)) (fun _ => .rfl)).mp hrestores
  have hmember := hkept.providers "https://sp.example" affiliatedProvider rfl
  exact absurd hmember.affiliationId nofun

end ServerObject

end Lasso
