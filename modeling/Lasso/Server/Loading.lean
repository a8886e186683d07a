import Lasso.Library.Run
import Lasso.Server.Dump

/-!
# Loading the providers of a server

Providers are added to a server one by one, from the metadata of a federation, or grouped to
affiliations; the settings of a provider are made afterwards. Whatever is loaded can be loaded again
from the text of its metadata, if there is one.

## Main definitions

* `ServerObject.addProvider`, `ServerObject.loadMetadataEntity`, `ServerObject.loadAffiliation` —
  the functions that load.
* `ServerCall`, `ServerObject.call` — the calls on a server.
* `ProviderObject.Loaded`, `ServerObject.Loaded` — what loading establishes.

## Main results

* `ServerObject.loaded_of_reaches` — every call keeps it.
-/

namespace Lasso

/-- The environment of the functions that load. -/
structure LoadingContext extends ServerContext where
  /-- `lasso_xml_parse_file` -/
  parseFile : String → Option XmlNode
  /-- `lasso_ok_signature_method` -/
  okSignatureMethod : SignatureMethod → Bool

namespace ServerObject

variable (cx : LoadingContext)

/-! ## The functions -/

/-- `lasso_server_new`, up to the private key; that the keys of the server do not load is ignored. -/
def newOf (loader : ProviderObject → String → Option ProviderObject) (metadata : Option String)
    (privateKey privateKeyPassword certificate : Option String) : Option ServerObject :=
  let read := match metadata with
    | none => some ({ role := 0 } : ProviderObject)
    | some metadata => loader { role := 0 } metadata
  read.map fun p =>
    let p := (p.loadPublicKey cx.toProviderContext .signing).getD p
    let p := (p.loadPublicKey cx.toProviderContext .encryption).getD p
    { toProviderObject := p
      privateKey
      privateKeyPassword := if privateKey.isSome then privateKeyPassword else none
      certificate
      signatureMethod := cx.defaultSignatureMethod }

/-- `lasso_server_get_provider` -/
def getProvider (server : ServerObject) (providerId : String) : Option ProviderObject :=
  if providerId = "" then none else server.providers.lookup providerId

/-- `lasso_server_add_provider2` -/
def addProvider2 (server : ServerObject) (p : ProviderObject) : Rc × ServerObject :=
  match p.providerId with
  | none => (.param .nonInitializedObject, server)
  | some providerId => (.ok, { server with providers := server.providers.insert providerId p })

/-- `lasso_server_add_provider_helper`, with what the constructor has made -/
def addProviderHelper (server : ServerObject) (role : Int) (provider : Option ProviderObject) :
    Rc × ServerObject :=
  match provider with
  | none => (.server .addProviderFailed, server)
  | some p =>
    let p := { p with role }
    if server.metadata.conformance = .saml20 ∧ p.metadata.conformance ≠ .saml20 then
      (.server .addProviderProtocolMismatch, server)
    else if server.metadata.conformance = .liberty12 ∧ p.metadata.conformance = .saml20 then
      (.server .addProviderProtocolMismatch, server)
    else (.ok, (server.addProvider2 p).2)

/-- `lasso_server_add_provider` -/
def addProvider (server : ServerObject) (role : Int)
    (metadata publicKey caCertChain : Option String) : Rc × ServerObject :=
  match metadata with
  | none => (.param .invalidValue, server)
  | some metadata => server.addProviderHelper role
    (ProviderObject.new cx.toProviderContext role metadata publicKey caCertChain)

/-- `lasso_server_add_provider_from_buffer` -/
def addProviderFromBuffer (server : ServerObject) (role : Int)
    (metadata publicKey caCertChain : Option String) : Rc × ServerObject :=
  match metadata with
  | none => (.param .invalidValue, server)
  | some metadata => server.addProviderHelper role
    (ProviderObject.newFromBuffer cx.toProviderContext role metadata publicKey caCertChain)

/-- `lasso_saml20_server_load_metadata_entity`, once the signature was checked: what the loading of
a federation does for each EntityDescriptor it comes to. -/
def loadMetadataEntity (server : ServerObject) (role : ProviderRole)
    (blacklistedEntityIds : List String) (entity : XmlNode) : Rc × ServerObject :=
  if role = .idp ∧ entity.findChild "IDPSSODescriptor" saml2MetadataHref = none then (.ok, server)
  else if role = .sp ∧ entity.findChild "SPSSODescriptor" saml2MetadataHref = none then
    (.ok, server)
  else
    match ProviderObject.newFromXmlnode cx.toProviderContext role.toInt entity with
    | none => (.server .noProviderLoaded, server)
    | some p =>
      match p.providerId with
      | none => (.server .noProviderLoaded, server)
      | some name =>
        if name ∈ blacklistedEntityIds then (.server .noProviderLoaded, server)
        else (.ok, { server with providers := server.providers.insert name p })

/-- The affiliation that a provider is made a member of. -/
def affiliate (server : ServerObject) (affiliationId ownerId : Option String) (memberId : String) :
    ServerObject :=
  match server.getProvider memberId with
  | none => server
  | some p =>
    let p := { p with affiliationOwnerId := ownerId, affiliationId }
    { server with providers := server.providers.replace memberId p }

/-- `lasso_saml20_server_load_affiliation` -/
def saml20LoadAffiliation (server : ServerObject) (node : XmlNode) : Rc × ServerObject :=
  if node.ns ≠ some saml2MetadataHref then (.xml .nodeNotFound, server)
  else
    match node.children.find? (·.elementName == some "AffiliationDescriptor") with
    | none => (.xml .nodeNotFound, server)
    | some t =>
      let members := t.children.filter (·.elementName == some "AffiliateMember")
      (.ok, members.foldl (fun server member => server.affiliate (node.getProp "entityID")
        (t.getProp "affiliationOwnerID") member.textContent) server)

/-- `lasso_server_load_affiliation` -/
def loadAffiliation (server : ServerObject) (filename : String) : Rc × ServerObject :=
  match cx.parseFile filename with
  | none => (.xml .invalidFile, server)
  | some node =>
    if node.ns = none then (.xml .nodeNotFound, server)
    else if server.metadata.conformance = .saml20 then server.saml20LoadAffiliation node
    else (.unimplemented, server)

/-- What is set on a provider of the table. -/
def setOn (server : ServerObject) (providerId : String) (f : ProviderObject → ProviderObject) :
    ServerObject :=
  match server.getProvider providerId with
  | none => server
  | some p => { server with providers := server.providers.replace providerId (f p) }

end ServerObject

/-- `lasso_provider_set_server_signing_key`, for the signature context of the key -/
def ProviderObject.setServerSigningKey (cx : LoadingContext) (context : SignatureContext)
    (p : ProviderObject) : ProviderObject :=
  if cx.okSignatureMethod context.signatureMethod ∧ context.signatureKey.isSome then
    { p with signatureContext := context }
  else p

/-! ## Calls -/

/-- The calls on a server and its providers. The role of the server is set by the profiles, and its
signature method by the application. -/
inductive ServerCall where
  | addProvider (role : Int) (metadata publicKey caCertChain : Option String)
  | addProviderFromBuffer (role : Int) (metadata publicKey caCertChain : Option String)
  | loadMetadataEntity (role : ProviderRole) (blacklistedEntityIds : List String)
    (entity : XmlNode)
  | loadAffiliation (filename : String)
  | setEncryptionMode (providerId : String) (encryptionMode : EncryptionMode)
  | setEncryptionSymKeyType (providerId : String) (encryptionSymKeyType : EncryptionSymKeyType)
  | setServerSigningKey (providerId : String) (context : SignatureContext)
  | setRole (role : Int)
  | setSignatureMethod (signatureMethod : SignatureMethod)

/-- A server after a call. -/
def ServerObject.call (cx : LoadingContext) (server : ServerObject) : ServerCall → ServerObject
  | .addProvider role metadata publicKey caCertChain =>
    (server.addProvider cx role metadata publicKey caCertChain).2
  | .addProviderFromBuffer role metadata publicKey caCertChain =>
    (server.addProviderFromBuffer cx role metadata publicKey caCertChain).2
  | .loadMetadataEntity role blacklistedEntityIds entity =>
    (server.loadMetadataEntity cx role blacklistedEntityIds entity).2
  | .loadAffiliation filename => (server.loadAffiliation cx filename).2
  | .setEncryptionMode providerId encryptionMode =>
    server.setOn providerId fun p => { p with encryptionMode }
  | .setEncryptionSymKeyType providerId encryptionSymKeyType =>
    server.setOn providerId fun p => { p with encryptionSymKeyType }
  | .setServerSigningKey providerId context =>
    server.setOn providerId (·.setServerSigningKey cx context)
  | .setRole role => { server with role }
  | .setSignatureMethod signatureMethod => { server with signatureMethod }

/-! ## What loading establishes -/

namespace ProviderObject

/-- The provider before its keys are loaded, and before anything is set on it. -/
def fresh (p : ProviderObject) : ProviderObject where
  role := p.role
  publicKey := p.publicKey
  caCertChain := p.caCertChain
  metadataFilename := p.metadataFilename
  providerId := p.providerId
  metadata := p.metadata

/-- The provider before anything is set on it. -/
def unset (p : ProviderObject) : ProviderObject :=
  { p.fresh with
    signingPublicKeys := p.signingPublicKeys
    encryptionPublicKeys := p.encryptionPublicKeys }

/-- The provider has been read from metadata, whose text it keeps if there is one, and its keys are
those that it is loaded with. -/
structure Loaded (cx : ProviderContext) (p : ProviderObject) : Prop where
  conformance : p.metadata.conformance ≠ .liberty10
  text : ∀ text ∈ p.metadataFilename, cx.readMetadata false p.role text = some p.metadata ∧
    p.providerId = p.metadata.providerId
  noText : p.metadataFilename = none → p.publicKey = none
  keys : p.fresh.loadPublicKeys cx = some p.unset

section

variable {cx : ProviderContext} {p q : ProviderObject}

/-- Loading keys changes nothing but the keys for the use. -/
theorem loadPublicKey_eq_some {type : PublicKeyType} (h : p.loadPublicKey cx type = some q) :
    ∃ keys, q = p.setPublicKeys keys type := by
  unfold loadPublicKey at h
  split at h
  · cases h
    cases type
    · exact ⟨p.signingPublicKeys, rfl⟩
    · exact ⟨p.encryptionPublicKeys, rfl⟩
  · split at h
    · cases h
    · cases h
      exact ⟨_, rfl⟩

theorem loadPublicKeys_eq_some (h : p.loadPublicKeys cx = some q) :
    ∃ signing encryption, q =
      { p with signingPublicKeys := signing, encryptionPublicKeys := encryption } := by
  obtain ⟨p', hsigning, hencryption⟩ := Option.bind_eq_some_iff.mp h
  obtain ⟨signing, rfl⟩ := loadPublicKey_eq_some hsigning
  obtain ⟨encryption, rfl⟩ := loadPublicKey_eq_some hencryption
  exact ⟨signing, encryption, rfl⟩

/-- A provider without any settings, once its keys are loaded. -/
theorem loaded_of_loadPublicKeys (hfresh : p.fresh = p)
    (hconformance : p.metadata.conformance ≠ .liberty10)
    (htext : ∀ text ∈ p.metadataFilename, cx.readMetadata false p.role text = some p.metadata ∧
      p.providerId = p.metadata.providerId)
    (hnoText : p.metadataFilename = none → p.publicKey = none)
    (h : p.loadPublicKeys cx = some q) : q.Loaded cx := by
  obtain ⟨signing, encryption, rfl⟩ := loadPublicKeys_eq_some h
  refine ⟨hconformance, htext, hnoText, ?_⟩
  have hsame : fresh { p with signingPublicKeys := signing, encryptionPublicKeys := encryption } =
    p := hfresh
  rw [hsame, h, ← hfresh]
  rfl

theorem loaded_unset : p.unset.Loaded cx ↔ p.Loaded cx :=
  ⟨fun h => ⟨h.conformance, h.text, h.noText, h.keys⟩,
    fun h => ⟨h.conformance, h.text, h.noText, h.keys⟩⟩

/-- Nothing that is set on a provider makes a difference. -/
theorem Loaded.of_unset_eq (h : q.Loaded cx) (hunset : p.unset = q.unset) : p.Loaded cx := by
  rw [← loaded_unset, hunset, loaded_unset]
  exact h

/-- What a loader makes of a new provider. -/
structure Reads (cx : ProviderContext) (role : Int) (p : ProviderObject) : Prop where
  fresh : p.fresh = p
  asRole : p.role = role
  conformance : p.metadata.conformance ≠ .liberty10
  text : ∃ text, p.metadataFilename = some text ∧
    cx.readMetadata false role text = some p.metadata ∧ p.providerId = p.metadata.providerId

theorem reads_loadMetadataFromBuffer {role : Int} {text : String}
    (h : loadMetadataFromBuffer cx false { role } text = some p) : Reads cx role p := by
  obtain ⟨metadata, hread, rfl⟩ := Option.map_eq_some_iff.mp h
  exact ⟨rfl, rfl, ProviderContext.conformance_of_readMetadata hread, text, rfl, hread, rfl⟩

theorem reads_loadMetadata {role : Int} {path : String}
    (h : loadMetadata cx false { role } path = some p) : Reads cx role p := by
  obtain ⟨text, -, h⟩ := Option.bind_eq_some_iff.mp h
  exact reads_loadMetadataFromBuffer h

theorem loaded_newHelper {role : Int} {metadata : String} {publicKey caCertChain : Option String}
    {loader : ProviderObject → String → Option ProviderObject}
    (hloader : ∀ p', loader { role } metadata = some p' → Reads cx role p')
    (h : newHelper cx role metadata publicKey caCertChain loader = some p) :
    p.Loaded cx ∧ p.role = role := by
  obtain ⟨p', hp', h⟩ := Option.bind_eq_some_iff.mp h
  obtain ⟨q, hq, h⟩ := Option.bind_eq_some_iff.mp h
  cases h
  obtain ⟨hfresh, hrole, hconformance, text, hfile, hread, hid⟩ := hloader p' hp'
  have hfresh' : fresh { p' with publicKey, caCertChain } = { p' with publicKey, caCertChain } := by
    rw [← hfresh]
    rfl
  have hloaded : q.Loaded cx := by
    refine loaded_of_loadPublicKeys hfresh' hconformance ?_ ?_ hq
    · rintro text' htext'
      obtain rfl : text = text' := Option.some.inj (hfile.symm.trans htext')
      rw [show ({ p' with publicKey, caCertChain } : ProviderObject).role = role from hrole]
      exact ⟨hread, hid⟩
    · intro hnone
      cases hfile.symm.trans hnone
  obtain ⟨signing, encryption, rfl⟩ := loadPublicKeys_eq_some hq
  exact ⟨hloaded.of_unset_eq rfl, hrole⟩

theorem loaded_newFromXmlnode {role : Int} {node : XmlNode}
    (h : newFromXmlnode cx role node = some p) : p.Loaded cx := by
  obtain ⟨metadata, hmetadata, h⟩ := Option.bind_eq_some_iff.mp h
  obtain ⟨q, hq, h⟩ := Option.bind_eq_some_iff.mp h
  cases h
  have hloaded : q.Loaded cx := by
    refine loaded_of_loadPublicKeys rfl
      (ProviderContext.conformance_of_loadMetadataFromXmlnode hmetadata) ?_ (fun _ => rfl) hq
    intro text htext
    cases htext
  exact hloaded.of_unset_eq rfl

end

end ProviderObject

namespace ServerObject

/-- The server has its own metadata, and its providers, from loading. -/
structure Loaded (cx : ProviderContext) (server : ServerObject) : Prop where
  own : ∀ text ∈ server.metadataFilename,
    cx.readMetadata true 0 text = some server.metadata ∧
      server.providerId = server.metadata.providerId
  ownNone : server.metadataFilename = none → server.metadata = {}
  providers : ∀ key p, server.providers.lookup key = some p →
    p.providerId = some key ∧ p.Loaded cx

section

variable {cx : LoadingContext} {server : ServerObject}

/-- A provider that is inserted under its ID. -/
theorem Loaded.insert (h : server.Loaded cx.toProviderContext) {p : ProviderObject} {key : String}
    (hid : p.providerId = some key) (hp : p.Loaded cx.toProviderContext) :
    Loaded cx.toProviderContext { server with providers := server.providers.insert key p } := by
  refine ⟨h.own, h.ownNone, fun key' p' hlookup => ?_⟩
  by_cases hkey : key' = key
  · subst hkey
    obtain rfl : p = p' := by simpa using hlookup
    exact ⟨hid, hp⟩
  · rw [AList.lookup_insert_ne hkey] at hlookup
    exact h.providers key' p' hlookup

/-- A provider that is changed in what is set on it. -/
theorem Loaded.replace (h : server.Loaded cx.toProviderContext) {key : String}
    {f : ProviderObject → ProviderObject} (hf : ∀ p, (f p).unset = p.unset) {p : ProviderObject}
    (hp : server.providers.lookup key = some p) :
    Loaded cx.toProviderContext
      { server with providers := server.providers.replace key (f p) } := by
  refine ⟨h.own, h.ownNone, fun key' p' hlookup => ?_⟩
  have hlookup' := hlookup
  dsimp only at hlookup'
  rw [Tables.lookup_replace] at hlookup'
  split_ifs at hlookup' with hkey
  · subst hkey
    rw [hp] at hlookup'
    cases hlookup'
    obtain ⟨hid, hloaded⟩ := h.providers key' p hp
    have hid' : (f p).unset.providerId = p.unset.providerId := by rw [hf]
    exact ⟨hid'.trans hid, hloaded.of_unset_eq (hf p)⟩
  · exact h.providers key' p' hlookup'

theorem Loaded.setOn (h : server.Loaded cx.toProviderContext) (key : String)
    {f : ProviderObject → ProviderObject} (hf : ∀ p, (f p).unset = p.unset) :
    (server.setOn key f).Loaded cx.toProviderContext := by
  unfold ServerObject.setOn
  cases hp : server.getProvider key with
  | none => exact h
  | some p =>
    unfold getProvider at hp
    split_ifs at hp
    exact h.replace hf hp

theorem Loaded.addProvider2 (h : server.Loaded cx.toProviderContext) {p : ProviderObject}
    (hp : p.Loaded cx.toProviderContext) :
    (server.addProvider2 p).2.Loaded cx.toProviderContext := by
  unfold ServerObject.addProvider2
  cases hid : p.providerId with
  | none => exact h
  | some key => exact h.insert hid hp

theorem Loaded.addProviderHelper (h : server.Loaded cx.toProviderContext) {role : Int}
    {provider : Option ProviderObject}
    (hprovider : ∀ p ∈ provider, p.Loaded cx.toProviderContext ∧ p.role = role) :
    (server.addProviderHelper role provider).2.Loaded cx.toProviderContext := by
  unfold ServerObject.addProviderHelper
  cases provider with
  | none => exact h
  | some p =>
    obtain ⟨hp, rfl⟩ := hprovider p rfl
    dsimp only
    split_ifs
    · exact h
    · exact h
    · exact h.addProvider2 hp

theorem Loaded.addProvider (h : server.Loaded cx.toProviderContext) (role : Int)
    (metadata publicKey caCertChain : Option String) :
    (server.addProvider cx role metadata publicKey caCertChain).2.Loaded cx.toProviderContext := by
  unfold ServerObject.addProvider
  cases metadata with
  | none => exact h
  | some metadata =>
    exact h.addProviderHelper fun p hp =>
      ProviderObject.loaded_newHelper (fun _ => ProviderObject.reads_loadMetadata) hp

theorem Loaded.addProviderFromBuffer (h : server.Loaded cx.toProviderContext) (role : Int)
    (metadata publicKey caCertChain : Option String) :
    (server.addProviderFromBuffer cx role metadata publicKey caCertChain).2.Loaded
      cx.toProviderContext := by
  unfold ServerObject.addProviderFromBuffer
  cases metadata with
  | none => exact h
  | some metadata =>
    exact h.addProviderHelper fun p hp =>
      ProviderObject.loaded_newHelper (fun _ => ProviderObject.reads_loadMetadataFromBuffer) hp

theorem Loaded.loadMetadataEntity (h : server.Loaded cx.toProviderContext) (role : ProviderRole)
    (blacklistedEntityIds : List String) (entity : XmlNode) :
    (server.loadMetadataEntity cx role blacklistedEntityIds entity).2.Loaded
      cx.toProviderContext := by
  unfold ServerObject.loadMetadataEntity
  split_ifs
  · exact h
  · exact h
  · cases hp : ProviderObject.newFromXmlnode cx.toProviderContext role.toInt entity with
    | none => exact h
    | some p =>
      cases hid : p.providerId with
      | none => simpa [hid] using h
      | some name =>
        dsimp only
        rw [hid]
        dsimp only
        split_ifs
        · exact h
        · exact h.insert hid (ProviderObject.loaded_newFromXmlnode hp)

theorem Loaded.affiliate (h : server.Loaded cx.toProviderContext)
    (affiliationId ownerId : Option String) (memberId : String) :
    (server.affiliate affiliationId ownerId memberId).Loaded cx.toProviderContext := by
  have hset : (server.setOn memberId fun p =>
      { p with affiliationOwnerId := ownerId, affiliationId }).Loaded cx.toProviderContext :=
    h.setOn memberId fun _ => rfl
  exact hset

theorem Loaded.affiliateAll (h : server.Loaded cx.toProviderContext)
    (affiliationId ownerId : Option String) (members : List XmlNode) :
    (members.foldl (fun server member => server.affiliate affiliationId ownerId
      member.textContent) server).Loaded cx.toProviderContext := by
  induction members generalizing server with
  | nil => exact h
  | cons member members ih => exact ih (h.affiliate _ _ _)

theorem Loaded.loadAffiliation (h : server.Loaded cx.toProviderContext) (filename : String) :
    (server.loadAffiliation cx filename).2.Loaded cx.toProviderContext := by
  unfold ServerObject.loadAffiliation
  cases cx.parseFile filename with
  | none => exact h
  | some node =>
    dsimp only
    split_ifs
    · exact h
    · unfold saml20LoadAffiliation
      split_ifs
      · exact h
      · cases node.children.find? (·.elementName == some "AffiliationDescriptor") with
        | none => exact h
        | some t => exact h.affiliateAll _ _ _
    · exact h

theorem Loaded.call (h : server.Loaded cx.toProviderContext) (c : ServerCall) :
    (server.call cx c).Loaded cx.toProviderContext := by
  cases c with
  | addProvider role metadata publicKey caCertChain => exact h.addProvider _ _ _ _
  | addProviderFromBuffer role metadata publicKey caCertChain =>
    exact h.addProviderFromBuffer _ _ _ _
  | loadMetadataEntity role blacklistedEntityIds entity => exact h.loadMetadataEntity _ _ _
  | loadAffiliation filename => exact h.loadAffiliation _
  | setEncryptionMode providerId mode => exact h.setOn _ fun _ => rfl
  | setEncryptionSymKeyType providerId type => exact h.setOn _ fun _ => rfl
  | setServerSigningKey providerId context =>
    refine h.setOn _ fun p => ?_
    unfold ProviderObject.setServerSigningKey
    split_ifs <;> rfl
  | setRole role => exact ⟨h.own, h.ownNone, h.providers⟩
  | setSignatureMethod method => exact ⟨h.own, h.ownNone, h.providers⟩

end

/-- `lasso_server_new` and `lasso_server_new_from_buffers` -/
def IsNew (cx : LoadingContext) (server : ServerObject) : Prop :=
  ∃ metadata privateKey privateKeyPassword certificate,
    newOf cx (ProviderObject.loadMetadata cx.toProviderContext true) metadata privateKey
        privateKeyPassword certificate = some server ∨
      newOf cx (ProviderObject.loadMetadataFromBuffer cx.toProviderContext true) metadata privateKey
        privateKeyPassword certificate = some server

theorem fresh_loadPublicKey_getD (cx : ProviderContext) (p : ProviderObject)
    (type : PublicKeyType) : ((p.loadPublicKey cx type).getD p).fresh = p.fresh := by
  cases hload : p.loadPublicKey cx type with
  | none => rfl
  | some q =>
    obtain ⟨keys, rfl⟩ := ProviderObject.loadPublicKey_eq_some hload
    cases type <;> rfl

theorem loaded_newOf {cx : LoadingContext} {server : ServerObject}
    {loader : ProviderObject → String → Option ProviderObject}
    (hloader : ∀ metadata p, loader { role := 0 } metadata = some p → ∃ text,
      p.metadataFilename = some text ∧ cx.readMetadata true 0 text = some p.metadata ∧
        p.providerId = p.metadata.providerId)
    {metadata privateKey privateKeyPassword certificate : Option String}
    (h : newOf cx loader metadata privateKey privateKeyPassword certificate = some server) :
    server.Loaded cx.toProviderContext := by
  obtain ⟨p, hread, rfl⟩ := Option.map_eq_some_iff.mp h
  dsimp only
  set p' := (p.loadPublicKey cx.toProviderContext .signing).getD p
  set q := (p'.loadPublicKey cx.toProviderContext .encryption).getD p'
  have hfresh : q.fresh = p.fresh :=
    (fresh_loadPublicKey_getD _ _ _).trans (fresh_loadPublicKey_getD _ _ _)
  have hfilename : q.metadataFilename = p.metadataFilename :=
    show q.fresh.metadataFilename = p.fresh.metadataFilename by rw [hfresh]
  have hmetadata : q.metadata = p.metadata :=
    show q.fresh.metadata = p.fresh.metadata by rw [hfresh]
  have hid : q.providerId = p.providerId :=
    show q.fresh.providerId = p.fresh.providerId by rw [hfresh]
  refine ⟨?_, ?_, fun key p hlookup => by simp at hlookup⟩
  · intro text htext
    rw [hmetadata, hid]
    cases metadata with
    | none =>
      cases hread
      cases hfilename.symm.trans htext
    | some metadata =>
      obtain ⟨text', htext', hread', hid'⟩ := hloader metadata p hread
      obtain rfl := Option.some.inj (htext'.symm.trans (hfilename.symm.trans htext))
      exact ⟨hread', hid'⟩
  · intro hnone
    rw [hmetadata]
    cases metadata with
    | none =>
      cases hread
      rfl
    | some metadata =>
      obtain ⟨text', htext', -, -⟩ := hloader metadata p hread
      cases htext'.symm.trans (hfilename.symm.trans hnone)

theorem loaded_of_isNew {cx : LoadingContext} {server : ServerObject} (h : server.IsNew cx) :
    server.Loaded cx.toProviderContext := by
  have hbuffer : ∀ metadata p, ProviderObject.loadMetadataFromBuffer cx.toProviderContext true
      { role := 0 } metadata = some p → ∃ text, p.metadataFilename = some text ∧
        cx.readMetadata true 0 text = some p.metadata ∧ p.providerId = p.metadata.providerId := by
    intro metadata p hp
    obtain ⟨read, hread, rfl⟩ := Option.map_eq_some_iff.mp hp
    exact ⟨metadata, rfl, hread, rfl⟩
  obtain ⟨metadata, privateKey, privateKeyPassword, certificate, hnew | hnew⟩ := h
  · refine loaded_newOf (fun path p hp => ?_) hnew
    obtain ⟨text, -, hp⟩ := Option.bind_eq_some_iff.mp hp
    exact hbuffer text p hp
  · exact loaded_newOf hbuffer hnew

/-- Every run of calls on a new server. -/
theorem loaded_of_reaches {cx : LoadingContext} {server : ServerObject}
    (h : Run.Reaches (call cx) (fun _ _ => True) (IsNew cx) server) :
    server.Loaded cx.toProviderContext :=
  h.invariant (fun _ hnew => loaded_of_isNew hnew) fun _ c hloaded _ => hloaded.call c

end ServerObject

end Lasso
