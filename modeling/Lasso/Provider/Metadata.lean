import Mathlib.Data.Int.Bitwise
import Lasso.Provider.Basic
import Lasso.Xml.NodeWriter
import Lasso.Xml.QuerySign

/-!
# Providers and their metadata

A provider is made from the metadata of a party, and from a file with its public key if there is
one. Only the text of the metadata is kept for a dump; the settings of a provider are members of
their own.

## Main definitions

* `ProviderContext.readMetadata` — what a text of metadata is read into.
* `ProviderObject` — `LassoProvider` with its private data.
* `ProviderObject.new`, `ProviderObject.newFromXmlnode` — the constructors.
-/

namespace Lasso

/-- The values of `LassoProviderRole`. A role is a set of bits, and may be any `int`. -/
def ProviderRole.toInt : ProviderRole → Int
  | none => 0
  | sp => 1
  | idp => 2
  | both => 3
  | authnAuthority => 4
  | authzAuthority => 8
  | attributeAuthority => 16

/-- `LassoEncryptionSymKeyType` -/
inductive EncryptionSymKeyType where
  | default
  | aes256
  | aes128
  | tripleDes
deriving DecidableEq

/-- The namespace of ID-FF 1.2 metadata. -/
def metadataHref : String := "urn:liberty:metadata:2003-08"

/-! ## Metadata -/

/-- What a provider has from its metadata. -/
structure Metadata where
  providerId : Option String := none
  conformance : ProtocolConformance := .liberty10
  /-- the roles with a descriptor -/
  roles : Int := 0
  descriptors : AList (fun _ : String => List String) := ∅
  defaultAssertionConsumer : Option String := none
  endpoints : List EndpointType := []
  signingKeyDescriptors : List XmlNode := []
  encryptionKeyDescriptor : Option XmlNode := none

/-- The files, the parsers, and the readers of one descriptor. -/
structure ProviderContext where
  /-- `g_file_get_contents` -/
  fileContents : String → Option String
  /-- `lasso_xml_parse_memory` -/
  parseMemory : String → Option XmlNode
  /-- `load_descriptor`, for a role: whether the descriptor was loaded -/
  loadDescriptor : XmlNode → Int → Metadata → Bool × Metadata
  /-- the part of `_lasso_provider_load_metadata_from_xmlnode` that reads ID-FF descriptors -/
  loadIdFfDescriptors : XmlNode → Metadata → Metadata
  /-- `lasso_xmlsec_load_private_key` without a password, as it is called for a public key -/
  loadPublicKey : String → Option SecKey
  /-- `lasso_xmlsec_load_key_info` -/
  loadKeyInfo : XmlNode → Option SecKey
  /-- no file has an XML document as its name -/
  document_not_file : ∀ path, (parseMemory path).isSome → fileContents path = none

namespace ProviderContext

variable (cx : ProviderContext)

/-- `descriptors` of `lasso_saml20_provider_load_metadata` -/
def descriptorRoles : List (String × ProviderRole) := [
  ("IDPSSODescriptor", .idp),
  ("SPSSODescriptor", .sp),
  ("AttributeAuthorityDescriptor", .attributeAuthority),
  ("PDPDescriptor", .authzAuthority),
  ("AuthnAuthorityDescriptor", .authnAuthority)]

/-- The loop over the descriptors, and for each of them over the names. -/
def loadDescriptors (nodes : List XmlNode) (metadata : Metadata) : Bool × Metadata :=
  nodes.foldl (fun state node =>
    descriptorRoles.foldl (fun (loaded, metadata) (name, role) =>
      if node.isElementNode name saml2MetadataHref then
        let (ok, metadata) := cx.loadDescriptor node role.toInt metadata
        (loaded || ok, metadata)
      else (loaded, metadata)) state) (false, metadata)

/-- The descriptor of the entity that a metadata file is about. -/
def entityDescriptor (root : XmlNode) : Option XmlNode :=
  if root.isElementNode "EntityDescriptor" saml2MetadataHref then some root
  else if root.isElementNode "EntitiesDescriptor" saml2MetadataHref then
    root.findChild "EntityDescriptor" saml2MetadataHref
  else none

/-- `lasso_saml20_provider_load_metadata` of a new provider, or of a new server -/
def loadSaml20Metadata (isServer : Bool) (role : Int) (root : XmlNode) : Option Metadata := do
  let node ← entityDescriptor root
  let providerId ← node.getProp "entityID"
  let (loaded, metadata) := cx.loadDescriptors node.children {}
  if !isServer && (!loaded || Int.land metadata.roles role == 0) then none
  else some { metadata with providerId, conformance := .saml20 }

/-- `_lasso_provider_load_metadata_from_xmlnode` of a new provider, or of a new server -/
def loadMetadataFromXmlnode (isServer : Bool) (role : Int) (node : XmlNode) : Option Metadata :=
  match node.ns with
  | none => none
  | some ns =>
    if ns = saml2MetadataHref then cx.loadSaml20Metadata isServer role node
    else if node.isElementNode "EntityDescriptor" metadataHref then
      some { cx.loadIdFfDescriptors node { conformance := .liberty12 } with
        conformance := .liberty12 }
    else if node.isElementNode "SPDescriptor" liberty11Href ||
        node.isElementNode "IDPDescriptor" liberty11Href then
      some { cx.loadIdFfDescriptors node { conformance := .liberty11 } with
        conformance := .liberty11 }
    else none

/-- What a text of metadata is read into. -/
def readMetadata (isServer : Bool) (role : Int) (metadata : String) : Option Metadata :=
  (cx.parseMemory metadata).bind (cx.loadMetadataFromXmlnode isServer role)

variable {cx} {isServer : Bool} {role : Int} {metadata : Metadata}

/-- The protocol of metadata is known; that of a new provider is the oldest one. -/
theorem conformance_of_loadMetadataFromXmlnode {node : XmlNode}
    (h : cx.loadMetadataFromXmlnode isServer role node = some metadata) :
    metadata.conformance ≠ .liberty10 := by
  unfold loadMetadataFromXmlnode at h
  split at h
  · cases h
  · split_ifs at h
    · unfold loadSaml20Metadata at h
      obtain ⟨entity, -, h⟩ := Option.bind_eq_some_iff.mp h
      obtain ⟨providerId, -, h⟩ := Option.bind_eq_some_iff.mp h
      dsimp only at h
      split_ifs at h
      cases h
      simp
    · cases h
      simp
    · cases h
      simp

theorem conformance_of_readMetadata {text : String}
    (h : cx.readMetadata isServer role text = some metadata) :
    metadata.conformance ≠ .liberty10 := by
  obtain ⟨node, -, hnode⟩ := Option.bind_eq_some_iff.mp h
  exact conformance_of_loadMetadataFromXmlnode hnode

end ProviderContext

/-! ## Providers -/

/-- `LassoProvider` with its private data. -/
structure ProviderObject where
  role : Int := 0
  publicKey : Option String := none
  caCertChain : Option String := none
  metadataFilename : Option String := none
  providerId : Option String := none
  metadata : Metadata := {}
  signingPublicKeys : List SecKey := []
  encryptionPublicKeys : List SecKey := []
  encryptionMode : EncryptionMode := .none
  encryptionSymKeyType : EncryptionSymKeyType := .aes128
  signatureContext : SignatureContext := ⟨.none, none⟩
  affiliationId : Option String := none
  affiliationOwnerId : Option String := none

/-- `LassoPublicKeyType` -/
inductive PublicKeyType where
  | signing
  | encryption

namespace ProviderObject

variable (cx : ProviderContext) (isServer : Bool) (p : ProviderObject)

/-- `lasso_provider_load_metadata_from_buffer` of a provider without metadata; the text is kept
under the name of a file. -/
def loadMetadataFromBuffer (metadata : String) : Option ProviderObject :=
  (cx.readMetadata isServer p.role metadata).map fun read =>
    { p with providerId := read.providerId, metadata := read, metadataFilename := some metadata }

/-- `lasso_provider_load_metadata` of a provider without metadata -/
def loadMetadata (path : String) : Option ProviderObject :=
  (cx.fileContents path).bind (p.loadMetadataFromBuffer cx isServer)

/-- The file and the KeyDescriptors that keys are loaded from. -/
def keySources : PublicKeyType → Option String × List XmlNode
  | .signing => (p.publicKey, p.metadata.signingKeyDescriptors)
  | .encryption => (none, p.metadata.encryptionKeyDescriptor.toList)

/-- The keys that can be read. -/
def readKeys (sources : Option String × List XmlNode) : List SecKey :=
  (sources.1.bind cx.loadPublicKey).toList ++ sources.2.filterMap cx.loadKeyInfo

/-- Set the keys for one use. -/
def setPublicKeys (keys : List SecKey) : PublicKeyType → ProviderObject
  | .signing => { p with signingPublicKeys := keys }
  | .encryption => { p with encryptionPublicKeys := keys }

/-- `lasso_provider_load_public_key`: the provider with its keys. It fails if there are sources and
none of them has a key. -/
def loadPublicKey (type : PublicKeyType) : Option ProviderObject :=
  match p.keySources type with
  | (none, []) => some p
  | sources =>
    match readKeys cx sources with
    | [] => none
    | keys => some (p.setPublicKeys keys type)

/-- Load the keys for both uses. -/
def loadPublicKeys : Option ProviderObject :=
  (p.loadPublicKey cx .signing).bind (·.loadPublicKey cx .encryption)

/-- `_lasso_provider_new_helper` -/
def newHelper (role : Int) (metadata : String) (publicKey caCertChain : Option String)
    (loader : ProviderObject → String → Option ProviderObject) : Option ProviderObject := do
  let p ← loader { role } metadata
  let p ← { p with publicKey, caCertChain }.loadPublicKeys cx
  return { p with encryptionMode := .none }

/-- `lasso_provider_new` -/
def new (role : Int) (path : String) (publicKey caCertChain : Option String) :
    Option ProviderObject :=
  newHelper cx role path publicKey caCertChain (loadMetadata cx false)

/-- `lasso_provider_new_from_buffer` -/
def newFromBuffer (role : Int) (metadata : String) (publicKey caCertChain : Option String) :
    Option ProviderObject :=
  newHelper cx role metadata publicKey caCertChain (loadMetadataFromBuffer cx false)

/-- `lasso_provider_new_from_xmlnode` -/
def newFromXmlnode (role : Int) (node : XmlNode) : Option ProviderObject := do
  let metadata ← cx.loadMetadataFromXmlnode false role node
  let p ← { role, providerId := metadata.providerId, metadata : ProviderObject }.loadPublicKeys cx
  return { p with encryptionMode := .none }

end ProviderObject

end Lasso
