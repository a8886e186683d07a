import Lasso.Library.Tables
import Lasso.Profile.Dump
import Lasso.Provider.Metadata
import Lasso.Xml.TextRows

/-!
# The dump of a server

A server is dumped with the providers it knows. The members of a provider with a file are written by
the snippets; the role and the encryption mode are attributes that are set by hand, and the rest is
read again from the text of the metadata.

## Main definitions

* `ProviderObject.getXmlNode`, `ProviderObject.initFromXml` — one provider.
* `ServerObject.dump`, `ServerObject.newFromDump` — the server.
-/

namespace Lasso

/-! ## The classes -/

/-- A snippet for an attribute that the class handles itself. -/
def Dump.ownAttribute (name : String) : Snippet where
  name
  kind := .attribute
  field := none

/-- `schema_snippets` of `LassoProvider` -/
def providerSnippets : List Snippet := [
  Dump.content "PublicKeyFilePath" "public_key",
  Dump.content "CaCertChainFilePath" "ca_cert_chain",
  Dump.content "MetadataFilePath" "metadata_filename",
  { name := "ProviderID", kind := .attribute, field := some "ProviderID" },
  Dump.ownAttribute "ProviderRole",
  Dump.ownAttribute "EncryptionMode",
  Dump.ownAttribute "ProviderDumpVersion"]

/-- The `node_data` of `LassoProvider` -/
def providerData : NodeClassData where
  nodeName := "Provider"
  ns := some lassoHref
  nsPrefix := some "lasso"
  snippets := some {
    snippets := providerSnippets
    jump_inside := by decide
    miss_ahead := by decide }

/-- The child with the providers. -/
def providersSnippet : Snippet where
  name := "Providers"
  kind := .listNodes
  field := none

/-- `schema_snippets` of `LassoServer`, without the Web Services Framework -/
def serverSnippets : List Snippet := [
  Dump.content "PrivateKeyFilePath" "private_key",
  Dump.content "PrivateKeyPassword" "private_key_password",
  Dump.content "CertificateFilePath" "certificate",
  Dump.ownAttribute "SignatureMethod",
  providersSnippet,
  Dump.ownAttribute "ServerDumpVersion"]

/-- The `node_data` of `LassoServer` -/
def serverData : NodeClassData where
  nodeName := "Server"
  ns := some lassoHref
  nsPrefix := some "lasso"
  snippets := some {
    snippets := serverSnippets
    jump_inside := by decide
    miss_ahead := by decide }

/-- The class `LassoProvider`; the functions below go on from what its snippets write and read. -/
def providerClass : WritableClass where
  name := "LassoProvider"
  data := providerData
  chain := [providerData]
  chain_base := by decide
  data_head := rfl
  subtype_ns := by decide
  version_ns := by decide

/-- The class `LassoServer`. -/
def serverClass : WritableClass where
  name := "LassoServer"
  data := serverData
  chain := [serverData, providerData]
  chain_base := by decide
  data_head := rfl
  subtype_ns := by decide
  version_ns := by decide

/-- What `lasso_node_impl_init_from_xml` writes to an object, for a caller that ignores its code: an
error leaves what was written for the children before. -/
def implStores (R : Registry) (searchNs : NsScope) (cls : LassoNodeClass) (place : PlacedNode) :
    Except Fault (List Store) :=
  let children := place.children.map (·.result R searchNs)
  match implInit R searchNs cls place children with
  | .error fault => .error fault
  | .ok (.ok stores) => .ok stores
  | .ok (.error _) =>
    .ok (((List.range children.length).reverse.findSome? fun count =>
      match implInit R searchNs cls place (children.take count) with
      | .ok (.ok stores) => some stores
      | _ => none).getD [])

/-! ## The attributes -/

/-- `roles` of both functions. The table has places for `LASSO_PROVIDER_ROLE_LAST` roles, and the
places behind the names are `NULL`. -/
def providerRoles : List String :=
  ["None", "SP", "IdP", "AuthnAuthority", "PDP", "AttributeAuthority"]

/-- The value of the attribute for a role, `none` for a role outside of the table. An attribute
without a value is an empty one. -/
def roleAttribute (role : Int) : Option String :=
  if 0 ≤ role ∧ role < 17 then some (providerRoles.getD role.toNat "") else none

/-- The loop that looks for a role by its name; it compares with `NULL` if the name is none of
those in the table. -/
def readRole : Option String → Except Fault Int
  | none => .ok 0
  | some s =>
    match providerRoles.findIdx? (· == s) with
    | some i => .ok i
    | none => .error .nullPointer

/-- `encryption_mode` of `get_xmlNode` -/
def EncryptionMode.dumpName : EncryptionMode → String
  | none => "None"
  | nameId => "NameId"
  | assertion => "Assertion"
  | both => "Both"

/-- The mode of an attribute. -/
def readEncryptionMode (s : Option String) : EncryptionMode :=
  if s = some "NameId" then .nameId
  else if s = some "Assertion" then .assertion
  else if s = some "Both" then .both
  else .none

/-- `signature_methods` of `get_xmlNode`; there is no name for `LASSO_SIGNATURE_METHOD_NONE`. -/
def SignatureMethod.dumpName : SignatureMethod → String
  | none => ""
  | rsaSha1 => "RSA_SHA1"
  | dsaSha1 => "DSA_SHA1"
  | hmacSha1 => "HMAC_SHA1"
  | rsaSha256 => "RSA_SHA256"
  | hmacSha256 => "HMAC_SHA256"
  | rsaSha384 => "RSA_SHA384"
  | hmacSha384 => "HMAC_SHA384"
  | rsaSha512 => "RSA_SHA512"
  | hmacSha512 => "HMAC_SHA512"

/-- The method of an attribute. -/
def readSignatureMethod (s : Option String) : Option SignatureMethod :=
  [.rsaSha1, .dsaSha1, .hmacSha1, .rsaSha256, .hmacSha256, .rsaSha384, .hmacSha384, .rsaSha512,
    .hmacSha512].find? fun method : SignatureMethod => s = some method.dumpName

/-! ## Providers -/

namespace ProviderObject

/-- The members of a provider with a snippet. -/
def texts (p : ProviderObject) : List (String × Option String) := [
  ("public_key", p.publicKey),
  ("ca_cert_chain", p.caCertChain),
  ("metadata_filename", p.metadataFilename),
  ("ProviderID", p.providerId)]

/-- The attributes that `get_xmlNode` sets; a role outside of the table is undefined behaviour. -/
def dumpAttributes (p : ProviderObject) (attrs : List XmlAttr) : Option (List XmlAttr) := do
  let attrs := setNsProp attrs { name := "ProviderDumpVersion", value := "2" }
  let attrs ←
    if p.role = 0 then some attrs
    else (roleAttribute p.role).map fun value =>
      setNsProp attrs { name := "ProviderRole", value }
  return setNsProp attrs { name := "EncryptionMode", value := p.encryptionMode.dumpName }

/-- `get_xmlNode` of `LassoProvider`, for the members of an object of a class -/
def getXmlNodeOf (cls : WritableClass) (texts : List (String × Option String))
    (p : ProviderObject) : Option XmlNode :=
  match buildXmlNode true cls (Rows.textMembers texts) with
  | .element ns name attrs children =>
    (p.dumpAttributes attrs).map fun attrs => .element ns name attrs children
  | node => some node

/-- `lasso_node_get_xmlNode` of a provider -/
def getXmlNode (p : ProviderObject) : Option XmlNode :=
  p.getXmlNodeOf providerClass p.texts

/-- The end of `init_from_xml`: the text of the metadata is tried as the name of a file, and then
read itself. Without the metadata or the keys the code is not zero. -/
def reload (cx : ProviderContext) (isServer : Bool) (p : ProviderObject) : Option ProviderObject :=
  let read :=
    match p.metadataFilename with
    | none => some p
    | some metadata =>
      (p.loadMetadata cx isServer metadata).or (p.loadMetadataFromBuffer cx isServer metadata)
  read.bind (·.loadPublicKeys cx)

/-- `init_from_xml` of `LassoProvider`, for a new object that the parent's method has filled in:
`none` is a code other than zero. -/
def initFromXml (cx : ProviderContext) (isServer : Bool) (object : ParsedNode) (node : XmlNode) :
    Except Fault (Option ProviderObject) := do
  let role ← readRole (node.getProp "ProviderRole")
  let p : ProviderObject := {
    role
    publicKey := object.content "public_key"
    caCertChain := object.content "ca_cert_chain"
    metadataFilename := object.content "metadata_filename"
    providerId := object.content "ProviderID"
    encryptionMode := readEncryptionMode (node.getProp "EncryptionMode") }
  return p.reload cx isServer

/-- `lasso_node_init_from_xml` of a new provider -/
def ofXml (R : Registry) (searchNs : NsScope) (cx : ProviderContext) (place : PlacedNode) :
    Except Fault (Option ProviderObject) := do
  let stores ← implStores R searchNs providerClass.toLassoNodeClass place
  initFromXml cx false (.mk providerClass.name stores) place.node

end ProviderObject

/-! ## The server -/

/-- The environment of a server. -/
structure ServerContext extends ProviderContext where
  /-- the order in which `g_hash_table_foreach` visits keys -/
  foreachOrder : List String → List String
  /-- `lasso_get_default_signature_method` -/
  defaultSignatureMethod : SignatureMethod

/-- `LassoServer`, which is a provider itself. -/
structure ServerObject extends ProviderObject where
  privateKey : Option String := none
  privateKeyPassword : Option String := none
  certificate : Option String := none
  signatureMethod : SignatureMethod
  providers : AList (fun _ : String => ProviderObject) := ∅

namespace ServerObject

/-- The members of a server with a snippet. -/
def texts (server : ServerObject) : List (String × Option String) :=
  server.toProviderObject.texts ++ [
    ("private_key", server.privateKey),
    ("private_key_password", server.privateKeyPassword),
    ("certificate", server.certificate)]

section

variable (cx : ServerContext)

/-- The Providers element, in the namespace of its parent. -/
def providersNodes (ns : Option String) (server : ServerObject) : Option (List XmlNode) :=
  let entries := Tables.entriesIn (cx.foreachOrder server.providers.keys) server.providers
  if entries = [] then some []
  else (entries.mapM fun entry : String × ProviderObject => entry.2.getXmlNode).map fun nodes =>
    [.element ns "Providers" [] nodes]

/-- `lasso_server_dump`, taken for its element -/
def dump (server : ServerObject) : Option XmlNode := do
  match ← server.getXmlNodeOf serverClass server.texts with
  | .element ns name attrs children =>
    let attrs := setNsProp attrs { name := "ServerDumpVersion", value := "2" }
    let attrs := setNsProp attrs
      { name := "SignatureMethod", value := server.signatureMethod.dumpName }
    let nodes ← server.providersNodes cx ns
    return .element ns name attrs (children ++ nodes)
  | node => return node

/-- The Provider elements of a dump. -/
def providerPlaces (place : PlacedNode) : List PlacedNode :=
  (place.children.filter fun t => t.node.elementName == some "Providers").flatMap fun t =>
    t.children.filter (·.node.isElement)

variable (R : Registry) (searchNs : NsScope)

/-- The loop over the providers of a dump, which ends at the first one that does not load. -/
def insertProviders : List PlacedNode → AList (fun _ : String => ProviderObject) →
    Except Fault (AList fun _ : String => ProviderObject)
  | [], providers => return providers
  | place :: places, providers => do
    match (← ProviderObject.ofXml R searchNs cx.toProviderContext place).bind
        (·.loadPublicKey cx.toProviderContext .signing) with
    | none => return providers
    | some p =>
      match p.providerId with
      | none => .error .nullPointer
      | some providerId => insertProviders places (providers.insert providerId p)

/-- `init_from_xml` of `LassoServer`: `none` is a code other than zero. What goes wrong after the
members have been read gives none. -/
def initFromXml (place : PlacedNode) : Except Fault (Option ServerObject) := do
  let stores ← implStores R searchNs serverClass.toLassoNodeClass place
  let object := ParsedNode.mk serverClass.name stores
  match ← ProviderObject.initFromXml cx.toProviderContext true object place.node with
  | none => return none
  | some p =>
    let server : ServerObject := {
      toProviderObject := p
      privateKey := object.content "private_key"
      privateKeyPassword := object.content "private_key_password"
      certificate := object.content "certificate"
      signatureMethod := cx.defaultSignatureMethod }
    match readSignatureMethod (place.node.getProp "SignatureMethod") with
    | none => return some server
    | some signatureMethod =>
      let providers ← insertProviders cx R searchNs (providerPlaces place) ∅
      return some { server with signatureMethod, providers }

/-- `lasso_server_new_from_dump` -/
def newFromDump (dump : XmlNode) : Option ServerObject :=
  match classFor R searchNs ⟨[], dump⟩ none with
  | none => none
  | some cls =>
    if cls.name = serverClass.name then
      match initFromXml cx R searchNs ⟨[], dump⟩ with
      | .ok server => server
      | .error _ => none
    else none

end

end ServerObject

end Lasso
