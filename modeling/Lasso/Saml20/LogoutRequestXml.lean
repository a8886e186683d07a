import Lasso.Messages.Saml2
import Lasso.Xml.ReadAttributes

/-!
# The element of a logout request

A LogoutRequest has its session indexes in two members: the first one in the public member
`SessionIndex`, and the others in the private data. The elements for them are not made and not read
by the snippets of the class, but by methods of its own.

## Main definitions

* `logoutRequestClass` — the class.
* `LogoutRequestObject.getXmlNode`, `logoutRequestInitFromXml` — its methods.
* `LogoutRequestRegistry` — a registry with the classes in a request.
-/

namespace Lasso

/-- `LASSO_XMLENC_HREF` -/
def xmlEncHref : String := "http://www.w3.org/2001/04/xmlenc#"

/-! ## Classes in a request -/

/-- A snippet for an attribute with the name of its member. -/
def Snippet.ofAttribute (name : String) : Snippet where
  name
  kind := .attribute
  field := some name

/-- The `node_data` of `LassoSaml2NameID` -/
def nameIdData : NodeClassData where
  nodeName := "NameID"
  ns := some saml2AssertionHref
  nsPrefix := some "saml"
  snippets := some {
    snippets := [
      { name := "content", kind := .textChild, field := some "content" },
      .ofAttribute "Format", .ofAttribute "SPProvidedID", .ofAttribute "NameQualifier",
      .ofAttribute "SPNameQualifier"]
    jump_inside := by decide
    miss_ahead := by decide }

def nameIdClass : WritableClass where
  name := "LassoSaml2NameID"
  data := nameIdData
  chain := [nameIdData]
  chain_base := by decide
  data_head := rfl
  subtype_ns := by decide
  version_ns := by decide

/-- The `node_data` of `LassoSaml2BaseIDAbstract` -/
def baseIdAbstractData : NodeClassData where
  nodeName := "BaseIDAbstract"
  ns := some saml2AssertionHref
  nsPrefix := some "saml"
  snippets := some {
    snippets := [.ofAttribute "NameQualifier", .ofAttribute "SPNameQualifier"]
    jump_inside := by decide
    miss_ahead := by decide }

def baseIdAbstractClass : WritableClass where
  name := "LassoSaml2BaseIDAbstract"
  data := baseIdAbstractData
  chain := [baseIdAbstractData]
  chain_base := by decide
  data_head := rfl
  subtype_ns := by decide
  version_ns := by decide

def encryptedDataSnippet : Snippet where
  name := "EncryptedData"
  kind := .xmlNode
  field := some "EncryptedData"
  nsName := some "xenc"
  nsUri := some xmlEncHref

def encryptedKeySnippet : Snippet where
  name := "EncryptedKey"
  kind := .listXmlNodes
  field := some "EncryptedKey"
  nsName := some "xenc"
  nsUri := some xmlEncHref

/-- The object that was encrypted, which is in dumps only. -/
def originalDataSnippet : Snippet where
  name := "NameID"
  kind := .node
  field := some "original_data"
  lassoDump := true

/-- The `node_data` of `LassoSaml2EncryptedElement` -/
def encryptedElementData : NodeClassData where
  nodeName := "EncryptedElement"
  ns := some saml2AssertionHref
  nsPrefix := some "saml"
  snippets := some {
    snippets := [
      encryptedDataSnippet, encryptedKeySnippet, originalDataSnippet]
    jump_inside := by decide
    miss_ahead := by decide }

def encryptedElementClass : WritableClass where
  name := "LassoSaml2EncryptedElement"
  data := encryptedElementData
  chain := [encryptedElementData]
  chain_base := by decide
  data_head := rfl
  subtype_ns := by decide
  version_ns := by decide

/-- The class `LassoSamlp2Extensions` -/
def extensionsClass : LassoNodeClass where
  name := "LassoSamlp2Extensions"
  chain := [{
    nodeName := "Extensions", ns := some saml2ProtocolHref, nsPrefix := some "samlp"
    snippets := some {
      snippets := [
        { name := "", kind := .listXmlNodes, any := true, field := some "any" },
        { name := "", kind := .attribute, any := true, field := some "attributes" }]
      jump_inside := by decide
      miss_ahead := by decide } }]
  chain_base := by decide

def issuerSnippet : Snippet where
  name := "Issuer"
  kind := .node
  field := some "Issuer"
  className := some "LassoSaml2NameID"
  nsName := some "saml"
  nsUri := some saml2AssertionHref

def signatureSnippet : Snippet where
  name := "Signature"
  kind := .signature
  field := some "ID"
  nsName := some "ds"
  nsUri := some xmlSecDSigNs

def extensionsSnippet : Snippet where
  name := "Extensions"
  kind := .node
  field := some "Extensions"

def privateKeyFileSnippet : Snippet where
  name := "PrivateKeyFile"
  kind := .content
  field := some "private_key_file"
  lassoDump := true

def certificateFileSnippet : Snippet where
  name := "CertificateFile"
  kind := .content
  field := some "certificate_file"
  lassoDump := true

/-- The `node_data` of `LassoSamlp2RequestAbstract` -/
def requestAbstractData : NodeClassData where
  nodeName := "RequestAbstract"
  ns := some saml2ProtocolHref
  nsPrefix := some "samlp"
  snippets := some {
    snippets := [
      issuerSnippet, signatureSnippet, extensionsSnippet,
      .ofAttribute "ID", .ofAttribute "Version", .ofAttribute "IssueInstant",
      .ofAttribute "Destination", .ofAttribute "Consent",
      { name := "SignType", kind := .attribute, field := some "sign_type", integer := true,
        lassoDump := true },
      { name := "SignMethod", kind := .attribute, field := some "sign_method", integer := true,
        lassoDump := true },
      privateKeyFileSnippet, certificateFileSnippet]
    jump_inside := by decide
    miss_ahead := by decide }

/-- A BaseID is followed by no NameID and no EncryptedID. -/
def baseIdSnippet : Snippet where
  name := "BaseID"
  kind := .node
  field := some "BaseID"
  nsName := some "saml"
  nsUri := some saml2AssertionHref
  jumpOnMatch := true
  jumpOffset := 3

/-- A NameID is followed by no EncryptedID. -/
def nameIdSnippet : Snippet where
  name := "NameID"
  kind := .node
  field := some "NameID"
  nsName := some "saml"
  nsUri := some saml2AssertionHref
  jumpOnMatch := true
  jumpOffset := 2

def encryptedIdSnippet : Snippet where
  name := "EncryptedID"
  kind := .node
  field := some "EncryptedID"
  nsName := some "saml"
  nsUri := some saml2AssertionHref

def sessionIndexSnippet : Snippet where
  name := "SessionIndex"
  kind := .content
  field := some "SessionIndex"

/-- The other elements for session indexes, which are not stored by the snippet. -/
def otherSessionIndexSnippet : Snippet where
  name := "SessionIndex"
  kind := .listNodes
  field := none

/-- The `node_data` of `LassoSamlp2LogoutRequest` -/
def logoutRequestData : NodeClassData where
  nodeName := "LogoutRequest"
  ns := some saml2ProtocolHref
  nsPrefix := some "samlp"
  snippets := some {
    snippets := [
      baseIdSnippet, nameIdSnippet, encryptedIdSnippet,
      sessionIndexSnippet, otherSessionIndexSnippet,
      .ofAttribute "Reason", .ofAttribute "NotOnOrAfter"]
    jump_inside := by decide
    miss_ahead := by decide }

/-! ## The methods of the class -/

/-- The member of the private data. -/
def privateSessionIndex : String := "pv->SessionIndex"

/-- The elements that the walk over the siblings comes to. -/
def sessionIndexElements (xmlnode : XmlNode) : List XmlNode :=
  ((xmlnode.children.filter (·.isElement)).dropWhile fun child =>
    !child.isElementNode "SessionIndex" saml2ProtocolHref).takeWhile
      (·.isElementNode "SessionIndex" saml2ProtocolHref)

/-- `init_from_xml`, from what the parent's method has come to. An error stays an error. -/
def logoutRequestInitFromXml (xmlnode : XmlNode) : Except Int (List Store) → InitResult
  | .error rc => .ok (.error rc)
  | .ok stores =>
    let object := ParsedNode.mk "LassoSamlp2LogoutRequest" stores
    if ((object.subnode "BaseID").toList ++ (object.subnode "NameID").toList ++
        (object.subnode "EncryptedID").toList).length ≠ 1 then .ok (.error 1)
    else
      -- the first one is in the public member
      .ok (.ok (stores ++ (sessionIndexElements xmlnode).tail.map fun child =>
        .content privateSessionIndex child.textContent))

def logoutRequestClass : WritableClass where
  name := "LassoSamlp2LogoutRequest"
  data := logoutRequestData
  chain := [logoutRequestData, requestAbstractData]
  init := .after logoutRequestInitFromXml
  chain_base := by decide
  data_head := rfl
  subtype_ns := by decide
  version_ns := by decide

/-! ## Objects in a request -/

/-- `lasso_node_get_xmlNode` of a NameID -/
def Saml2NameId.getXmlNode (lassoDump : Bool) (nameId : Saml2NameId) : XmlNode :=
  buildXmlNode lassoDump nameIdClass [
    ("content", .string nameId.content),
    ("Format", .string nameId.format),
    ("SPProvidedID", .string nameId.spProvidedId),
    ("NameQualifier", .string nameId.nameQualifier),
    ("SPNameQualifier", .string nameId.spNameQualifier)]

/-- `LassoSaml2BaseIDAbstract` -/
structure Saml2BaseIdAbstract where
  nameQualifier : Option String := none
  spNameQualifier : Option String := none

/-- `lasso_node_get_xmlNode` of a BaseID -/
def Saml2BaseIdAbstract.getXmlNode (lassoDump : Bool) (baseId : Saml2BaseIdAbstract) : XmlNode :=
  buildXmlNode lassoDump baseIdAbstractClass [
    ("NameQualifier", .string baseId.nameQualifier),
    ("SPNameQualifier", .string baseId.spNameQualifier)]

/-- The nodes of a `LassoSaml2EncryptedElement` with a NameID. -/
structure EncryptedNodes where
  encryptedData : Option XmlNode := none
  encryptedKey : List XmlNode := []
  originalData : Option Saml2NameId := none
  data_named : ∀ node ∈ encryptedData, node.isElementNode "EncryptedData" xmlEncHref = true
  keys_named : ∀ node ∈ encryptedKey, node.isElementNode "EncryptedKey" xmlEncHref = true

/-- `lasso_node_get_xmlNode` of an EncryptedID -/
def EncryptedNodes.getXmlNode (lassoDump : Bool) (nodes : EncryptedNodes) : XmlNode :=
  buildXmlNode lassoDump encryptedElementClass [
    ("EncryptedData", .xmlNode nodes.encryptedData),
    ("EncryptedKey", .xmlNodes nodes.encryptedKey),
    ("original_data", .node (nodes.originalData.map (·.getXmlNode lassoDump)))]

/-- `LassoSamlp2Extensions`, with attributes other than `xsi:type`, which is for the parser. -/
structure Samlp2Extensions where
  any : List XmlNode := []
  attributes : List XmlAttr := []
  no_type : ∀ attr ∈ attributes, attr.name = "type" → attr.ns ≠ some xsiHref

/-- `lasso_node_get_xmlNode` of Extensions -/
def Samlp2Extensions.getXmlNode (extensions : Samlp2Extensions) : XmlNode :=
  .element (some saml2ProtocolHref) "Extensions" extensions.attributes extensions.any

/-- `LassoSamlp2LogoutRequest` with the members that only its element has. -/
structure LogoutRequestObject extends Samlp2LogoutRequest where
  baseId : Option Saml2BaseIdAbstract := none
  extensions : Option Samlp2Extensions := none
  version : Option String := none
  issueInstant : Option String := none
  destination : Option String := none
  reason : Option String := none
  notOnOrAfter : Option String := none
  signType : Int := 0
  signMethod : Int := 0
  privateKeyFile : Option String := none
  certificateFile : Option String := none
  /-- the children of the template, if a signature is set up -/
  signature : Option (List XmlNode) := none

/-- `xmlSecAddChild`, which puts line feeds between the children. -/
def xmlSecAddChild (children : List XmlNode) (child : XmlNode) : List XmlNode :=
  (if children = [] then [.text "\n"] else children) ++ [child, .text "\n"]

namespace LogoutRequestObject

variable (encrypted : Saml2EncryptedElement → EncryptedNodes) (lassoDump : Bool)
  (request : LogoutRequestObject)

/-- The members that the snippets lead to. -/
def members : List (String × MemberValue XmlNode) := [
  ("Issuer", .node (request.issuer.map (·.getXmlNode lassoDump))),
  ("Extensions", .node (request.extensions.map (·.getXmlNode))),
  ("ID", .string request.id),
  ("Version", .string request.version),
  ("IssueInstant", .string request.issueInstant),
  ("Destination", .string request.destination),
  ("Consent", .string request.consent),
  ("sign_type", .integer request.signType),
  ("sign_method", .integer request.signMethod),
  ("private_key_file", .string request.privateKeyFile),
  ("certificate_file", .string request.certificateFile),
  ("BaseID", .node (request.baseId.map (·.getXmlNode lassoDump))),
  ("NameID", .node (request.nameId.map (·.getXmlNode lassoDump))),
  ("EncryptedID", .node (request.encryptedId.map fun element =>
    (encrypted element).getXmlNode lassoDump)),
  ("SessionIndex", .string request.sessionIndex),
  ("Reason", .string request.reason),
  ("NotOnOrAfter", .string request.notOnOrAfter)]

/-- The template that `lasso_xmlnode_add_saml2_signature_template` adds. -/
def signatureTemplate : List XmlNode :=
  request.signature.toList.map (.element (some xmlSecDSigNs) "Signature" [])

/-- The children with the template, which comes after the Issuer. -/
def withSignature (children : List XmlNode) : List XmlNode :=
  let issuer := request.issuer.toList.length
  children.take issuer ++ request.signatureTemplate ++ children.drop issuer

/-- `get_xmlNode` -/
def getXmlNode : XmlNode :=
  -- the public member is nullified for the method of the parent
  match buildXmlNode lassoDump logoutRequestClass
      (members encrypted lassoDump { request with sessionIndex := none }) with
  | .element ns name attrs children =>
    .element ns name attrs (request.getSessionIndexes.foldl
      (fun children sessionIndex => xmlSecAddChild children
        (newTextChild (some saml2ProtocolHref) "SessionIndex" sessionIndex))
      (request.withSignature children))
  | node => node

end LogoutRequestObject

/-- A registry with the classes in a request, and the mappings of their elements. No class is
registered for a BaseID. -/
structure LogoutRequestRegistry extends Registry where
  types_nameId : types "LassoSaml2NameID" = some nameIdClass.toLassoNodeClass
  types_encryptedElement :
    types "LassoSaml2EncryptedElement" = some encryptedElementClass.toLassoNodeClass
  types_extensions : types "LassoSamlp2Extensions" = some extensionsClass
  types_baseId : types "LassoSaml2BaseID" = none
  mapping_issuer : mapping saml2AssertionHref "Issuer" = some "LassoSaml2NameID"
  mapping_encryptedId :
    mapping saml2AssertionHref "EncryptedID" = some "LassoSaml2EncryptedElement"
  mapping_nameId : mapping saml2AssertionHref "NameID" = none
  mapping_baseId : mapping saml2AssertionHref "BaseID" = none
  mapping_extensions : mapping saml2ProtocolHref "Extensions" = none

end Lasso
