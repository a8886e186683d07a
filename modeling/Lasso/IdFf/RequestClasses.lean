import Lasso.Xml.NodeObject

/-!
# The classes of ID-FF 1.2 requests

The tables of `samlp_request_abstract.c`, `saml_name_identifier.c`, `lib_request_authn_context.c`,
`lib_authn_request.c` and `lib_logout_request.c`.

## Main definitions

* `samlNameIdentifierClass`, `requestAuthnContextClass` — the classes of objects in requests.
* `libAuthnRequestClass`, `libLogoutRequestClass` — the classes of the requests.
-/

namespace Lasso.IdFf

/-- A snippet for an element with the name of its member. -/
def contentSnippet (name : String) : Snippet where
  name
  kind := .content
  field := some name

/-- A snippet for an attribute with the name of its member. -/
def namedAttribute (name : String) : Snippet where
  name
  kind := .attribute
  field := some name

/-- The `node_data` of `LassoSamlpRequestAbstract` -/
def samlpRequestAbstractData : NodeClassData where
  nodeName := "RequestAbstract"
  ns := some samlProtocolHref
  nsPrefix := some "samlp"
  snippets := some {
    snippets := [
      { name := "RespondWith", kind := .listContent, field := some "RespondWith" },
      { name := "Signature", kind := .signature, field := some "RequestID", nsName := some "ds",
        nsUri := some xmlSecDSigNs },
      namedAttribute "RequestID",
      { name := "MajorVersion", kind := .attribute, field := some "MajorVersion",
        integer := true },
      { name := "MinorVersion", kind := .attribute, field := some "MinorVersion",
        integer := true },
      namedAttribute "IssueInstant"]
    jump_inside := by decide
    miss_ahead := by decide }

/-- The `node_data` of `LassoSamlNameIdentifier` -/
def samlNameIdentifierData : NodeClassData where
  nodeName := "NameIdentifier"
  ns := some samlAssertionHref
  nsPrefix := some "saml"
  snippets := some {
    snippets := [
      namedAttribute "NameQualifier", namedAttribute "Format",
      { name := "content", kind := .textChild, field := some "content" }]
    jump_inside := by decide
    miss_ahead := by decide }

def samlNameIdentifierClass : WritableClass where
  name := "LassoSamlNameIdentifier"
  data := samlNameIdentifierData
  chain := [samlNameIdentifierData]
  chain_base := by decide
  data_head := rfl
  subtype_ns := by decide
  version_ns := by decide

/-- The `node_data` of `LassoLibRequestAuthnContext` -/
def requestAuthnContextData : NodeClassData where
  nodeName := "RequestAuthnContext"
  ns := some libHref
  nsPrefix := some "lib"
  snippets := some {
    snippets := [
      { name := "AuthnContextClassRef", kind := .listContent,
        field := some "AuthnContextClassRef" },
      { name := "AuthnContextStatementRef", kind := .listContent,
        field := some "AuthnContextStatementRef" },
      contentSnippet "AuthnContextComparison"]
    jump_inside := by decide
    miss_ahead := by decide }

def requestAuthnContextClass : WritableClass where
  name := "LassoLibRequestAuthnContext"
  data := requestAuthnContextData
  chain := [requestAuthnContextData]
  chain_base := by decide
  data_head := rfl
  subtype_ns := by decide
  version_ns := by decide

/-- The `node_data` of `LassoLibAuthnRequest` -/
def libAuthnRequestData : NodeClassData where
  nodeName := "AuthnRequest"
  ns := some libHref
  nsPrefix := some "lib"
  snippets := some {
    snippets := [
      { name := "Extension", kind := .extension, field := some "Extension" },
      contentSnippet "ProviderID", contentSnippet "AffiliationID", contentSnippet "NameIDPolicy",
      { name := "ForceAuthn", kind := .content, field := some "ForceAuthn", boolean := true },
      { name := "IsPassive", kind := .content, field := some "IsPassive", boolean := true },
      contentSnippet "ProtocolProfile", contentSnippet "AssertionConsumerServiceID",
      { name := "RequestAuthnContext", kind := .node, field := some "RequestAuthnContext" },
      contentSnippet "RelayState",
      { name := "Scoping", kind := .node, field := some "Scoping" },
      namedAttribute "consent"]
    jump_inside := by decide
    miss_ahead := by decide }

def libAuthnRequestClass : WritableClass where
  name := "LassoLibAuthnRequest"
  data := libAuthnRequestData
  chain := [libAuthnRequestData, samlpRequestAbstractData]
  chain_base := by decide
  data_head := rfl
  subtype_ns := by decide
  version_ns := fun _ => ⟨libAuthnRequestData, rfl, rfl⟩

/-- The member of the private data of a LogoutRequest. -/
def privateSessionIndexes : String := "pv->SessionIndex"

/-- The `node_data` of `LassoLibLogoutRequest`. Two snippets are for session indexes: the first
element goes to the public member, and the others go to the list in the private data. -/
def libLogoutRequestData : NodeClassData where
  nodeName := "LogoutRequest"
  ns := some libHref
  nsPrefix := some "lib"
  snippets := some {
    snippets := [
      { name := "Extension", kind := .extension, field := some "Extension" },
      contentSnippet "ProviderID",
      { name := "NameIdentifier", kind := .node, field := some "NameIdentifier",
        nsName := some "saml", nsUri := some samlAssertionHref },
      contentSnippet "SessionIndex",
      { name := "SessionIndex", kind := .listContent, field := some privateSessionIndexes },
      contentSnippet "RelayState",
      namedAttribute "consent", namedAttribute "NotOnOrAfter"]
    jump_inside := by decide
    miss_ahead := by decide }

def libLogoutRequestClass : WritableClass where
  name := "LassoLibLogoutRequest"
  data := libLogoutRequestData
  chain := [libLogoutRequestData, samlpRequestAbstractData]
  chain_base := by decide
  data_head := rfl
  subtype_ns := by decide
  version_ns := fun _ => ⟨libLogoutRequestData, rfl, rfl⟩

end Lasso.IdFf
