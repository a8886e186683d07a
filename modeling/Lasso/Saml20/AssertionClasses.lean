import Lasso.Xml.Parse

/-!
# The classes of an assertion and its conditions

The tables of `saml2_assertion.c`, `saml2_conditions.c`, `saml2_condition_abstract.c`,
`saml2_audience_restriction.c` and `misc_text_node.c`.

## Main definitions

* `assertionClass`, `conditionsClass`, `conditionAbstractClass`, `audienceRestrictionClass`,
  `miscTextNodeClass` — the classes.
* `AssertionRegistry` — a registry that has these classes under their names.
-/

namespace Lasso

def miscTextNodeSnippets : SnippetTable where
  snippets := [
    { name := "content", kind := .textChild, field := some "content" },
    { name := "any_attributes", kind := .attribute, any := true, field := some "any_attributes" }]
  jump_inside := by decide
  miss_ahead := by decide

def miscTextNodeClass : LassoNodeClass where
  name := "LassoMiscTextNode"
  chain := [{ nodeName := "XXX", ns := none, snippets := some miscTextNodeSnippets }]
  init := .miscText
  chain_base := by decide

/-- The snippet of an assertion for its conditions. -/
def conditionsSnippet : Snippet :=
  { name := "Conditions", kind := .node, field := some "Conditions" }

def assertionSnippets : SnippetTable where
  snippets := [
    { name := "Issuer", kind := .node, field := some "Issuer",
      className := some "LassoSaml2NameID" },
    { name := "Signature", kind := .signature, field := some "ID", nsUri := some xmlSecDSigNs },
    { name := "Subject", kind := .node, field := some "Subject" },
    conditionsSnippet,
    { name := "Advice", kind := .node, field := some "Advice" },
    { name := "Statement", kind := .listNodes, field := some "Statement" },
    { name := "AuthnStatement", kind := .listNodes, field := some "AuthnStatement",
      jumpOnMatch := true, jumpOffset := -1 },
    { name := "AuthzDecisionStatement", kind := .listNodes,
      field := some "AuthzDecisionStatement", jumpOnMatch := true, jumpOffset := -2 },
    { name := "AttributeStatement", kind := .listNodes, field := some "AttributeStatement",
      jumpOnMatch := true, jumpOffset := -3 },
    { name := "Version", kind := .attribute, field := some "Version" },
    { name := "ID", kind := .attribute, field := some "ID" },
    { name := "IssueInstant", kind := .attribute, field := some "IssueInstant" },
    { name := "SignType", kind := .attribute, field := some "sign_type" },
    { name := "SignMethod", kind := .attribute, field := some "sign_method" },
    { name := "PrivateKeyFile", kind := .content, field := some "private_key_file" },
    { name := "CertificateFile", kind := .content, field := some "certificate_file" },
    { name := "EncryptionActivated", kind := .attribute, field := some "encryption_activated" },
    { name := "EncryptionPublicKeyStr", kind := .content,
      field := some "encryption_public_key_str" },
    { name := "EncryptionSymKeyType", kind := .attribute,
      field := some "encryption_sym_key_type" }]
  jump_inside := by decide
  miss_ahead := by decide

def assertionClass : LassoNodeClass where
  name := "LassoSaml2Assertion"
  chain := [{ nodeName := "Assertion", ns := some saml2AssertionHref,
              snippets := some assertionSnippets }]
  chain_base := by decide

def conditionsSnippets : SnippetTable where
  snippets := [
    { name := "Condition", kind := .listNodes, field := some "Condition" },
    { name := "AudienceRestriction", kind := .listNodes, field := some "AudienceRestriction",
      jumpOnMatch := true, jumpOffset := -1 },
    { name := "OneTimeUse", kind := .listNodes, field := some "OneTimeUse",
      jumpOnMatch := true, jumpOffset := -2 },
    { name := "ProxyRestriction", kind := .listNodes, field := some "ProxyRestriction",
      jumpOnMatch := true, jumpOffset := -3 },
    { name := "NotBefore", kind := .attribute, field := some "NotBefore" },
    { name := "NotOnOrAfter", kind := .attribute, field := some "NotOnOrAfter" }]
  jump_inside := by decide
  miss_ahead := by decide

def conditionsClass : LassoNodeClass where
  name := "LassoSaml2Conditions"
  chain := [{ nodeName := "Conditions", ns := some saml2AssertionHref,
              snippets := some conditionsSnippets }]
  chain_base := by decide

def conditionAbstractSnippets : SnippetTable where
  snippets := []
  jump_inside := by decide
  miss_ahead := by decide

/-- The `node_data` that the classes of single conditions inherit. -/
def conditionAbstractData : NodeClassData :=
  { nodeName := "Condition", ns := some saml2AssertionHref,
    snippets := some conditionAbstractSnippets }

def conditionAbstractClass : LassoNodeClass where
  name := "LassoSaml2ConditionAbstract"
  chain := [conditionAbstractData]
  chain_base := by decide

def audienceRestrictionSnippets : SnippetTable where
  snippets := [{ name := "Audience", kind := .content, field := some "Audience" }]
  jump_inside := by decide
  miss_ahead := by decide

def audienceRestrictionClass : LassoNodeClass where
  name := "LassoSaml2AudienceRestriction"
  chain := [{ nodeName := "AudienceRestriction", ns := some saml2AssertionHref,
              snippets := some audienceRestrictionSnippets }, conditionAbstractData]
  chain_base := by decide

/-- A registry with the classes of an assertion and its conditions. The elements that have a class
by the default rule are not mapped to another one. -/
structure AssertionRegistry extends Registry where
  types_assertion : types "LassoSaml2Assertion" = some assertionClass
  types_conditions : types "LassoSaml2Conditions" = some conditionsClass
  types_audienceRestriction :
    types "LassoSaml2AudienceRestriction" = some audienceRestrictionClass
  mapping_conditions : mapping saml2AssertionHref "Conditions" = none
  mapping_audienceRestriction : mapping saml2AssertionHref "AudienceRestriction" = none

/-- The registry with just these classes, and the one mapping among them. -/
def assertionRegistry : AssertionRegistry where
  types typename :=
    [assertionClass, conditionsClass, conditionAbstractClass, audienceRestrictionClass,
      miscTextNodeClass].find? (·.name == typename)
  mapping href name :=
    if href == saml2AssertionHref && name == "Condition" then some "LassoSaml2ConditionAbstract"
    else none
  wsfPrefix _ _ := none
  types_name _ _ h := by simpa using List.find?_some h
  types_assertion := rfl
  types_conditions := rfl
  types_audienceRestriction := rfl
  mapping_conditions := rfl
  mapping_audienceRestriction := rfl

end Lasso
