import Mathlib.Init

/-!
# Constant strings

The URIs and codes of `strings.h` and `saml2_strings.h` that the modelled functions compare with or
put into messages.
-/

namespace Lasso

/-! ## Namespaces -/

def soapEnvHref : String := "http://schemas.xmlsoap.org/soap/envelope/"
def xmlSecDSigNs : String := "http://www.w3.org/2000/09/xmldsig#"
def saml2ProtocolHref : String := "urn:oasis:names:tc:SAML:2.0:protocol"
def saml2AssertionHref : String := "urn:oasis:names:tc:SAML:2.0:assertion"
def saml2MetadataHref : String := "urn:oasis:names:tc:SAML:2.0:metadata"
def samlProtocolHref : String := "urn:oasis:names:tc:SAML:1.0:protocol"
def samlAssertionHref : String := "urn:oasis:names:tc:SAML:1.0:assertion"
def lassoHref : String := "http://www.entrouvert.org/namespaces/lasso/0.0"
def xsiHref : String := "http://www.w3.org/2001/XMLSchema-instance"
def libHref : String := "urn:liberty:iff:2003-08"
def ecpHref : String := "urn:oasis:names:tc:SAML:2.0:profiles:SSO:ecp"
def paosHref : String := "urn:liberty:paos:2003-08"

/-! ## Bindings and profiles -/

def saml2MetadataBindingSoap : String := "urn:oasis:names:tc:SAML:2.0:bindings:SOAP"
def saml2MetadataBindingRedirect : String := "urn:oasis:names:tc:SAML:2.0:bindings:HTTP-Redirect"
def saml2MetadataBindingPost : String := "urn:oasis:names:tc:SAML:2.0:bindings:HTTP-POST"
def saml2MetadataBindingArtifact : String := "urn:oasis:names:tc:SAML:2.0:bindings:HTTP-Artifact"
def saml2MetadataBindingPaos : String := "urn:oasis:names:tc:SAML:2.0:bindings:PAOS"
def saml2MetadataBindingUri : String := "urn:oasis:names:tc:SAML:2.0:bindings:URI"
def libProtocolProfileBrwsArt : String := "http://projectliberty.org/profiles/brws-art"
def libProtocolProfileBrwsPost : String := "http://projectliberty.org/profiles/brws-post"
def libProtocolProfileBrwsLecp : String := "http://projectliberty.org/profiles/lecp"
def libProtocolProfileSloSpSoap : String := "http://projectliberty.org/profiles/slo-sp-soap"

/-! ## Status codes -/

def saml2StatusCodeSuccess : String := "urn:oasis:names:tc:SAML:2.0:status:Success"
def saml2StatusCodeRequester : String := "urn:oasis:names:tc:SAML:2.0:status:Requester"
def saml2StatusCodeResponder : String := "urn:oasis:names:tc:SAML:2.0:status:Responder"
def saml2StatusCodeRequestDenied : String := "urn:oasis:names:tc:SAML:2.0:status:RequestDenied"
def saml2StatusCodePartialLogout : String := "urn:oasis:names:tc:SAML:2.0:status:PartialLogout"
def saml2StatusCodeUnknownPrincipal : String :=
  "urn:oasis:names:tc:SAML:2.0:status:UnknownPrincipal"
def saml2StatusCodeNoPassive : String := "urn:oasis:names:tc:SAML:2.0:status:NoPassive"
def privateStatusCodeFailedToRestoreArtifact : String := "FailedToRestoreArtifact"
def samlStatusCodeSuccess : String := "samlp:Success"
def samlStatusCodeResponder : String := "samlp:Responder"
def samlStatusCodeRequestDenied : String := "samlp:RequestDenied"
def libStatusCodeFederationDoesNotExist : String := "lib:FederationDoesNotExist"
def libStatusCodeInvalidSignature : String := "lib:InvalidSignature"
def libStatusCodeUnknownPrincipal : String := "lib:UnknownPrincipal"
def libStatusCodeUnsignedAuthnRequest : String := "lib:UnsignedAuthnRequest"
def libStatusCodeUnsupportedProfile : String := "lib:UnsupportedProfile"

/-! ## Name identifiers and consent -/

def saml2NameIdentifierFormatEntity : String :=
  "urn:oasis:names:tc:SAML:2.0:nameid-format:entity"
def saml2NameIdentifierFormatUnspecified : String :=
  "urn:oasis:names:tc:SAML:1.1:nameid-format:unspecified"
def saml2NameIdentifierFormatPersistent : String :=
  "urn:oasis:names:tc:SAML:2.0:nameid-format:persistent"
def saml2NameIdentifierFormatTransient : String :=
  "urn:oasis:names:tc:SAML:2.0:nameid-format:transient"
def saml2NameIdentifierFormatEncrypted : String :=
  "urn:oasis:names:tc:SAML:2.0:nameid-format:encrypted"
def saml2ConsentObtained : String := "urn:oasis:names:tc:SAML:2.0:consent:obtained"
def saml2ConsentPrior : String := "urn:oasis:names:tc:SAML:2.0:consent:prior"
def saml2ConsentImplicit : String := "urn:oasis:names:tc:SAML:2.0:consent:current-implicit"
def saml2ConsentExplicit : String := "urn:oasis:names:tc:SAML:2.0:consent:current-explicit"
def libNameIdentifierFormatFederated : String := "urn:liberty:iff:nameid:federated"
def libNameidPolicyTypeNone : String := "none"
def libNameidPolicyTypeOneTime : String := "onetime"
def libNameidPolicyTypeFederated : String := "federated"
def libNameidPolicyTypeAny : String := "any"
def libConsentObtained : String := "urn:liberty:consent:obtained"
def libConsentObtainedPrior : String := "urn:liberty:consent:obtained:prior"
def libConsentObtainedCurrentImplicit : String :=
  "urn:liberty:consent:obtained:current:implicit"
def libConsentObtainedCurrentExplicit : String :=
  "urn:liberty:consent:obtained:current:explicit"

end Lasso
