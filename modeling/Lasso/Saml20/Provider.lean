import Lasso.Provider.Basic
import Lasso.Strings

/-!
# Assertion consumer services

How an identity provider finds the endpoint of a service provider for its response.
-/

namespace Lasso.Saml20

/-- `binding_uri_to_identifier` -/
def bindingUriToIdentifier (uri : String) : Option String :=
  if uri = saml2MetadataBindingSoap then some "SOAP"
  else if uri = saml2MetadataBindingRedirect then some "HTTP-Redirect"
  else if uri = saml2MetadataBindingPost then some "HTTP-POST"
  else if uri = saml2MetadataBindingArtifact then some "HTTP-Artifact"
  else if uri = saml2MetadataBindingPaos then some "PAOS"
  else if uri = saml2MetadataBindingUri then some "URI"
  else none

/-- `lasso_saml20_provider_check_assertion_consumer_service_url`; the kind of the endpoint is not
looked at. -/
def checkAssertionConsumerServiceUrl (p : Provider) (url binding : String) : Bool :=
  p.endpoints.any fun e => e.role == .sp && e.url == url && e.binding == binding

/-- An assertion consumer service of a service provider. -/
def isAssertionConsumerService (e : EndpointType) : Bool :=
  e.role == .sp && e.kind == "AssertionConsumerService"

/-- `supported_assertion_consumer_bindings` -/
def supportedAssertionConsumerBindings : List String :=
  [saml2MetadataBindingPost, saml2MetadataBindingArtifact]

/-- `lasso_saml20_provider_get_assertion_consumer_service` -/
def getAssertionConsumerService (p : Provider) (serviceId : Int) : Option EndpointType :=
  p.endpoints.find? fun e => isAssertionConsumerService e &&
    if serviceId = -1 then supportedAssertionConsumerBindings.contains e.binding
    else e.index == serviceId

/-- `lasso_saml20_provider_get_assertion_consumer_service_binding` -/
def getAssertionConsumerServiceBinding (p : Provider) (serviceId : Int) : Option String :=
  (getAssertionConsumerService p serviceId).bind (bindingUriToIdentifier ·.binding)

/-- `lasso_saml20_provider_get_assertion_consumer_service_url` -/
def getAssertionConsumerServiceUrl (p : Provider) (serviceId : Int) : Option String :=
  (getAssertionConsumerService p serviceId).map (·.url)

/-- `lasso_saml20_provider_get_assertion_consumer_service_url_by_binding` -/
def getAssertionConsumerServiceUrlByBinding (p : Provider) (binding : String) : Option String :=
  (p.endpoints.find? fun e => isAssertionConsumerService e && e.binding == binding).map (·.url)

/-- `lasso_saml20_provider_get_assertion_consumer_service_binding_by_url` -/
def getAssertionConsumerServiceBindingByUrl (p : Provider) (url : String) : Option String :=
  (p.endpoints.find? fun e => isAssertionConsumerService e && e.url == url).map (·.binding)

/-- `want_authn_request_signed` -/
def wantAuthnRequestSigned (p : Provider) : Bool :=
  p.getMetadataOneForRole .idp "WantAuthnRequestsSigned" == some "true"

/-- `authn_request_signed` -/
def authnRequestSigned (p : Provider) : Bool :=
  p.getMetadataOneForRole .sp "AuthnRequestsSigned" == some "true"

end Lasso.Saml20
