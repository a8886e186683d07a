import Lasso.Identity
import Lasso.Provider.Verify
import Lasso.Server
import Lasso.Session
import Lasso.Xml.Message

/-!
# Profiles

The state shared by the profile objects (login, logout): the server, the last messages, what was
learnt from them, and the principal's session and identity. A function on a profile returns its
code together with the new state, since the fields that it has set before an error stay set.
-/

namespace Lasso

/-- `LassoProfileSignatureHint` -/
inductive SignatureHint where
  | maybe
  | force
  | forbid
deriving DecidableEq

/-- `LassoProfileSignatureVerifyHint` -/
inductive SignatureVerifyHint where
  | maybe
  | force
  | ignore
deriving DecidableEq

/-- `LassoHttpMethod` -/
inductive HttpMethod where
  | none
  | any
  | idpInitiated
  | get
  | post
  | redirect
  | soap
  | artifactGet
  | artifactPost
  | paos
deriving DecidableEq

structure Profile where
  server : Option Server := none
  request : Option LassoNode := none
  response : Option LassoNode := none
  nameIdentifier : Option LassoNode := none
  remoteProviderId : Option String := none
  msgRelayState : Option String := none
  identity : Option Identity := none
  session : Option Session := none
  artifact : Option String := none
  artifactMessage : Option Bytes := none
  httpRequestMethod : HttpMethod := .any
  signatureStatus : Rc := .ok
  signatureHint : SignatureHint := .maybe
  signatureVerifyHint : SignatureVerifyHint := .maybe

/-- A `LassoProfile` with its last message. -/
structure ProfileObject extends Profile where
  msgUrl : Option String := none
  msgBody : Option String := none

/-- The environment of the profiles: besides the libraries, the parsers of the message classes,
decryption, and the loading of signing keys. -/
structure Context extends Env where
  /-- `lasso_flag_sign_messages` -/
  signMessages : Bool
  /-- `lasso_node_new_from_xmlNode` -/
  newFromXmlNode : XmlNode → Option LassoNode
  /-- `init_from_xml` of `LassoSamlp2AuthnRequest` -/
  samlp2AuthnRequestInitFromXml : Samlp2AuthnRequest → Option XmlNode → Rc × Samlp2AuthnRequest
  /-- `init_from_xml` of `LassoSamlp2LogoutRequest` -/
  samlp2LogoutRequestInitFromXml : Samlp2LogoutRequest → Option XmlNode → Rc × Samlp2LogoutRequest
  /-- `LassoLibAuthnRequest` -/
  libAuthnRequest : NodeClass LibAuthnRequest
  /-- `LassoLibAuthnResponse` -/
  libAuthnResponse : NodeClass SamlpResponse
  /-- `init_from_xml` of `LassoLibLogoutRequest` -/
  libLogoutRequestInitFromXml : LibLogoutRequest → Option XmlNode → Rc × LibLogoutRequest
  /-- `lasso_node_init_from_query_fields` for `LassoLibLogoutRequest`, which has query snippets -/
  libLogoutRequestInitFromQueryFields : LibLogoutRequest → List Bytes → LibLogoutRequest
  /-- `lasso_saml2_encrypted_element_decrypt` -/
  decrypt : Saml2EncryptedElement → SecKey → Except ErrorRc LassoNode
  /-- `lasso_server_get_signature_context_for_provider_by_name` -/
  loadSignatureContext : Server → Option String → Rc

/-- Every parser, decryption and primitive fails. -/
def Context.refusing : Context where
  toEnv := .refusing
  signMessages := false
  newFromXmlNode _ := none
  samlp2AuthnRequestInitFromXml r _ := (.castFailed, r)
  samlp2LogoutRequestInitFromXml r _ := (.castFailed, r)
  libAuthnRequest := .refusing
  libAuthnResponse := .refusing
  libLogoutRequestInitFromXml r _ := (.castFailed, r)
  libLogoutRequestInitFromQueryFields r _ := r
  decrypt _ _ := .error ⟨.ds .decryptionFailed, by decide⟩
  loadSignatureContext _ _ := .ok

/-- `lasso_node_new_from_soap` -/
def Context.newFromSoap (cx : Context) (soap : Bytes) : Option LassoNode :=
  (cx.parseMemory soap).bind fun root =>
    (root.getSoapContent.bind root.at?).bind cx.newFromXmlNode

namespace Profile

/-- `lasso_server_get_provider` on the server of the profile, for the remote provider. -/
def remoteProvider (profile : Profile) : Option Provider :=
  profile.server.bind fun server => server.getProvider profile.remoteProviderId

/-- `IF_SAML2` -/
def isSaml2 (profile : Profile) : Bool :=
  profile.server.any fun server => server.provider.conformance == .saml20

theorem isSaml2_congr {a b : Profile} (h : a.server = b.server) : a.isSaml2 = b.isSaml2 := by
  rw [isSaml2, isSaml2, h]

/-- `lasso_profile_set_response_status`, of ID-FF; for another response the source does not
return. -/
def setResponseStatus (profile : Profile) (statusCodeValue : String) : Profile :=
  let statusCode : StatusCode :=
    if "samlp:".toList.isPrefixOf statusCodeValue.toList then { value := some statusCodeValue }
    else { value := some samlStatusCodeResponder, statusCode := some (some statusCodeValue) }
  let status : Option Status := some { statusCode := some statusCode }
  match profile.response with
  | some (.samlpResponse r) => { profile with response := some (.samlpResponse { r with status }) }
  | some (.libLogoutResponse r) =>
    { profile with response := some (.libLogoutResponse { r with status }) }
  | _ => profile

/-- Only the response changes, and none is created. -/
theorem setResponseStatus_eq (profile : Profile) (statusCodeValue : String) :
    ∃ response, profile.setResponseStatus statusCodeValue = { profile with response := response } ∧
      (profile.response = none → response = none) := by
  unfold setResponseStatus
  dsimp only
  split
  · rename_i r hresponse
    exact ⟨_, rfl, fun hnone => nomatch hresponse.symm.trans hnone⟩
  · rename_i r hresponse
    exact ⟨_, rfl, fun hnone => nomatch hresponse.symm.trans hnone⟩
  · exact ⟨profile.response, rfl, id⟩

/-- The status of the response. -/
def responseStatus (profile : Profile) : Option Status :=
  match profile.response with
  | some (.samlpResponse r) => r.status
  | some (.libLogoutResponse r) => r.status
  | some (.samlp2Response r) => r.status
  | some (.samlp2LogoutResponse r) => r.status
  | some (.samlp2ManageNameIdResponse r) => r.status
  | some (.samlp2ArtifactResponse r) => r.status
  | _ => none

/-- The response has an assertion or a stored message in it. -/
def carriesContent (profile : Profile) : Bool :=
  match profile.response with
  | some (.samlpResponse r) => !r.assertion.isEmpty || !r.otherAssertion.isEmpty
  | some (.samlp2ArtifactResponse r) => r.any.isSome
  | _ => false

@[simp] theorem carriesContent_setResponseStatus (profile : Profile) (statusCodeValue : String) :
    (profile.setResponseStatus statusCodeValue).carriesContent = profile.carriesContent := by
  unfold setResponseStatus
  dsimp only
  split <;> simp [carriesContent, *]

end Profile

end Lasso
