import Lasso.Messages.Saml2

/-!
# ID-FF 1.2 messages

The objects of SAML 1.1 and Liberty ID-FF 1.2. A Liberty subclass is its SAML class with a flag.
-/

namespace Lasso

/-- `LassoSamlNameIdentifier` -/
structure SamlNameIdentifier where
  nameQualifier : Option String := none
  format : Option String := none
  content : Option String := none
deriving DecidableEq

/-- `lasso_saml_name_identifier_equals` -/
def SamlNameIdentifier.equals (a b : SamlNameIdentifier) : Bool :=
  a.nameQualifier == b.nameQualifier && a.format == b.format && a.content == b.content

/-- `LassoSamlSubject` and `LassoLibSubject`, which adds `idpProvidedNameIdentifier`. -/
structure SamlSubject where
  nameIdentifier : Option SamlNameIdentifier := none
  encryptedNameIdentifier : Option Saml2EncryptedElement := none
  isLibSubject : Bool := false
  idpProvidedNameIdentifier : Option SamlNameIdentifier := none
deriving DecidableEq

/-- `LassoSamlSubjectStatementAbstract` and its subclasses; `sessionIndex` belongs to
`LassoLibAuthenticationStatement`. -/
structure SamlSubjectStatement where
  subject : Option SamlSubject := none
  isLibAuthenticationStatement : Bool := false
  sessionIndex : Option String := none
deriving DecidableEq

/-- The NameIdentifier of a statement's subject. -/
def SamlSubjectStatement.nameIdentifier (s : SamlSubjectStatement) : Option SamlNameIdentifier :=
  s.subject.bind (·.nameIdentifier)

/-- `LassoSamlAssertion` and `LassoLibAssertion`, which adds `inResponseTo`. The parser reads
`issuer` from the attribute of that name. -/
structure SamlAssertion where
  assertionId : Option String := none
  issuer : Option String := none
  isLibAssertion : Bool := false
  inResponseTo : Option String := none
  subjectStatement : Option SamlSubjectStatement := none
  authenticationStatement : Option SamlSubjectStatement := none
  attributeStatement : Option SamlSubjectStatement := none
  /-- the XML of the SAML assertion in the Advice -/
  adviceXmlnode : Option XmlNode := none
  originalXmlnode : Option XmlNode := none
  issuer_eq : ∀ node ∈ originalXmlnode, node.getProp "Issuer" = issuer := by
    intro _ h; cases h

/-- An item in the list of assertions of a response that is no `SamlAssertion`. -/
inductive OtherAssertion where
  | saml2Assertion (a : Saml2Assertion)
  | miscTextNode (n : MiscTextNode)
  | other

/-- `LassoSamlpResponse` and `LassoLibAuthnResponse`, which adds `providerId` and `relayState`. -/
structure SamlpResponse where
  isLibAuthnResponse : Bool := false
  providerId : Option String := none
  relayState : Option String := none
  inResponseTo : Option String := none
  minorVersion : Int := 0
  status : Option Status := none
  assertion : List SamlAssertion := []
  otherAssertion : List OtherAssertion := []
  originalXmlnode : Option XmlNode := none

/-- `LassoSamlpRequestAbstract` -/
structure SamlpRequestAbstract where
  requestId : Option String := none
  majorVersion : Int := 0
  minorVersion : Int := 0
deriving DecidableEq

/-- `LassoSamlpRequest` -/
structure SamlpRequest extends SamlpRequestAbstract where
  assertionArtifact : Option String := none
deriving DecidableEq

/-- `LassoLibAuthnRequest` -/
structure LibAuthnRequest extends SamlpRequestAbstract where
  providerId : Option String := none
  nameIdPolicy : Option String := none
  protocolProfile : Option String := none
  consent : Option String := none
  relayState : Option String := none
deriving DecidableEq

/-- `LassoLibLogoutRequest` -/
structure LibLogoutRequest extends SamlpRequestAbstract where
  providerId : Option String := none
  nameIdentifier : Option SamlNameIdentifier := none
  relayState : Option String := none
deriving DecidableEq

/-- `LassoLibStatusResponse` of a logout. -/
structure LibLogoutResponse where
  providerId : Option String := none
  inResponseTo : Option String := none
  relayState : Option String := none
  status : Option Status := none
deriving DecidableEq

/-- An object of the class hierarchy below `LassoNode`. `samlp2RequestAbstract` and
`samlpRequestAbstract` are the requests of further classes. -/
inductive LassoNode where
  | saml2NameId (n : Saml2NameId)
  | saml2Assertion (a : Saml2Assertion)
  | samlp2AuthnRequest (r : Samlp2AuthnRequest)
  | samlp2LogoutRequest (r : Samlp2LogoutRequest)
  | samlp2ArtifactResolve (r : Samlp2ArtifactResolve)
  | samlp2ManageNameIdRequest (r : Samlp2ManageNameIdRequest)
  | samlp2SubjectQuery (r : Samlp2SubjectQuery)
  | samlp2RequestAbstract (r : Samlp2RequestAbstract)
  | samlp2Response (r : Samlp2Response)
  | samlp2LogoutResponse (r : Samlp2StatusResponse)
  | samlp2ManageNameIdResponse (r : Samlp2StatusResponse)
  | samlp2ArtifactResponse (r : Samlp2ArtifactResponse)
  | samlNameIdentifier (n : SamlNameIdentifier)
  | samlAssertion (a : SamlAssertion)
  | samlpRequest (r : SamlpRequest)
  | samlpRequestAbstract (r : SamlpRequestAbstract)
  | samlpResponse (r : SamlpResponse)
  | samlpStatus (s : Status)
  | libAuthnRequest (r : LibAuthnRequest)
  | libLogoutRequest (r : LibLogoutRequest)
  | libLogoutResponse (r : LibLogoutResponse)
  | other

/-- `lasso_match_name_id` -/
def matchNameId : LassoNode → LassoNode → Bool
  | .samlNameIdentifier a, .samlNameIdentifier b => a.equals b
  | .saml2NameId a, .saml2NameId b => a.equals b
  | _, _ => false

end Lasso
