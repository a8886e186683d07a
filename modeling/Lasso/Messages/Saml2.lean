import Lasso.Xml.Node

/-!
# SAML 2.0 messages

The objects that the SAML 2.0 parsers build. An object keeps the fields which the modelled
functions read; `originalXmlnode` is the detached copy of the element that it was parsed from.
-/

namespace Lasso

/-- `LassoSaml2NameID` -/
structure Saml2NameId where
  format : Option String := none
  spProvidedId : Option String := none
  nameQualifier : Option String := none
  spNameQualifier : Option String := none
  content : Option String := none
deriving DecidableEq

/-- `lasso_saml2_name_id_equals` -/
def Saml2NameId.equals (a b : Saml2NameId) : Bool :=
  a.content.isSome && b.content.isSome && a.content == b.content && a.format == b.format &&
    a.spProvidedId == b.spProvidedId && a.nameQualifier == b.nameQualifier &&
    a.spNameQualifier == b.spNameQualifier

/-- `LassoSaml2EncryptedElement`: the encrypted data. -/
structure Saml2EncryptedElement where
  encryptedData : String
deriving DecidableEq

/-- `LassoSaml2SubjectConfirmationData` -/
structure Saml2SubjectConfirmationData where
  inResponseTo : Option String := none
deriving DecidableEq

/-- `LassoSaml2SubjectConfirmation` -/
structure Saml2SubjectConfirmation where
  subjectConfirmationData : Option Saml2SubjectConfirmationData := none
deriving DecidableEq

/-- `LassoSaml2Subject` -/
structure Saml2Subject where
  nameId : Option Saml2NameId := none
  encryptedId : Option Saml2EncryptedElement := none
  subjectConfirmation : Option Saml2SubjectConfirmation := none
deriving DecidableEq

/-- `LassoSaml2AuthnContext` -/
structure Saml2AuthnContext where
  authnContextClassRef : Option String := none
deriving DecidableEq

/-- `LassoSaml2AuthnStatement` -/
structure Saml2AuthnStatement where
  sessionIndex : Option String := none
  authnContext : Option Saml2AuthnContext := none
deriving DecidableEq

/-- `LassoSaml2Assertion` -/
structure Saml2Assertion where
  id : Option String := none
  issuer : Option Saml2NameId := none
  subject : Option Saml2Subject := none
  authnStatement : List Saml2AuthnStatement := []
  originalXmlnode : Option XmlNode := none

namespace Saml2Assertion

/-- The NameID of the subject. -/
def nameId (a : Saml2Assertion) : Option Saml2NameId := a.subject.bind (·.nameId)

/-- `lasso_saml2_assertion_get_subject_confirmation_data`, without creating one. -/
def getSubjectConfirmationData (a : Saml2Assertion) : Option Saml2SubjectConfirmationData :=
  (a.subject.bind (·.subjectConfirmation)).bind (·.subjectConfirmationData)

/-- `lasso_saml2_assertion_get_in_response_to` -/
def getInResponseTo (a : Saml2Assertion) : Option String :=
  a.getSubjectConfirmationData.bind (·.inResponseTo)

end Saml2Assertion

/-- `LassoSamlp2StatusCode` and `LassoSamlpStatusCode`: the value, and for a second-level code that
is present its value. -/
structure StatusCode where
  value : Option String := none
  statusCode : Option (Option String) := none
deriving DecidableEq

/-- `LassoSamlp2Status` and `LassoSamlpStatus` -/
structure Status where
  statusCode : Option StatusCode := none
deriving DecidableEq

/-- The value of the top-level status code. -/
def Status.topLevel (status : Option Status) : Option String :=
  (status.bind (·.statusCode)).bind (·.value)

/-- The value of the second-level status code. -/
def Status.secondLevel (status : Option Status) : Option String :=
  ((status.bind (·.statusCode)).bind (·.statusCode)).join

/-- `LassoSamlp2RequestAbstract` -/
structure Samlp2RequestAbstract where
  id : Option String := none
  issuer : Option Saml2NameId := none
  consent : Option String := none
deriving DecidableEq

/-- `LassoSamlp2NameIDPolicy` -/
structure Samlp2NameIdPolicy where
  format : Option String := none
  allowCreate : Bool := false
deriving DecidableEq

/-- `LassoSamlp2RequestedAuthnContext` -/
structure Samlp2RequestedAuthnContext where
  authnContextClassRef : List String := []
  comparison : Option String := none
deriving DecidableEq

/-- `LassoSamlp2AuthnRequest` -/
structure Samlp2AuthnRequest extends Samlp2RequestAbstract where
  nameIdPolicy : Option Samlp2NameIdPolicy := none
  requestedAuthnContext : Option Samlp2RequestedAuthnContext := none
  forceAuthn : Bool := false
  isPassive : Bool := false
  protocolBinding : Option String := none
  assertionConsumerServiceURL : Option String := none
  assertionConsumerServiceIndex : Int := -1
deriving DecidableEq

/-- `LassoSamlp2LogoutRequest` -/
structure Samlp2LogoutRequest extends Samlp2RequestAbstract where
  nameId : Option Saml2NameId := none
  encryptedId : Option Saml2EncryptedElement := none
  sessionIndex : Option String := none
  otherSessionIndexes : List String := []
deriving DecidableEq

/-- `lasso_samlp2_logout_request_get_session_indexes` -/
def Samlp2LogoutRequest.getSessionIndexes (r : Samlp2LogoutRequest) : List String :=
  r.sessionIndex.toList ++ r.otherSessionIndexes

/-- `lasso_samlp2_logout_request_set_session_indexes` -/
def Samlp2LogoutRequest.setSessionIndexes (r : Samlp2LogoutRequest) :
    List String → Samlp2LogoutRequest
  | [] => { r with sessionIndex := none, otherSessionIndexes := [] }
  | index :: indexes => { r with sessionIndex := some index, otherSessionIndexes := indexes }

/-- `LassoSamlp2ManageNameIDRequest`; `terminate` says that a Terminate element is present. -/
structure Samlp2ManageNameIdRequest extends Samlp2RequestAbstract where
  nameId : Option Saml2NameId := none
  encryptedId : Option Saml2EncryptedElement := none
  newId : Option String := none
  newEncryptedId : Option Saml2EncryptedElement := none
  terminate : Bool := false
deriving DecidableEq

/-- `LassoSamlp2ArtifactResolve` -/
structure Samlp2ArtifactResolve extends Samlp2RequestAbstract where
  artifact : Option String := none
deriving DecidableEq

/-- `LassoSamlp2SubjectQueryAbstract`, of any class below it. -/
structure Samlp2SubjectQuery extends Samlp2RequestAbstract where
  subject : Option Saml2Subject := none
deriving DecidableEq

/-- `LassoSamlp2StatusResponse` -/
structure Samlp2StatusResponse where
  inResponseTo : Option String := none
  issuer : Option Saml2NameId := none
  status : Option Status := none
deriving DecidableEq

/-- `LassoSamlp2Response`. An item of `encryptedAssertion` that is no EncryptedElement is `none`. -/
structure Samlp2Response extends Samlp2StatusResponse where
  assertion : List Saml2Assertion := []
  encryptedAssertion : List (Option Saml2EncryptedElement) := []

/-- `LassoMiscTextNode`, made from an element. -/
structure MiscTextNode where
  xmlContent : Option XmlNode

/-- `LassoSamlp2ArtifactResponse` -/
structure Samlp2ArtifactResponse extends Samlp2StatusResponse where
  any : Option MiscTextNode := none

end Lasso
