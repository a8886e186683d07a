import Mathlib.Init

/-!
# Return codes

The `lasso_error_t` codes of `errors.h`, grouped by the family in their name
(`LASSO_DS_ERROR_INVALID_SIGNATURE` is `.ds .invalidSignature`). Only the codes that the modelled
functions produce or test are listed; the numbers behind them are pairwise distinct and no
modelled function compares them otherwise than for equality, so they are left out.
-/

namespace Lasso

/-- `LASSO_DS_ERROR_*` -/
inductive DsError where
  | signatureNotFound
  | invalidSignature
  | publicKeyLoadFailed
  | signatureVerificationFailed
  | caCertChainLoadFailed
  | invalidSigalg
  | tooMuchReferences
  | invalidReferenceForSaml
  | decryptionFailed
  | decryptionFailedMissingPrivateKey
  | encryptionFailed
deriving DecidableEq

/-- `LASSO_SERVER_ERROR_*` -/
inductive ServerError where
  | providerNotFound
  | noProviderLoaded
  | invalidXml
  | addProviderFailed
  | addProviderProtocolMismatch
deriving DecidableEq

/-- `LASSO_LOGOUT_ERROR_*` -/
inductive LogoutError where
  | unsupportedProfile
  | federationNotFound
  | unknownPrincipal
  | partialLogout
  | requestDenied
deriving DecidableEq

/-- `LASSO_PROFILE_ERROR_*` -/
inductive ProfileError where
  | invalidQuery
  | missingRequest
  | invalidProtocolprofile
  | invalidMsg
  | invalidSoapMsg
  | unsupportedProfile
  | identityNotFound
  | federationNotFound
  | nameIdentifierNotFound
  | buildingQueryFailed
  | buildingRequestFailed
  | buildingMessageFailed
  | buildingResponseFailed
  | sessionNotFound
  | missingResponse
  | missingStatusCode
  | missingAssertion
  | missingNameIdentifier
  | missingEncryptionPrivateKey
  | missingIssuer
  | invalidIssuer
  | missingServer
  | missingSubject
  | unknownProvider
  | cannotVerifySignature
  | invalidRequest
  | statusNotSuccess
  | requestDenied
  | responseDoesNotMatchRequest
  | invalidHttpMethod
  | cannotFindAProvider
  | missingRemoteProviderid
  | unknownProfileUrl
  | missingArtifact
  | invalidArtifact
  | endpointIndexNotFound
  | invalidResponse
  | missingResourceOffering
deriving DecidableEq

/-- `LASSO_PARAM_ERROR_*` -/
inductive ParamError where
  | badTypeOrNullObj
  | invalidValue
  | nonInitializedObject
deriving DecidableEq

/-- `LASSO_LOGIN_ERROR_*` -/
inductive LoginError where
  | federationNotFound
  | consentNotObtained
  | invalidNameidpolicy
  | requestDenied
  | invalidSignature
  | unsignedAuthnRequest
  | statusNotSuccess
  | unknownPrincipal
  | noDefaultEndpoint
  | assertionReplay
  | assertionDoesNotMatchRequestId
deriving DecidableEq

/-- `LASSO_NAME_IDENTIFIER_MAPPING_ERROR_*` -/
inductive NameIdentifierMappingError where
  | missingTargetNamespace
  | forbiddenCallOnThisSide
  | missingTargetIdentifier
deriving DecidableEq

/-- `LASSO_XML_ERROR_*` -/
inductive XmlError where
  | nodeNotFound
  | invalidFile
  | objectConstructionFailed
deriving DecidableEq

/-- `LASSO_SOAP_ERROR_*` -/
inductive SoapError where
  | missingEnvelope
  | missingHeader
  | missingBody
deriving DecidableEq

/-- `LASSO_PAOS_ERROR_*` -/
inductive PaosError where
  | missingRequest
  | missingResponseConsumerUrl
deriving DecidableEq

/-- `LASSO_ECP_ERROR_*` -/
inductive EcpError where
  | missingRequest
  | missingResponse
  | missingAuthnRequest
  | missingSamlResponse
  | assertionConsumerUrlMismatch
deriving DecidableEq

/-- `LASSO_REGISTRY_ERROR_*` -/
inductive RegistryError where
  | keyExists
deriving DecidableEq

/-- `LASSO_DST_ERROR_*` -/
inductive DstError where
  | missingServiceData
  | queryFailed
  | queryPartiallyFailed
  | modifyFailed
  | queryNotFound
  | noData
  | malformedQuery
deriving DecidableEq

/-- `LASSO_DATA_SERVICE_ERROR_*` -/
inductive DataServiceError where
  | cannotAddItem
deriving DecidableEq

/-- A return code: `0` is `ok`. -/
inductive Rc where
  | ok
  | undefined
  | unimplemented
  | castFailed
  | missingPublicKey
  | xmlSchemaInvalidFragment
  | param (e : ParamError)
  | ds (e : DsError)
  | server (e : ServerError)
  | logout (e : LogoutError)
  | profile (e : ProfileError)
  | login (e : LoginError)
  | nameIdentifierMapping (e : NameIdentifierMappingError)
  | xml (e : XmlError)
  | soap (e : SoapError)
  | paos (e : PaosError)
  | ecp (e : EcpError)
  | registry (e : RegistryError)
  | dst (e : DstError)
  | dataService (e : DataServiceError)
deriving DecidableEq

/-- A code that reports an error. -/
abbrev ErrorRc := { rc : Rc // rc ≠ .ok }

end Lasso
