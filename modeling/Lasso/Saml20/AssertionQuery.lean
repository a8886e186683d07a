import Lasso.Saml20.ResponseMessage

/-!
# SAML 2.0 assertion queries

The authority reads a query, which always comes over SOAP, validates it, and builds the response that
the caller has put assertions into.
-/

namespace Lasso.Saml20

/-- `lasso_saml20_profile_process_soap_request` -/
def processSoapRequest (cx : Context) (profile : Profile) (requestMsg : Bytes) : Rc × Profile :=
  let profile := { profile with
    signatureStatus := .ok
    request := cx.newFromSoap requestMsg
    httpRequestMethod := .soap }
  match requestAbstract profile with
  | none => (.profile .invalidMsg, profile)
  | some request =>
    match request.issuer with
    | none => (.profile .missingIssuer, profile)
    | some issuer =>
      let profile := { profile with remoteProviderId := issuer.content }
      match getProvider profile with
      | .error rc => (rc, profile)
      | .ok remoteProvider =>
        let profile := { profile with
          signatureStatus :=
            remoteProvider.verifySignature cx.toEnv (some requestMsg) (some "ID") .soap }
        (checkSignatureStatus profile, profile)

namespace AssertionQuery

/-- Decrypt the name identifier in the Subject of the stored query. -/
def decryptQuery (cx : Context) (profile : Profile) (query : Samlp2SubjectQuery)
    (subject : Saml2Subject) : Rc × Profile :=
  let (rc, profile, nameId, encryptedId) :=
    processNameIdentifierDecryption cx profile subject.nameId subject.encryptedId
  (rc, { profile with
    request := some (.samlp2SubjectQuery { query with
      subject := some { subject with nameId, encryptedId } }) })

/-- `lasso_assertion_query_process_request_msg` -/
def processRequestMsg (cx : Context) (profile : Profile) (requestMsg : Bytes) : Rc × Profile :=
  let (rc, profile) := processSoapRequest cx profile requestMsg
  if rc ≠ .ok then (rc, profile)
  else
    match profile.request with
    | some (.samlp2SubjectQuery query) =>
      match query.subject with
      | none => (.profile .missingSubject, profile)
      | some subject => decryptQuery cx profile query subject
    | _ => (.profile .invalidMsg, profile)

/-- The Response of a status. -/
def newResponse (statusResponse : Samlp2StatusResponse) : LassoNode :=
  .samlp2Response { toSamlp2StatusResponse := statusResponse }

/-- `lasso_assertion_query_validate_request` -/
def validateRequest (cx : Context) (profile : Profile) : Rc × Profile :=
  match Saml20.validateRequest cx profile false newResponse with
  | (.error rc, profile) => (rc, profile)
  | (.ok _, profile) => (.ok, profile)

/-- `lasso_assertion_query_build_response_msg`. A response that is made up here is not written into
a message. -/
def buildResponseMsg (cx : MessageContext) (profile : Profile) : Rc × ProfileObject :=
  if profile.response.isNone then
    let (rc, profile) := initResponse cx.toContext profile newResponse {} saml2StatusCodeResponder
      (some saml2StatusCodeRequestDenied)
    (rc, { toProfile := profile })
  else buildResponse cx profile none profile.httpRequestMethod

end AssertionQuery

end Lasso.Saml20
