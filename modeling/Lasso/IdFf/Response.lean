import Lasso.Login

/-!
# ID-FF 1.2 responses at the service provider

A response comes by a POST, with a signature on the message, or as the answer to an artifact, where
the message or its first assertion is signed. `processResponseStatusAndAssertion` is the common end
of both functions.
-/

namespace Lasso.IdFf

/-- The statements of an assertion that name its subject. -/
def statements (a : SamlAssertion) : List SamlSubjectStatement :=
  a.authenticationStatement.toList ++ a.attributeStatement.toList

/-- The name identifier from one of the statements. -/
def statementNameIdentifier (a : SamlAssertion) : Option SamlNameIdentifier :=
  (statements a).findSome? (·.nameIdentifier)

/-- The check of an assertion of a response whose signature is not verified: the code, and the new
signature status. -/
def verifyAssertion (cx : Context) (profile : Profile) (idp : Provider) (a : SamlAssertion) :
    Rc × Rc :=
  if profile.signatureStatus = .ok then (.ok, .ok)
  else
    match a.originalXmlnode with
    | none => (.profile .missingIssuer, profile.signatureStatus)
    | some node =>
      match node.getProp "Issuer" with
      | none => (.profile .missingIssuer, profile.signatureStatus)
      | some assertionIssuer =>
        if some assertionIssuer ≠ profile.remoteProviderId then
          (.profile .invalidIssuer, profile.signatureStatus)
        else
          let status := idp.verifySamlSignature cx.toEnv (.ofRoot node)
          (status, status)

/-- The code for a top-level status other than Success. -/
def statusError (statusValue : String) (secondLevel : Option String) : Rc :=
  responseStatusError samlStatusCodeRequestDenied [samlStatusCodeResponder] statusValue secondLevel

/-- The part of `lasso_login_process_response_status_and_assertion` about the first assertion. -/
def acceptAssertion (cx : Context) (login : Login) (a : SamlAssertion) : Rc × Login :=
  match login.profile.remoteProvider with
  | none => (.server .providerNotFound, login)
  | some idp =>
    -- Validate AuthnRequest RequestID and InResponseTo
    if login.requestId.isSome ∧ ¬ (a.isLibAssertion ∧ a.inResponseTo = login.requestId) then
      (.login .assertionDoesNotMatchRequestId, login)
    else
      let (rc, signatureStatus) := verifyAssertion cx login.profile idp a
      let profile := { login.profile with signatureStatus }
      if rc ≠ .ok then (rc, { login with profile })
      else
        match statementNameIdentifier a with
        | none =>
          (.profile .nameIdentifierNotFound,
            { login with profile := { profile with nameIdentifier := none } })
        | some nameIdentifier =>
          (.ok, { login with profile := { profile with
            nameIdentifier := some (.samlNameIdentifier nameIdentifier) } })

/-- `lasso_login_process_response_status_and_assertion`; both callers have a SAML response in the
profile. -/
def processResponseStatusAndAssertion (cx : Context) (login : Login) : Rc × Login :=
  match login.profile.response with
  | some (.samlpResponse response) =>
    match Status.topLevel response.status with
    | none => (.profile .missingStatusCode, login)
    | some statusValue =>
      if statusValue ≠ samlStatusCodeSuccess then
        (statusError statusValue (Status.secondLevel response.status), login)
      else
        match response.assertion with
        | [] => (.ok, login)
        | a :: _ => acceptAssertion cx login a
  | _ => (.profile .missingResponse, login)

/-- The response that a message is parsed to. -/
def readAuthnResponse (cx : Context) (text : Bytes) : ParsedMessage SamlpResponse :=
  initFromMessageWithFormat cx.toEnv cx.libAuthnResponse { isLibAuthnResponse := true } text
    .unknown

/-- `lasso_login_process_authn_response_msg` -/
def processAuthnResponseMsg (cx : Context) (login : Login) (authnResponseMsg : Bytes) :
    Rc × Login :=
  let m := readAuthnResponse cx authnResponseMsg
  -- clean state
  let profile := { login.profile with
    remoteProviderId := none
    response := some (.samlpResponse m.node) }
  if m.format = .unknown ∨ m.format = .error then
    (.profile .invalidMsg, { login with profile })
  else
    let profile := { profile with remoteProviderId := m.node.providerId }
    match profile.remoteProvider with
    | none => (.server .providerNotFound, { login with profile })
    | some remoteProvider =>
      let profile := { profile with
        msgRelayState := m.node.relayState
        signatureStatus := remoteProvider.verifySignature cx.toEnv (some authnResponseMsg)
          (some "ResponseID") m.format }
      if profile.signatureStatus ≠ .ok then (profile.signatureStatus, { login with profile })
      else processResponseStatusAndAssertion cx { login with profile }

/-- The response refers to another request than the stored one, or to an unknown one. -/
def answersAnotherRequest (request : Option LassoNode) (response : SamlpResponse) : Bool :=
  let requestId := match request with
    | some (.samlpRequest r) => r.requestId
    | _ => none
  (requestId.isNone && response.inResponseTo.isSome) ||
    (request.isSome && response.inResponseTo.isNone) ||
    (requestId.isSome && response.inResponseTo.isSome && requestId != response.inResponseTo)

/-- The signature status of a response to an artifact. -/
def artifactSignatureStatus (cx : Context) (profile : Profile) (response : SamlpResponse) : Rc :=
  match response.originalXmlnode, profile.remoteProviderId with
  | some signedResponse, some _ =>
    match profile.remoteProvider with
    | none => .param .badTypeOrNullObj
    | some idp => idp.verifySamlSignature cx.toEnv (.ofRoot signedResponse)
  | _, _ => .ds .signatureVerificationFailed

/-- `lasso_login_process_response_msg` -/
def processResponseMsg (cx : Context) (login : Login) (responseMsg : Bytes) : Rc × Login :=
  match cx.newFromSoap responseMsg with
  | some (.samlpResponse response) =>
    let profile := { login.profile with response := some (.samlpResponse response) }
    -- Validate RequestID and InResponseTo
    if (profile.request.isSome || cx.strictChecking) &&
        answersAnotherRequest profile.request response then
      (.profile .responseDoesNotMatchRequest, { login with profile })
    else
      processResponseStatusAndAssertion cx { login with profile := { profile with
        signatureStatus := artifactSignatureStatus cx profile response } }
  | _ => (.profile .invalidMsg, { login with profile := { login.profile with response := none } })

end Lasso.IdFf
