import Lasso.Login

/-!
# ID-FF 1.2 artifacts at the identity provider

`processRequestMsg` reads the request for the assertion behind an artifact and keeps a copy of the
message. `buildResponseMsg` verifies that copy with the keys of the provider which the response is
for, and puts the stored status, assertion or message into the response if the verdict is good.
-/

namespace Lasso.IdFf

/-- `LASSO_SAMLP_REQUEST_ABSTRACT`, for the classes of which the object is an instance. -/
def samlpRequestAbstract : LassoNode → Option SamlpRequestAbstract
  | .samlpRequest r => some r.toSamlpRequestAbstract
  | .libAuthnRequest r => some r.toSamlpRequestAbstract
  | .libLogoutRequest r => some r.toSamlpRequestAbstract
  | .samlpRequestAbstract r => some r
  | _ => none

/-- `LASSO_SAMLP_STATUS` -/
def samlpStatus : LassoNode → Option Status
  | .samlpStatus s => some s
  | _ => none

/-- Append an assertion of the session to those of a response. -/
def addAssertion (response : SamlpResponse) : LassoNode → SamlpResponse
  | .samlAssertion a => { response with assertion := response.assertion ++ [a] }
  | .saml2Assertion a =>
    { response with otherAssertion := response.otherAssertion ++ [.saml2Assertion a] }
  | _ => { response with otherAssertion := response.otherAssertion ++ [.other] }

namespace Login

/-- `lasso_login_process_request_msg`. From an object of another class than `LassoSamlpRequest` the
source reads what lies in the place of the artifact. -/
def processRequestMsg (cx : Context) (login : Login) (requestMsg : Bytes) : Rc × Login :=
  -- rebuild samlp:Request with request_msg
  match cx.newFromSoap requestMsg with
  | none => (.profile .invalidMsg, { login with profile := { login.profile with request := none } })
  | some request =>
    let assertionArtifact := match request with
      | .samlpRequest r => r.assertionArtifact
      | _ => none
    (.ok, { login with
      profile := { login.profile with request := some request, artifact := assertionArtifact }
      assertionArtifact
      soapRequestMsg := some requestMsg })

/-- The response to a request, before its status is known. -/
def newResponse (request : LassoNode) : SamlpResponse :=
  let abstract := samlpRequestAbstract request
  { inResponseTo := abstract.bind (·.requestId)
    -- a SAML 1.0 request must have a SAML 1.0 response
    minorVersion := if abstract.any fun r => r.majorVersion = 1 ∧ r.minorVersion = 0 then 0 else 1
    status := some { statusCode := some { value := some samlStatusCodeRequestDenied } } }

/-- The verdict on the copy of the request, for the remote provider. -/
def verifyRequest (cx : Context) (login : Login) : Rc :=
  match login.profile.remoteProvider with
  | none => .param .badTypeOrNullObj
  | some remoteProvider =>
    remoteProvider.verifySignature cx.toEnv login.soapRequestMsg (some "RequestID") .soap

/-- Put what is stored for a provider into the response: the status or the assertion of the
session, else the stored message. -/
def storedContent (cx : Context) (profile : Profile) (session : Session) (providerId : String)
    (response : SamlpResponse) : Profile :=
  match session.getStatus providerId with
  | some status =>
    { profile with
      response := some (.samlpResponse { response with status := samlpStatus status })
      session := some (session.removeStatus (some providerId)).2 }
  | none =>
    match session.getAssertion providerId with
    | some assertion =>
      Profile.setResponseStatus { profile with
        response := some (.samlpResponse (addAssertion response assertion))
        session := some (session.removeStatus (some providerId)).2 } samlStatusCodeSuccess
    | none =>
      match profile.artifactMessage with
      | some message =>
        Profile.setResponseStatus { profile with
          response := some (.samlpResponse { response with
            otherAssertion := response.otherAssertion ++
              [.miscTextNode ⟨cx.parseMemory message⟩] }) } samlStatusCodeSuccess
      | none => profile

/-- The response for a provider: it is denied if there is no session or no good verdict. -/
def answerRequest (cx : Context) (login : Login) (providerId : String) (response : SamlpResponse) :
    Profile :=
  match login.profile.session with
  | none => login.profile.setResponseStatus samlStatusCodeRequestDenied
  | some session =>
    if verifyRequest cx login ≠ .ok then
      login.profile.setResponseStatus samlStatusCodeRequestDenied
    else storedContent cx login.profile session providerId response

/-- The login once the response is known; the copy of the request is used once. -/
def prepareResponse (cx : Context) (login : Login) (request : LassoNode) :
    Option String → Login
  | some providerId =>
    let login := { login with
      profile := { login.profile with
        response := some (.samlpResponse (newResponse request))
        remoteProviderId := some providerId } }
    { login with
      profile := answerRequest cx login providerId (newResponse request)
      soapRequestMsg := none }
  | none =>
    { login with
      profile := Profile.setResponseStatus { login.profile with
        response := some (.samlpResponse (newResponse request)) } samlStatusCodeRequestDenied }

/-- The signature on the response: `lasso_server_set_signature_for_provider_by_name` -/
def setSignature (cx : Context) (profile : Profile) : Rc :=
  match profile.server with
  | none => .param .badTypeOrNullObj
  | some server => cx.loadSignatureContext server profile.remoteProviderId

/-- `lasso_login_build_response_msg`. Without a request the source does not return. -/
def buildResponseMsg (cx : Context) (login : Login) (remoteProviderId : Option String) :
    Rc × Login :=
  match login.profile.request with
  | none => (.undefined, login)
  | some request =>
    let login := prepareResponse cx login request remoteProviderId
    (setSignature cx login.profile, login)

/-! ## What the calls leave in the login -/

section

variable {cx : Context} {login : Login}

theorem processRequestMsg_outcome (cx : Context) (login : Login) (requestMsg : Bytes) :
    (processRequestMsg cx login requestMsg).2.profile.server = login.profile.server ∧
      (processRequestMsg cx login requestMsg).2.profile.request = cx.newFromSoap requestMsg ∧
      ((processRequestMsg cx login requestMsg).2.profile.request.isSome →
        (processRequestMsg cx login requestMsg).2.soapRequestMsg = some requestMsg) := by
  unfold processRequestMsg
  split
  · rename_i hread
    exact ⟨rfl, hread.symm, fun h => by simp at h⟩
  · rename_i request hread
    exact ⟨rfl, hread.symm, fun _ => rfl⟩

theorem storedContent_eq (cx : Context) (profile : Profile) (session : Session)
    (providerId : String) (response : SamlpResponse) :
    ∃ response' session', storedContent cx profile session providerId response =
      { profile with response := response', session := session' } := by
  unfold storedContent
  split
  · exact ⟨_, _, rfl⟩
  · split
    · rename_i assertion _
      obtain ⟨response', hresponse, -⟩ := Profile.setResponseStatus_eq { profile with
        response := some (.samlpResponse (addAssertion response assertion))
        session := some (session.removeStatus (some providerId)).2 } samlStatusCodeSuccess
      exact ⟨response', _, hresponse⟩
    · split
      · rename_i message _
        obtain ⟨response', hresponse, -⟩ := Profile.setResponseStatus_eq { profile with
          response := some (.samlpResponse { response with
            otherAssertion := response.otherAssertion ++
              [.miscTextNode ⟨cx.parseMemory message⟩] }) } samlStatusCodeSuccess
        exact ⟨response', profile.session, hresponse⟩
      · exact ⟨profile.response, profile.session, rfl⟩

theorem answerRequest_eq (cx : Context) (login : Login) (providerId : String)
    (response : SamlpResponse) :
    ∃ response' session', answerRequest cx login providerId response =
      { login.profile with response := response', session := session' } := by
  have hdenied : ∃ response' session',
      login.profile.setResponseStatus samlStatusCodeRequestDenied =
        { login.profile with response := response', session := session' } := by
    obtain ⟨response', hresponse, -⟩ :=
      login.profile.setResponseStatus_eq samlStatusCodeRequestDenied
    exact ⟨response', login.profile.session, hresponse⟩
  unfold answerRequest
  split
  · exact hdenied
  · split_ifs
    · exact hdenied
    · exact storedContent_eq ..

/-- Something is put into the response only on a good verdict. -/
theorem answerRequest_carriesContent {providerId : String} {response : SamlpResponse}
    (hempty : login.profile.carriesContent = false)
    (h : (answerRequest cx login providerId response).carriesContent = true) :
    verifyRequest cx login = .ok := by
  unfold answerRequest at h
  split at h
  · rw [Profile.carriesContent_setResponseStatus, hempty] at h
    cases h
  · split_ifs at h with hverdict
    · rw [Profile.carriesContent_setResponseStatus, hempty] at h
      cases h
    · exact not_not.mp hverdict

/-- A build keeps the request, and the copy of the message at most until it has been verified. -/
structure BuildKeeps (before after : Login) : Prop where
  server : after.profile.server = before.profile.server
  request : after.profile.request = before.profile.request
  soapRequestMsg : after.soapRequestMsg = before.soapRequestMsg ∨ after.soapRequestMsg = none

theorem prepareResponse_keeps (cx : Context) (login : Login) (request : LassoNode)
    (remoteProviderId : Option String) :
    BuildKeeps login (prepareResponse cx login request remoteProviderId) := by
  cases remoteProviderId with
  | none =>
    obtain ⟨response, hresponse, -⟩ := Profile.setResponseStatus_eq { login.profile with
      response := some (.samlpResponse (newResponse request)) } samlStatusCodeRequestDenied
    rw [prepareResponse, hresponse]
    exact ⟨rfl, rfl, .inl rfl⟩
  | some providerId =>
    obtain ⟨response, session, hanswer⟩ := answerRequest_eq cx { login with
      profile := { login.profile with
        response := some (.samlpResponse (newResponse request))
        remoteProviderId := some providerId } } providerId (newResponse request)
    simp only [prepareResponse, hanswer]
    exact ⟨rfl, rfl, .inr rfl⟩

theorem buildResponseMsg_keeps (cx : Context) (login : Login) (remoteProviderId : Option String) :
    BuildKeeps login (buildResponseMsg cx login remoteProviderId).2 := by
  unfold buildResponseMsg
  split
  · exact ⟨rfl, rfl, .inl rfl⟩
  · exact prepareResponse_keeps ..

/-- What is stored leaves the login only for a provider that has verified the copy. -/
theorem buildResponseMsg_carriesContent {remoteProviderId : Option String}
    (hrc : (buildResponseMsg cx login remoteProviderId).1 = .ok)
    (h : (buildResponseMsg cx login remoteProviderId).2.profile.carriesContent = true) :
    login.profile.request.isSome ∧
      ∃ p ∈ login.profile.server.bind (·.getProvider remoteProviderId),
        p.verifySignature cx.toEnv login.soapRequestMsg (some "RequestID") .soap = .ok := by
  unfold buildResponseMsg at hrc h
  split at h
  · rename_i hrequest
    simp [hrequest] at hrc
  · rename_i request hrequest
    refine ⟨by simp [hrequest], ?_⟩
    cases remoteProviderId with
    | none =>
      simp only [prepareResponse, Profile.carriesContent_setResponseStatus] at h
      cases h
    | some providerId =>
      have hverdict := answerRequest_carriesContent rfl h
      unfold verifyRequest at hverdict
      split at hverdict
      · cases hverdict
      · rename_i remoteProvider hknown
        exact ⟨remoteProvider, hknown, hverdict⟩

end

end Login

end Lasso.IdFf
