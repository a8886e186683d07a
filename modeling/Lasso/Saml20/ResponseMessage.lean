import Lasso.Saml20.ArtifactCodec
import Lasso.Saml20.NameIdManagement

/-!
# SAML 2.0 response messages

The response of a profile is written into `msg_url` and `msg_body`, as the binding has it. A response
that no validation has prepared is made up for it, and denies the request.

## Main definitions

* `responseMessage`, `buildResponse` — `lasso_saml20_profile_build_response_msg`.
* `Logout.sendResponse`, `NameIdManagement.buildResponseMsg` — the builders of two profiles.

## Main results

* `sent_of_responseMessage` — a code of zero comes with a message.
-/

namespace Lasso

/-- What writes a message. -/
structure MessageContext extends ManageContext where
  /-- `lasso_node_export_to_base64` -/
  exportToBase64 : LassoNode → Option String
  /-- `lasso_node_export_to_soap` -/
  exportToSoap : LassoNode → Option String
  /-- `lasso_node_export_to_xml` -/
  exportToXml : LassoNode → Option Bytes
  /-- `lasso_saml20_profile_export_to_query`, given the relay state -/
  exportToQuery : LassoNode → Option String → Option String
  /-- `lasso_saml20_profile_build_artifact` with a new random sequence -/
  newArtifact : Provider → Option String

/-- `lasso_concat_url_query` -/
def concatUrlQuery (url query : String) : String :=
  if '?' ∈ url.toList then url ++ "&" ++ query else url ++ "?" ++ query

/-- What a builder leaves in a profile. The artifact stays there with its message. -/
structure Message where
  msgUrl : Option String := none
  msgBody : Option String := none
  artifact : Option (Option String × Option Bytes) := none

/-- A message in its profile. -/
def Message.store (message : Message) (profile : Profile) : ProfileObject where
  toProfile := { profile with
    artifact := message.artifact.elim profile.artifact (·.1)
    artifactMessage := message.artifact.elim profile.artifactMessage (·.2) }
  msgUrl := message.msgUrl
  msgBody := message.msgBody

/-- There is a message to send. -/
def Message.Sent (message : Message) : Prop :=
  message.msgUrl.isSome ∨ message.msgBody.isSome

namespace Saml20

/-! ## Writing a response -/

variable (cx : MessageContext)

/-- `lasso_profile_saml20_build_artifact_msg` for a response; the URL gets the artifact, or the
body. -/
def buildArtifactMsg (server : Option Server) (msgRelayState : Option String) (response : LassoNode)
    (url : String) (get : Bool) : Rc × Message :=
  let artifact := server.bind fun server => cx.newArtifact server.provider
  let kept := some (artifact, cx.exportToXml response)
  match artifact with
  | none => (.profile .buildingQueryFailed, { artifact := kept })
  | some artifact =>
    if get then
      let query := urlAddParameters none ((fieldArtifact.toList, artifact.toList) ::
        msgRelayState.toList.map fun relayState => (fieldRelaystate.toList, relayState.toList))
      (.ok, {
        msgUrl := some (concatUrlQuery url (String.ofList (query.getD [])))
        artifact := kept })
    else (.ok, { msgUrl := some url, msgBody := some artifact, artifact := kept })

/-- The builder for a method, given the URL. -/
def messageByMethod (server : Option Server) (msgRelayState : Option String)
    (response : LassoNode) : HttpMethod → Option String → Rc × Message
  | .post, some url =>
    let msgBody := cx.exportToBase64 response
    (if msgBody.isNone then .profile .buildingMessageFailed else .ok,
      { msgUrl := some url, msgBody })
  | .redirect, some url =>
    match cx.exportToQuery response msgRelayState with
    | none => (.profile .buildingQueryFailed, {})
    | some query => (.ok, { msgUrl := some (concatUrlQuery url query) })
  | .artifactGet, some url => buildArtifactMsg cx server msgRelayState response url true
  | .artifactPost, some url => buildArtifactMsg cx server msgRelayState response url false
  | .soap, _ =>
    let msgBody := cx.exportToSoap response
    (if msgBody.isNone then .profile .buildingMessageFailed else .ok, { msgBody })
  | .post, none | .redirect, none | .artifactGet, none | .artifactPost, none | .paos, none =>
    (.profile .unknownProfileUrl, {})
  | _, _ => (.profile .unsupportedProfile, {})

/-- The code and the message of `lasso_saml20_profile_build_response_msg`, without a given URL. -/
def responseMessage (profile : Profile) (service : Option String) (method : HttpMethod) :
    Rc × Message :=
  match getProvider profile with
  | .error rc => (rc, {})
  | .ok provider =>
    match profile.response.filter (·.isSamlp2StatusResponse) with
    | none => (.profile .missingResponse, {})
    | some response =>
      -- only asynchronous bindings need an URL, SOAP does not
      let url :=
        if method = .soap then none
        else service.bind (getResponseUrl provider · (httpMethodToBinding method))
      messageByMethod cx profile.server profile.msgRelayState response method url

/-- `lasso_saml20_profile_build_response_msg` -/
def buildResponse (profile : Profile) (service : Option String) (method : HttpMethod) :
    Rc × ProfileObject :=
  let (rc, message) := responseMessage cx profile service method
  (rc, message.store profile)

variable {cx}

theorem sent_buildArtifactMsg {server : Option Server} {msgRelayState : Option String}
    {response : LassoNode} {url : String} {get : Bool}
    (h : (buildArtifactMsg cx server msgRelayState response url get).1 = .ok) :
    (buildArtifactMsg cx server msgRelayState response url get).2.Sent := by
  unfold buildArtifactMsg at h ⊢
  dsimp only at h ⊢
  split at h
  · cases h
  · split_ifs
    · exact .inl rfl
    · exact .inl rfl

theorem sent_messageByMethod {server : Option Server} {msgRelayState : Option String}
    {response : LassoNode} {method : HttpMethod} {url : Option String}
    (h : (messageByMethod cx server msgRelayState response method url).1 = .ok) :
    (messageByMethod cx server msgRelayState response method url).2.Sent := by
  have hbody {msgUrl msgBody : Option String}
      (h : (if msgBody.isNone then Rc.profile .buildingMessageFailed else .ok) = .ok) :
      Message.Sent { msgUrl, msgBody } := by
    cases msgBody with
    | none => cases h
    | some body => exact .inr rfl
  unfold messageByMethod at h ⊢
  split at h
  · exact .inl rfl
  · split at h
    · cases h
    · exact .inl rfl
  · exact sent_buildArtifactMsg h
  · exact sent_buildArtifactMsg h
  · exact hbody h
  all_goals cases h

/-- A code of zero comes with a message. -/
theorem sent_of_responseMessage {profile : Profile} {service : Option String} {method : HttpMethod}
    (h : (responseMessage cx profile service method).1 = .ok) :
    (responseMessage cx profile service method).2.Sent := by
  unfold responseMessage at h ⊢
  split at h
  · rename_i hprovider
    exact absurd h (getProvider_ne_ok hprovider).1
  · split at h
    · cases h
    · exact sent_messageByMethod h

/-- The builder for a method has what it needs: an URL, unless the message is the body alone, and a
way to write the response. -/
def HasMessage (cx : MessageContext) (server : Option Server) (msgRelayState : Option String)
    (response : LassoNode) (url : Option String) : HttpMethod → Prop
  | .post => url.isSome ∧ (cx.exportToBase64 response).isSome
  | .redirect => url.isSome ∧ (cx.exportToQuery response msgRelayState).isSome
  | .artifactGet | .artifactPost =>
    url.isSome ∧ (server.bind fun server => cx.newArtifact server.provider).isSome
  | .soap => (cx.exportToSoap response).isSome
  | _ => False

theorem messageByMethod_eq_ok {server : Option Server} {msgRelayState : Option String}
    {response : LassoNode} {method : HttpMethod} {url : Option String} :
    (messageByMethod cx server msgRelayState response method url).1 = .ok ↔
      HasMessage cx server msgRelayState response url method := by
  have hbody (msgBody : Option String) :
      (if msgBody.isNone then Rc.profile .buildingMessageFailed else .ok) = .ok ↔
        msgBody.isSome := by
    cases msgBody <;> simp
  have hartifact (u : String) (get : Bool) :
      (buildArtifactMsg cx server msgRelayState response u get).1 = .ok ↔
        (server.bind fun server => cx.newArtifact server.provider).isSome := by
    unfold buildArtifactMsg
    dsimp only
    cases server.bind fun server => cx.newArtifact server.provider with
    | none => simp
    | some artifact => cases get <;> simp
  cases url with
  | none =>
    cases method with
    | soap => simpa [messageByMethod, HasMessage] using hbody (cx.exportToSoap response)
    | _ => simp [messageByMethod, HasMessage]
  | some u =>
    cases method with
    | post => simpa [messageByMethod, HasMessage] using hbody (cx.exportToBase64 response)
    | redirect =>
      cases hquery : cx.exportToQuery response msgRelayState <;>
        simp [messageByMethod, HasMessage, hquery]
    | artifactGet => simpa [messageByMethod, HasMessage] using hartifact u true
    | artifactPost => simpa [messageByMethod, HasMessage] using hartifact u false
    | soap => simpa [messageByMethod, HasMessage] using hbody (cx.exportToSoap response)
    | _ => simp [messageByMethod, HasMessage]

/-! ## The builders of the profiles -/

/-- The response to a request that no validation has answered. -/
def denyRequest (cx : Context) (profile : Profile) (toNode : Samlp2StatusResponse → LassoNode) :
    Rc × Profile :=
  if checkSignatureStatus profile ≠ .ok then
    initResponse cx profile toNode {} saml2StatusCodeRequester (some libStatusCodeInvalidSignature)
  else
    initResponse cx profile toNode {} saml2StatusCodeResponder (some saml2StatusCodeRequestDenied)

/-- `lasso_name_id_management_build_response_msg` -/
def NameIdManagement.buildResponseMsg (cx : MessageContext) (profile : Profile) :
    Rc × ProfileObject :=
  let (rc, profile) : Rc × Profile :=
    if profile.response.any (·.isSamlp2StatusResponse) then (.ok, profile)
    else denyRequest cx.toContext profile .samlp2ManageNameIdResponse
  if rc ≠ .ok then (rc, { toProfile := profile })
  -- use the same binding as for the request
  else buildResponse cx profile (some "ManageNameIDService") profile.httpRequestMethod

namespace Logout

/-- The first part of `lasso_saml20_logout_build_response_msg`. -/
def prepareResponse (cx : Context) (logout : Logout) : Rc × Logout :=
  let logout := restoreInitialState cx.toEnv logout
  let (rc, profile) : Rc × Profile :=
    if logout.profile.response.any (·.isSamlp2StatusResponse) then
      (setupMessageSignature cx logout.profile, logout.profile)
    else denyRequest cx logout.profile .samlp2LogoutResponse
  (rc, { logout with profile })

/-- `lasso_saml20_logout_build_response_msg` with its message -/
def sendResponse (cx : MessageContext) (logout : Logout) : Rc × ProfileObject :=
  let (rc, logout) := prepareResponse cx.toContext logout
  if rc ≠ .ok then (rc, { toProfile := logout.profile })
  else
    buildResponse cx logout.profile (some "SingleLogoutService") logout.initialHttpRequestMethod

end Logout

/-- The context whose builders are these. -/
def sender (cx : MessageContext) : LogoutContext :=
  { cx.toLogoutContext with
    buildResponse := fun method profile url =>
      profile.response.elim (.profile .missingResponse) fun response =>
        (messageByMethod cx profile.server profile.msgRelayState response method url).1 }

theorem buildResponseMsg_eq (cx : MessageContext) (profile : Profile) (service : String)
    (method : HttpMethod) :
    buildResponseMsg (sender cx) profile service method =
      (responseMessage cx profile (some service) method).1 := by
  unfold buildResponseMsg responseMessage
  cases getProvider profile with
  | error rc => rfl
  | ok provider =>
    cases hresponse : profile.response with
    | none => rfl
    | some response =>
      cases hstatus : response.isSamlp2StatusResponse with
      | false => simp [Option.filter, hstatus]
      | true =>
        simp only [Option.any_some, Option.filter, hstatus, Bool.not_true, Bool.false_eq_true,
          if_false, if_true, Option.bind_some]
        generalize getResponseUrl provider service (httpMethodToBinding method) = url
        cases method <;> cases url <;> simp [messageByMethod, sender, hresponse]

/-- The two descriptions of the builder of a logout agree. -/
theorem Logout.buildResponseMsg_eq_sendResponse (cx : MessageContext) (logout : Logout) :
    Logout.buildResponseMsg (sender cx) logout =
      ((sendResponse cx logout).1, (prepareResponse cx.toContext logout).2) := by
  have hprepared : Logout.buildResponseMsg (sender cx) logout =
      let prepared := prepareResponse cx.toContext logout
      if prepared.1 ≠ .ok then prepared
      else (Saml20.buildResponseMsg (sender cx) prepared.2.profile "SingleLogoutService"
        prepared.2.initialHttpRequestMethod, prepared.2) := by
    have hcx : (sender cx).toContext = cx.toContext := rfl
    unfold Logout.buildResponseMsg prepareResponse denyRequest
    simp only [hcx]
  rw [hprepared]
  unfold sendResponse
  dsimp only
  split_ifs
  · rfl
  · rw [buildResponseMsg_eq]
    rfl

end Saml20

end Lasso
