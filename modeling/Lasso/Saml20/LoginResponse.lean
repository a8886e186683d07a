import Lasso.Saml20.AuthnRequest
import Lasso.Saml20.NameIdManagement
import Lasso.Saml20.Response

/-!
# The responses of a login

A Response reaches the service provider in a form, or inside the answer to an artifact. Both ways
read the status of the Response twice, once for the profile and once for the login.

## Main definitions

* `processAuthnResponseMsg` — a Response in a form.
* `processArtifactResponse`, `processResponseMsg` — the answer to an artifact.

## Main results

* `code_of_posted`, `code_of_resolved` — the codes for a Response that is not a success.
-/

namespace Lasso

/-- `LassoSamlp2ArtifactResponse` as it is received, with the message inside it. -/
structure ReceivedArtifactResponse extends Samlp2StatusResponse where
  any : Option LassoNode := none

/-- What reads the responses of a login. -/
structure LoginContext extends Context where
  /-- `init_from_xml` of `LassoSamlp2Response` -/
  samlp2ResponseInitFromXml : Samlp2Response → Option XmlNode → Rc × Samlp2Response
  /-- `init_from_xml` of `LassoSamlp2ArtifactResponse` -/
  samlp2ArtifactResponseInitFromXml :
    ReceivedArtifactResponse → Option XmlNode → Rc × ReceivedArtifactResponse

/-- `LASSO_IS_SAMLP2_REQUEST_ABSTRACT` -/
def LassoNode.isSamlp2RequestAbstract : LassoNode → Bool
  | .samlp2AuthnRequest _ | .samlp2LogoutRequest _ | .samlp2ArtifactResolve _
  | .samlp2ManageNameIdRequest _ | .samlp2SubjectQuery _ | .samlp2RequestAbstract _ => true
  | _ => false

/-- A message of which another node is looked at. -/
def ParsedMessage.map {α β : Type*} (f : α → β) (m : ParsedMessage α) : ParsedMessage β :=
  { m with node := f m.node }

namespace Saml20

/-! ## Reading a response -/

/-- The Response that a message is parsed to. -/
def readResponse (cx : LoginContext) (text : Bytes) : ParsedMessage Samlp2Response :=
  initFromMessageWithFormat cx.toEnv (saml2NodeClass cx.toEnv cx.samlp2ResponseInitFromXml) {}
    text .unknown

/-- The ArtifactResponse that a message is parsed to. -/
def readArtifactResponse (cx : LoginContext) (text : Bytes) :
    ParsedMessage ReceivedArtifactResponse :=
  initFromMessageWithFormat cx.toEnv
    (saml2NodeClass cx.toEnv cx.samlp2ArtifactResponseInitFromXml) {} text .unknown

/-- `lasso_saml20_profile_process_any_response` with a Response that could be read. -/
def receiveLoginResponse (cx : LoginContext) (profile : Profile) (text : Bytes) : Rc × Profile :=
  let m := readResponse cx text
  receiveResponse (fun _ => .samlp2Response m.node) cx.toContext
    (m.map (·.toSamlp2StatusResponse)) { profile with signatureStatus := .ok } text

/-- `lasso_saml20_login_process_authn_response_msg` -/
def processAuthnResponseMsg (cx : LoginContext) (login : Login) (authnResponseMsg : Bytes) :
    Rc × Login :=
  match requestMethod (readResponse cx authnResponseMsg).format with
  | none =>
    (.profile .unsupportedProfile,
      { login with profile := { login.profile with signatureStatus := .ok } })
  | some responseMethod =>
    let (rc, profile) := receiveLoginResponse cx login.profile authnResponseMsg
    let login := { login with profile }
    -- Only HTTP-Post binding is possible through this method
    if responseMethod ≠ .post then (.profile .unsupportedProfile, login)
    -- Skip signature errors
    else if rc = .ok ∨ rc = .login .statusNotSuccess ∨ rc = .profile .cannotVerifySignature then
      processResponseStatusAndAssertion cx.toContext login
    else (rc, login)

/-- `lasso_saml20_profile_process_artifact_response`. Nothing reads what is inside the stored
ArtifactResponse, which does not keep it. -/
def processArtifactResponse (cx : LoginContext) (profile : Profile) (msg : Bytes) :
    Rc × Profile :=
  let profile := { profile with signatureStatus := .ok }
  let m := readArtifactResponse cx msg
  if NameIdManagement.isRead m.format then
    let (rc, profile) := receiveResponse
      (fun response => .samlp2ArtifactResponse { toSamlp2StatusResponse := response })
      cx.toContext (m.map (·.toSamlp2StatusResponse)) profile msg
    if rc ≠ .ok then (rc, profile)
    else if profile.response.isNone then (.profile .invalidResponse, profile)
    else
      match m.node.any with
      | none => (.profile .missingResponse, profile)
      | some any =>
        if any.isSamlp2RequestAbstract then (.ok, { profile with request := some any })
        else if any.isSamlp2StatusResponse then (.ok, { profile with response := some any })
        else (.profile .invalidResponse, profile)
  else (.profile .invalidMsg, profile)

/-- `lasso_saml20_login_process_response_msg` -/
def processResponseMsg (cx : LoginContext) (login : Login) (responseMsg : Bytes) : Rc × Login :=
  let (rc, profile) := processArtifactResponse cx login.profile responseMsg
  let login := { login with profile }
  if rc ≠ .ok then (rc, login)
  else
    match profile.response with
    | some (.samlp2ArtifactResponse _) => processAuthnRequestMsg cx.toContext login none
    | _ => processResponseStatusAndAssertion cx.toContext login

/-! ## The codes for a failure -/

/-- The status has a code, which is not Success. -/
def Failed (status : Option Status) : Prop :=
  ∃ statusCode, status.bind (·.statusCode) = some statusCode ∧
    statusCode.value ≠ some saml2StatusCodeSuccess

/-- The Response comes in a form, and the server knows its issuer. -/
structure Posted (cx : LoginContext) (profile : Profile) (text : Bytes)
    (response : Samlp2Response) : Prop where
  format : (readResponse cx text).format = .base64
  node : (readResponse cx text).node = response
  issuer : ∃ nameId server p, response.issuer = some nameId ∧ isValidIssuer nameId = true ∧
    profile.server = some server ∧ server.getProvider nameId.content = some p

/-- The Response is in the answer to an artifact, and there is no error in getting it out. -/
structure Resolved (cx : LoginContext) (profile : Profile) (text : Bytes)
    (response : Samlp2Response) : Prop where
  code : (processArtifactResponse cx profile text).1 = .ok
  response : (processArtifactResponse cx profile text).2.response = some (.samlp2Response response)

section

variable {cx : LoginContext} {profile : Profile} {login : Login} {text : Bytes}
  {response : Samlp2Response}

/-- The profile reads a failure as one of two codes of its own. -/
theorem checkStatusCode_of_failed {status : Option Status} (h : Failed status) :
    checkStatusCode status = .profile .requestDenied ∨
      checkStatusCode status = .profile .statusNotSuccess := by
  obtain ⟨statusCode, hcode, hvalue⟩ := h
  unfold checkStatusCode
  rw [hcode]
  dsimp only
  rw [if_neg hvalue]
  split_ifs
  · exact .inl rfl
  · exact .inr rfl

theorem receiveLoginResponse_fst (h : Posted cx profile text response)
    (hfailed : Failed response.status) :
    (receiveLoginResponse cx profile text).1 = checkStatusCode response.status := by
  obtain ⟨nameId, server, p, hissuer, hvalid, hserver, hp⟩ := h.issuer
  have hstatus := checkStatusCode_of_failed hfailed
  unfold receiveLoginResponse receiveResponse ParsedMessage.map
  simp only [h.node, hserver, hissuer, Option.filter_some, hvalid, if_true, hp]
  split
  · rename_i hok
    rw [hok] at hstatus
    simp at hstatus
  · rfl

/-- The code for a failure in a form is the one of the profile. -/
theorem code_of_posted (h : Posted cx login.profile text response)
    (hfailed : Failed response.status) :
    (processAuthnResponseMsg cx login text).1 = checkStatusCode response.status := by
  have hreceived := receiveLoginResponse_fst h hfailed
  have hstatus := checkStatusCode_of_failed hfailed
  unfold processAuthnResponseMsg
  simp only [h.format, requestMethod, hreceived, ne_eq, not_true_eq_false, if_false]
  rw [if_neg]
  intro hskipped
  rcases hstatus with hstatus | hstatus <;> simp [hstatus] at hskipped

/-- The code for a failure behind an artifact is the one of the login. -/
theorem code_of_resolved (h : Resolved cx login.profile text response)
    (hfailed : Failed response.status) :
    (processResponseMsg cx login text).1 =
      match Status.topLevel response.status with
      | none => .profile .missingStatusCode
      | some statusValue => statusError statusValue (Status.secondLevel response.status) := by
  obtain ⟨statusCode, hcode, hvalue⟩ := hfailed
  unfold processResponseMsg
  simp only [h.code, h.response, ne_eq, not_true_eq_false, if_false]
  unfold processResponseStatusAndAssertion
  simp only [h.response]
  have htop : Status.topLevel response.status = statusCode.value := by
    simp [Status.topLevel, hcode]
  rw [htop]
  cases hstatusValue : statusCode.value with
  | none => rfl
  | some statusValue =>
    have hne : statusValue ≠ saml2StatusCodeSuccess := by
      intro heq
      exact hvalue (by rw [hstatusValue, heq])
    dsimp only
    rw [if_pos hne]

/-- A status error of the login is not one of the profile. -/
theorem statusError_ne_profile (statusValue : String) (secondLevel : Option String)
    (error : ProfileError) : statusError statusValue secondLevel ≠ .profile error := by
  unfold statusError responseStatusError
  split_ifs <;> simp

/-- No failure is reported alike by both bindings. -/
theorem code_ne_of_binding {login' : Login} {text' : Bytes}
    (hposted : Posted cx login.profile text response)
    (hresolved : Resolved cx login'.profile text' response) (hfailed : Failed response.status) :
    (processAuthnResponseMsg cx login text).1 ≠ (processResponseMsg cx login' text').1 := by
  rw [code_of_posted hposted hfailed, code_of_resolved hresolved hfailed]
  have hstatus := checkStatusCode_of_failed hfailed
  split
  · rcases hstatus with hstatus | hstatus <;> simp [hstatus]
  · rename_i statusValue htop
    intro heq
    rcases hstatus with hstatus | hstatus
    · exact statusError_ne_profile _ _ _ (heq.symm.trans hstatus)
    · exact statusError_ne_profile _ _ _ (heq.symm.trans hstatus)

end

/-! ## A federation that does not exist -/

/-- The identity provider does not know the federation. -/
def unknownFederation : Samlp2Response where
  issuer := some { content := some "https://idp.example" }
  status := some { statusCode := some {
    value := some saml2StatusCodeResponder
    statusCode := some (some libStatusCodeFederationDoesNotExist) } }

/-- Every document is a Response of `unknownFederation`, and an ArtifactResponse with it inside. -/
def bindingCx : LoginContext where
  toContext := { Context.refusing with
    base64Decode := fun _ _ => (1, "<".toList)
    parseMemory := fun _ => some (.element (some saml2ProtocolHref) "Response" [] []) }
  samlp2ResponseInitFromXml _ _ := (.ok, unknownFederation)
  samlp2ArtifactResponseInitFromXml _ _ := (.ok, {
    issuer := unknownFederation.issuer
    status := some { statusCode := some { value := some saml2StatusCodeSuccess } }
    any := some (.samlp2Response unknownFederation) })

/-- A service provider that knows the identity provider and asks for no signature. -/
def bindingLogin : Login where
  profile := {
    signatureVerifyHint := .ignore
    server := some (Server.addProvider
      { provider := {
          providerId := some "https://sp.example", role := .sp, conformance := .saml20 } }
      { providerId := some "https://idp.example", role := .idp, conformance := .saml20 }).2 }

theorem posted_unknownFederation :
    Posted bindingCx bindingLogin.profile "PA==".toList unknownFederation := by
  refine ⟨by decide +kernel, rfl, _, _, _, rfl, by decide, rfl, rfl⟩

theorem resolved_unknownFederation :
    Resolved bindingCx bindingLogin.profile "<".toList unknownFederation := by
  refine ⟨by decide +kernel, rfl⟩

theorem failed_unknownFederation : Failed unknownFederation.status :=
  ⟨_, rfl, by decide⟩

theorem code_ne_of_binding_unknownFederation :
    (processAuthnResponseMsg bindingCx bindingLogin "PA==".toList).1 ≠
      (processResponseMsg bindingCx bindingLogin "<".toList).1 :=
  code_ne_of_binding posted_unknownFederation resolved_unknownFederation failed_unknownFederation

/-- The form says only that the status is no success, the artifact that there is no federation. -/
theorem binding_changes_code :
    ¬ ∀ (cx : LoginContext) (login login' : Login) (text text' : Bytes) (response : Samlp2Response),
        Posted cx login.profile text response → Resolved cx login'.profile text' response →
          Failed response.status →
            (processAuthnResponseMsg cx login text).1 =
              (processResponseMsg cx login' text').1 := by
  intro h
  have heq := h bindingCx bindingLogin bindingLogin _ _ _ posted_unknownFederation
    resolved_unknownFederation failed_unknownFederation
  have hpost : (processAuthnResponseMsg bindingCx bindingLogin "PA==".toList).1 =
      .profile .statusNotSuccess := by
    rw [code_of_posted posted_unknownFederation failed_unknownFederation]
    rfl
  have hartifact : (processResponseMsg bindingCx bindingLogin "<".toList).1 =
      .login .federationNotFound := by
    rw [code_of_resolved resolved_unknownFederation failed_unknownFederation]
    decide
  rw [hpost, hartifact] at heq
  cases heq

end Saml20

end Lasso
