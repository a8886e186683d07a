import Lasso.IdFf.Logout
import Lasso.Logout.Dump
import Lasso.Saml20.ResponseMessage

/-!
# ID-FF 1.2 logout responses

A response with a signature is checked and then left alone, whatever the verdict: the status is only
looked at when there is no signature.

## Main definitions

* `Logout.processResponseMsg` — `lasso_logout_process_response_msg`.
* `Logout.NothingDue` — a response that changes nothing but what was received.
* `Logout.HandledAlike` — the responses whose signature makes no difference.

## Main results

* `Logout.processResponseMsg_signed_iff` — there are no others.
-/

namespace Lasso

/-- The environment of a logout response: the parser of its class, and the building of a query. -/
structure LogoutResponseContext extends Context where
  /-- `LassoLibLogoutResponse` -/
  libLogoutResponse : NodeClass LibLogoutResponse
  /-- `lasso_server_export_to_query_for_provider_by_name` -/
  exportToQueryForProvider :
    Option Server → String → Option LassoNode → Except ErrorRc (Option String)

/-- The query has no signature, or the element none of its own. -/
def Provider.Unsigned (env : Env) (p : Provider) (message : Bytes) (format : MessageFormat) : Prop :=
  if format = .query then p.signedContent env message = none
  else ∃ signed, signedElement env message format = .ok (some signed) ∧
    signed.node.hasSignature = false

namespace IdFf.Logout

/-! ## Processing a response -/

section

variable (cx : LogoutResponseContext)

/-- The LogoutResponse that a message is parsed to. -/
def readLogoutResponse (text : Bytes) : ParsedMessage LibLogoutResponse :=
  initFromMessageWithFormat cx.toEnv cx.libLogoutResponse {} text .unknown

/-- The session after `lasso_session_remove_assertion` for the provider. -/
def withoutAssertion (logout : LogoutObject) (providerId : String) : LogoutObject :=
  { logout with profile := { logout.profile with
    session := logout.profile.session.map fun session =>
      (session.removeAssertion (some providerId)).2 } }

/-- At a service provider whose request over SOAP was refused, build the request for a redirect. -/
def rebuildRequest (logout : LogoutObject) (providerId : String) (remoteProvider : Provider) :
    Rc × LogoutObject :=
  let logout := { logout with msgBody := none }
  match remoteProvider.getMetadataOne "SingleLogoutServiceURL" with
  | none => (.profile .unknownProfileUrl, logout)
  | some url =>
    match cx.exportToQueryForProvider logout.profile.server providerId logout.profile.request with
    | .error rc => (rc, logout)
    | .ok none => (.profile .buildingQueryFailed, logout)
    | .ok (some query) =>
      (.logout .unsupportedProfile,
        withoutAssertion { logout with msgUrl := some (concatUrlQuery url query) } providerId)

/-- A status that is not success. -/
def handleFailure (logout : LogoutObject) (providerId : String) (remoteProvider : Provider)
    (statusCodeValue : Option String) : Rc × LogoutObject :=
  if statusCodeValue = some libStatusCodeUnsupportedProfile ∧ remoteProvider.role = .idp ∧
      logout.initialHttpRequestMethod = .soap then
    rebuildRequest cx logout providerId remoteProvider
  else if statusCodeValue = some samlStatusCodeRequestDenied then
    -- assertion no longer on idp so removing it locally too
    (.logout .requestDenied, withoutAssertion logout providerId)
  else if statusCodeValue = some libStatusCodeFederationDoesNotExist then
    (.logout .federationNotFound, withoutAssertion logout providerId)
  else (.profile .statusNotSuccess, logout)

/-- The assertion is removed by a response over SOAP, or by one of a service provider. -/
def removalDue (remoteProvider : Provider) (responseMethod : HttpMethod) : Bool :=
  responseMethod = .soap ∨ remoteProvider.role = .sp ∧ responseMethod = .redirect

/-- The initial request is answered when the last service provider has been logged out. -/
def restoreDue (logout : LogoutObject) (remoteProvider : Provider) : Bool :=
  logout.initialRemoteProviderId.isSome ∧
    (∀ session ∈ logout.profile.session, session.countAssertions cx.toEnv = 0) ∧
    remoteProvider.role = .sp

/-- Return to the initial request and its response. -/
def restoreInitial (logout : LogoutObject) : LogoutObject :=
  { logout with
    initialRemoteProviderId := none
    initialRequest := none
    initialResponse := none
    profile := { logout.profile with
      remoteProviderId := logout.initialRemoteProviderId
      request := logout.initialRequest
      response := logout.initialResponse } }

/-- The end of a successful logout. -/
def handleSuccess (logout : LogoutObject) (providerId : String) (remoteProvider : Provider)
    (responseMethod : HttpMethod) : LogoutObject :=
  let logout :=
    if removalDue remoteProvider responseMethod then withoutAssertion logout providerId else logout
  if restoreDue cx logout remoteProvider then restoreInitial logout else logout

/-- The part of the function that comes after the signature. -/
def handleStatus (logout : LogoutObject) (providerId : String) (remoteProvider : Provider)
    (responseMethod : HttpMethod) (status : Option Status) : Rc × LogoutObject :=
  match status.bind (·.statusCode) with
  | none | some { value := none, .. } => (.profile .missingStatusCode, logout)
  | some { value := some value, statusCode } =>
    if value ≠ samlStatusCodeSuccess then
      -- takes lower-level StatusCode if available
      handleFailure cx logout providerId remoteProvider (statusCode.getD (some value))
    else (.ok, handleSuccess cx logout providerId remoteProvider responseMethod)

/-- What is stored of a response before its signature is looked at. -/
def receive (logout : LogoutObject) (response : LibLogoutResponse) : LogoutObject :=
  { logout with profile := { logout.profile with
    response := some (.libLogoutResponse response)
    msgRelayState := response.relayState
    remoteProviderId := response.providerId } }

/-- `lasso_logout_process_response_msg` -/
def processResponseMsg (logout : LogoutObject) (responseMsg : Option Bytes) : Rc × LogoutObject :=
  match responseMsg with
  | none => (.param .invalidValue, logout)
  | some responseMsg =>
    let m := readLogoutResponse cx responseMsg
    match requestMethod m.format with
    | none =>
      (.profile .invalidMsg, { logout with profile := { logout.profile with
        response := some (.libLogoutResponse m.node) } })
    | some responseMethod =>
      let logout := receive logout m.node
      match m.node.providerId with
      | none => (.profile .missingRemoteProviderid, logout)
      | some providerId =>
        match logout.profile.remoteProvider with
        | none => (.server .providerNotFound, logout)
        | some remoteProvider =>
          match remoteProvider.verifySignature cx.toEnv (some responseMsg) (some "ResponseID")
              m.format with
          | .ds .signatureNotFound =>
            handleStatus cx logout providerId remoteProvider responseMethod m.node.status
          -- also for a good signature
          | rc => (rc, logout)

/-! ## When the signature makes no difference -/

/-- A validly signed response of a provider, and the same response without a signature. -/
structure SignedPair (p : Provider) (signed unsigned : Bytes) : Prop where
  format_eq : (readLogoutResponse cx signed).format = (readLogoutResponse cx unsigned).format
  node_eq : (readLogoutResponse cx signed).node = (readLogoutResponse cx unsigned).node
  verified : p.verifySignature cx.toEnv (some signed) (some "ResponseID")
    (readLogoutResponse cx signed).format = .ok
  unsigned : p.Unsigned cx.toEnv unsigned (readLogoutResponse cx unsigned).format

/-- The session has nothing of the provider. -/
def NothingHeld (session : Option Session) (providerId : String) : Prop :=
  ∀ s ∈ session, providerId ∉ s.assertions ∧ providerId ∉ s.nidAndSessionIndexes

/-- A success that neither removes an assertion nor ends the logout. -/
def NothingDue (logout : LogoutObject) (remoteProvider : Provider) (response : LibLogoutResponse)
    (responseMethod : HttpMethod) : Prop :=
  Status.topLevel response.status = some samlStatusCodeSuccess ∧
    (removalDue remoteProvider responseMethod = true →
      ∀ providerId ∈ response.providerId, NothingHeld logout.profile.session providerId) ∧
    restoreDue cx logout remoteProvider = false

/-- Verification is off, or the provider has no key to try on an element. -/
def Unchecked (p : Provider) (format : MessageFormat) : Prop :=
  cx.verifySignatureFlag = false ∨ p.chainOnly cx.toEnv ∧ format ≠ .query

/-- The format is not one of a response, the signature is not checked, or there is nothing to do and
a missing signature is told from a bad one. -/
def HandledAlike (logout : LogoutObject) (remoteProvider : Provider) (text : Bytes) : Prop :=
  let m := readLogoutResponse cx text
  ∀ responseMethod ∈ requestMethod m.format, Unchecked cx remoteProvider m.format ∨
    NothingDue cx logout remoteProvider m.node responseMethod ∧
      (responseMethod = .redirect → remoteProvider.conformance = .saml20 →
        buildSignedQuery cx.toEnv text = .error (.ds .signatureNotFound))

end

end IdFf.Logout

/-! ## A message without signature -/

namespace Provider

open Search

variable {env : Env} {p : Provider} {idAttrName : Option String} {signed unsigned : Bytes}

/-- Every key misses the signature. -/
theorem tryKeys_of_unsigned (hflag : env.verifySignatureFlag = true) {node : NodeRef}
    (hnode : node.node.hasSignature = false) {credentials : Option KeysMngr × List SecKey}
    (hkeys : credentials.2 ≠ []) :
    tryKeys env (some node) idAttrName noOption credentials = .ds .signatureNotFound := by
  apply firstSuccess_of_forall hkeys (by simp)
  intro key _
  simp [Lasso.verifySignature, hflag, hnode]

theorem verifySignature_unsigned_soap (hflag : env.verifySignatureFlag = true)
    (hchain : ¬ p.chainOnly env)
    (hsigned : p.verifySignature env (some signed) idAttrName .soap = .ok)
    (hunsigned : p.Unsigned env unsigned .soap) :
    p.verifySignature env (some unsigned) idAttrName .soap = .ds .signatureNotFound := by
  obtain ⟨node, helement, hnode⟩ := (if_neg (by simp)).mp hunsigned
  cases hload : p.loadCredentials env with
  | error rc =>
    simp only [verifySignature, hflag, hload] at hsigned
    exact absurd (by simpa using hsigned) (loadCredentials_ne_ok hload)
  | ok credentials =>
    obtain ⟨-, hnil, hkeyless⟩ := loadCredentials_eq_ok hload
    have hkeys : credentials.2 ≠ [] := fun hempty => hchain (hkeyless (hnil.mp hempty))
    simp [verifySignature, hflag, hload, helement, tryKeys_of_unsigned hflag hnode hkeys]

/-- A query of a SAML 2.0 provider that lacks another part besides is an error of its own. -/
theorem verifySignature_unsigned_query (hflag : env.verifySignatureFlag = true)
    (hsigned : p.verifySignature env (some signed) idAttrName .query = .ok)
    (hunsigned : p.Unsigned env unsigned .query) :
    p.verifySignature env (some unsigned) idAttrName .query ≠ .ok ∧
      (p.verifySignature env (some unsigned) idAttrName .query = .ds .signatureNotFound ↔
        (p.conformance = .saml20 →
          buildSignedQuery env unsigned = .error (.ds .signatureNotFound))) := by
  have hquery (text : Bytes) : p.verifySignature env (some text) idAttrName .query =
      p.verifyQuerySignature env text := by
    simp [verifySignature, hflag]
  rw [hquery] at hsigned ⊢
  have hcontent : p.signedContent env unsigned = none := (if_pos rfl).mp hunsigned
  unfold verifyQuerySignature at hsigned ⊢
  cases hload : p.tryLoadingPublicKeys true with
  | error rc =>
    rw [hload] at hsigned
    exact absurd hsigned (tryLoadingPublicKeys_ne_ok hload)
  | ok keys =>
    have hkeys : keys ≠ [] := by
      rcases tryLoadingPublicKeys_eq_ok hload with ⟨-, -, hne⟩ | ⟨-, hmandatory, -⟩
      · exact hne
      · cases hmandatory
    have liberty (hbreak : breakOn "&Signature=".toList unsigned = none) :
        firstSuccess .ok (queryVerifySignature env unsigned) .ok keys = .ds .signatureNotFound := by
      apply firstSuccess_of_forall hkeys (by simp)
      intro key _
      unfold queryVerifySignature
      rw [hbreak]
      simp [hflag]
    unfold signedContent at hcontent
    cases hconformance : p.conformance with
    | none => simp [hload, hconformance] at hsigned
    | liberty10 | liberty11 | liberty12 =>
      rw [hconformance] at hcontent
      have hmissed := liberty (Option.map_eq_none_iff.mp hcontent)
      simp [hmissed]
    | saml20 =>
      rw [hconformance] at hcontent
      cases hbuild : buildSignedQuery env unsigned with
      | ok q => simp [hbuild, Except.toOption] at hcontent
      | error rc =>
        have hrc : rc ≠ .ok := buildSignedQuery_ne_ok hbuild
        have hall : firstSuccess .ok (saml2QueryVerifySignature env unsigned) .ok keys = rc := by
          apply firstSuccess_of_forall hkeys hrc
          intro key _
          simp [saml2QueryVerifySignature, hflag, hbuild]
        simp [hall, hrc]

/-- Verification that is off, or finds no key to try, accepts the message. -/
theorem verifySignature_unchecked {format : MessageFormat}
    (hformat : format = .soap ∨ format = .query)
    (hunchecked : env.verifySignatureFlag = false ∨ p.chainOnly env ∧ format ≠ .query)
    (hunsigned : p.Unsigned env unsigned format) :
    p.verifySignature env (some unsigned) idAttrName format = .ok := by
  by_cases hflag : env.verifySignatureFlag = true
  · obtain ⟨hchain, hquery⟩ := hunchecked.resolve_left (by simp [hflag])
    obtain rfl : format = .soap := hformat.resolve_right hquery
    obtain ⟨keysMngr, hload⟩ := loadCredentials_of_chainOnly hchain
    obtain ⟨node, helement, -⟩ := (if_neg hquery).mp hunsigned
    simp [verifySignature, hflag, hload, helement, tryKeys]
  · simp [verifySignature, hflag]

end Provider

/-! ## The comparison -/

theorem Session.removeAssertion_ne {s : Session} {providerId : String} (hne : providerId ≠ "")
    (h : providerId ∈ s.assertions ∨ providerId ∈ s.nidAndSessionIndexes) :
    (s.removeAssertion (some providerId)).2 ≠ s := by
  intro heq
  simp only [removeAssertion, hne, if_false, if_pos h] at heq
  rcases h with h | h
  · rw [← heq] at h
    simp at h
  · rw [← heq] at h
    simp at h

namespace IdFf.Logout

section

variable {cx : LogoutResponseContext} {logout : LogoutObject} {providerId : String} {p : Provider}
  {responseMethod : HttpMethod}

theorem withoutAssertion_session_iff (hne : providerId ≠ "") :
    (withoutAssertion logout providerId).profile.session = logout.profile.session ↔
      NothingHeld logout.profile.session providerId := by
  unfold withoutAssertion NothingHeld
  dsimp only
  cases logout.profile.session with
  | none => simp
  | some s =>
    simp only [Option.map_some, Option.some.injEq, Option.mem_def, forall_eq']
    constructor
    · intro heq
      by_contra hheld
      refine Session.removeAssertion_ne hne ?_ heq
      by_contra hnone
      exact hheld (not_or.mp hnone)
    · rintro ⟨hassertions, hindexes⟩
      simp [Session.removeAssertion, hne, hassertions, hindexes]

theorem withoutAssertion_of_nothingHeld (hne : providerId ≠ "")
    (h : NothingHeld logout.profile.session providerId) :
    withoutAssertion logout providerId = logout := by
  have hsession : (logout.profile.session.map fun session =>
      (session.removeAssertion (some providerId)).2) = logout.profile.session :=
    (withoutAssertion_session_iff hne).mpr h
  rw [withoutAssertion, hsession]

/-- A success leaves the logout as it is if and only if it has nothing to do. -/
theorem handleSuccess_eq_self_iff (hne : providerId ≠ "") :
    handleSuccess cx logout providerId p responseMethod = logout ↔
      (removalDue p responseMethod = true → NothingHeld logout.profile.session providerId) ∧
        restoreDue cx logout p = false := by
  have hrestored (logout' : LogoutObject)
      (hsame : logout'.initialRemoteProviderId = logout.initialRemoteProviderId)
      (hdue : restoreDue cx logout' p = true) : restoreInitial logout' ≠ logout := by
    intro heq
    have hinitial : logout.initialRemoteProviderId = none := by
      rw [← heq]
      rfl
    simp [restoreDue, hsame, hinitial] at hdue
  unfold handleSuccess
  dsimp only
  by_cases hremoval : removalDue p responseMethod = true
  · simp only [hremoval, if_true, forall_const]
    by_cases hnothing : NothingHeld logout.profile.session providerId
    · rw [withoutAssertion_of_nothingHeld hne hnothing]
      by_cases hdue : restoreDue cx logout p = true
      · simp [hdue, hrestored logout rfl hdue]
      · simp [hdue, hnothing]
    · refine iff_of_false ?_ fun h => hnothing h.1
      intro heq
      apply hnothing
      rw [← withoutAssertion_session_iff hne]
      -- the session is that without the assertion, restored or not
      split_ifs at heq
      · exact congrArg (·.profile.session) heq
      · exact congrArg (·.profile.session) heq
  · simp only [hremoval, Bool.false_eq_true, if_false, false_imp_iff, true_and]
    by_cases hdue : restoreDue cx logout p = true
    · simp [hdue, hrestored logout rfl hdue]
    · simp [hdue]

theorem handleFailure_ne_ok (statusCodeValue : Option String) :
    (handleFailure cx logout providerId p statusCodeValue).1 ≠ .ok := by
  unfold handleFailure rebuildRequest
  dsimp only
  split_ifs
  · split
    · simp
    · split
      · rename_i rc hexport
        exact rc.2
      · simp
      · simp
  · simp
  · simp
  · simp

/-- Handling the status has no effect, and no error, if and only if nothing is due. -/
theorem handleStatus_eq_iff (hne : providerId ≠ "") {response : LibLogoutResponse}
    (hproviderId : response.providerId = some providerId) :
    handleStatus cx logout providerId p responseMethod response.status = (.ok, logout) ↔
      NothingDue cx logout p response responseMethod := by
  unfold handleStatus NothingDue
  rw [hproviderId]
  simp only [Option.mem_def, Option.some.injEq, forall_eq', Status.topLevel]
  split
  · rename_i hstatus
    simp [hstatus]
  · rename_i hstatus
    simp [hstatus]
  · rename_i value statusCode hstatus
    rw [hstatus]
    by_cases hvalue : value = samlStatusCodeSuccess
    · rw [if_neg (not_not.mpr hvalue), Prod.mk.injEq]
      simp only [true_and, Option.bind_some, hvalue]
      exact handleSuccess_eq_self_iff hne
    · rw [if_pos hvalue]
      refine iff_of_false (fun heq => handleFailure_ne_ok _ (congrArg Prod.fst heq)) ?_
      simp [hvalue]

variable {signed unsigned : Bytes}

/-- A response of a known provider, up to the verdict on its signature. -/
theorem processResponseMsg_eq {text : Bytes} {m : ParsedMessage LibLogoutResponse}
    (hm : readLogoutResponse cx text = m) (hmethod : requestMethod m.format = some responseMethod)
    (hproviderId : m.node.providerId = some providerId)
    (hprovider : logout.profile.server.bind (·.getProvider (some providerId)) = some p) :
    processResponseMsg cx logout (some text) =
      match p.verifySignature cx.toEnv (some text) (some "ResponseID") m.format with
      | .ds .signatureNotFound =>
        handleStatus cx (receive logout m.node) providerId p responseMethod m.node.status
      | rc => (rc, receive logout m.node) := by
  have hremote : (receive logout m.node).profile.remoteProvider = some p := by
    simp [receive, Profile.remoteProvider, hproviderId, hprovider]
  simp only [processResponseMsg, hm, hmethod, hproviderId, hremote]

theorem eq_soap_or_query {format : MessageFormat} (h : requestMethod format = some responseMethod) :
    format = .soap ∧ responseMethod = .soap ∨ format = .query ∧ responseMethod = .redirect := by
  cases format <;> cases h
  · exact .inr ⟨rfl, rfl⟩
  · exact .inl ⟨rfl, rfl⟩

/-- A missing signature is noticed, if there is a key to verify one. -/
theorem SignedPair.verifySignature_unsigned (h : SignedPair cx p signed unsigned)
    (hmethod : requestMethod (readLogoutResponse cx unsigned).format = some responseMethod)
    (hchecked : ¬ Unchecked cx p (readLogoutResponse cx unsigned).format) :
    p.verifySignature cx.toEnv (some unsigned) (some "ResponseID")
        (readLogoutResponse cx unsigned).format ≠ .ok ∧
      (p.verifySignature cx.toEnv (some unsigned) (some "ResponseID")
          (readLogoutResponse cx unsigned).format = .ds .signatureNotFound ↔
        (responseMethod = .redirect → p.conformance = .saml20 →
          buildSignedQuery cx.toEnv unsigned = .error (.ds .signatureNotFound))) := by
  obtain ⟨hoff, hchain⟩ := not_or.mp hchecked
  have hflag : cx.verifySignatureFlag = true := by simpa using hoff
  have hverified := h.verified
  have hunsigned := h.unsigned
  rw [h.format_eq] at hverified
  rcases eq_soap_or_query hmethod with ⟨hformat, rfl⟩ | ⟨hformat, rfl⟩
  · rw [hformat] at hverified hunsigned hchain ⊢
    rw [Provider.verifySignature_unsigned_soap hflag (by simpa using hchain) hverified hunsigned]
    simp
  · rw [hformat] at hverified hunsigned ⊢
    simpa using Provider.verifySignature_unsigned_query hflag hverified hunsigned

end

/-- A signature makes no difference if and only if the message is no response, or signatures are
not checked, or there is nothing to do and its absence is told from a bad signature. -/
theorem processResponseMsg_signed_iff {cx : LogoutResponseContext} {logout : LogoutObject}
    {p : Provider} {signed unsigned : Bytes} (h : SignedPair cx p signed unsigned)
    (hprovider : logout.profile.server.bind
      (·.getProvider (readLogoutResponse cx unsigned).node.providerId) = some p) :
    processResponseMsg cx logout (some signed) = processResponseMsg cx logout (some unsigned) ↔
      HandledAlike cx logout p unsigned := by
  have hm : readLogoutResponse cx unsigned = readLogoutResponse cx unsigned := rfl
  cases hmethod : requestMethod (readLogoutResponse cx unsigned).format with
  | none =>
    refine iff_of_true ?_ fun responseMethod hresponse => nomatch hmethod.symm.trans hresponse
    simp only [processResponseMsg, h.format_eq, h.node_eq, hmethod]
  | some responseMethod =>
    cases hproviderId : (readLogoutResponse cx unsigned).node.providerId with
    | none =>
      rw [hproviderId] at hprovider
      cases hserver : logout.profile.server <;> simp [hserver] at hprovider
    | some providerId =>
      rw [hproviderId] at hprovider
      have hne : providerId ≠ "" := by
        rintro rfl
        cases hserver : logout.profile.server <;> simp [hserver, Server.getProvider] at hprovider
      have hsigned : processResponseMsg cx logout (some signed) =
          (.ok, receive logout (readLogoutResponse cx unsigned).node) := by
        rw [processResponseMsg_eq rfl (h.format_eq ▸ hmethod) (h.node_eq ▸ hproviderId) hprovider,
          h.verified, h.node_eq]
      have hstatus : handleStatus cx (receive logout (readLogoutResponse cx unsigned).node)
            providerId p responseMethod (readLogoutResponse cx unsigned).node.status =
            (.ok, receive logout (readLogoutResponse cx unsigned).node) ↔
          NothingDue cx logout p (readLogoutResponse cx unsigned).node responseMethod :=
        handleStatus_eq_iff hne hproviderId
      rw [hsigned, processResponseMsg_eq rfl hmethod hproviderId hprovider]
      simp only [HandledAlike, hmethod, Option.mem_def, Option.some.injEq, forall_eq']
      by_cases hunchecked : Unchecked cx p (readLogoutResponse cx unsigned).format
      · have hformat := (eq_soap_or_query hmethod).imp And.left And.left
        rw [Provider.verifySignature_unchecked hformat hunchecked h.unsigned]
        simp [hunchecked]
      · obtain ⟨hok, hmissed⟩ := h.verifySignature_unsigned hmethod hunchecked
        simp only [hunchecked, false_or, ← hmissed]
        split
        · rename_i hverdict
          rw [eq_comm, hstatus]
          simp [hverdict]
        · rename_i hother
          refine iff_of_false (fun heq => hok (congrArg Prod.fst heq).symm) ?_
          exact fun hdue => hother hdue.2

/-! ## A denial -/

/-- The answer of an identity provider over SOAP. -/
def responseXml (children : List XmlNode) : XmlNode :=
  .element (some soapEnvHref) "Envelope" [] [.element (some soapEnvHref) "Body" []
    [.element (some libHref) "LogoutResponse" [{ name := "ResponseID", value := "_r" }] children]]

/-- Every message is a response of `https://idp.example` with the given status; the one that starts
with `<s` is signed, and its signature verifies. -/
def answeredCx (statusCodeValue : String) : LogoutResponseContext where
  toContext := { Context.refusing with
    parseMemory := fun text =>
      some (responseXml (if text = "<s".toList then
        [.element (some xmlSecDSigNs) "Signature" [] []] else []))
    dsigVerify := fun _ _ => .succeeded [some "#_r"] }
  libLogoutResponse := { NodeClass.refusing with
    initFromXml := fun _ _ => (.ok, {
      providerId := some "https://idp.example"
      status := some { statusCode := some { value := some statusCodeValue } } }) }
  exportToQueryForProvider _ _ _ := .ok none

def answeringProvider : Provider where
  providerId := some "https://idp.example"
  role := .idp
  conformance := .liberty12
  publicKey := some "idp.pem"
  signingPublicKeys := [⟨.rsa, "k".toList⟩]

/-- A service provider without a session. -/
def sessionlessLogout : LogoutObject where
  profile := { server := some (Server.addProvider {
    provider := { providerId := some "https://sp.example" } } answeringProvider).2 }

/-- With and without the signature the same response is read. -/
theorem readLogoutResponse_answered (statusCodeValue : String) {text : Bytes}
    (h : text ∈ ["<s".toList, "<u".toList]) :
    (readLogoutResponse (answeredCx statusCodeValue) text).format = .soap ∧
      (readLogoutResponse (answeredCx statusCodeValue) text).node = {
        providerId := some "https://idp.example"
        status := some { statusCode := some { value := some statusCodeValue } } } := by
  simp only [List.mem_cons, List.not_mem_nil, or_false] at h
  rcases h with rfl | rfl <;> exact ⟨rfl, rfl⟩

theorem answeredPair (statusCodeValue : String) :
    SignedPair (answeredCx statusCodeValue) answeringProvider "<s".toList "<u".toList := by
  obtain ⟨hformat, hnode⟩ := readLogoutResponse_answered statusCodeValue List.mem_cons_self
  obtain ⟨hformat', hnode'⟩ :=
    readLogoutResponse_answered statusCodeValue (List.mem_cons_of_mem _ List.mem_cons_self)
  exact {
    format_eq := hformat.trans hformat'.symm
    node_eq := hnode.trans hnode'.symm
    verified := by rfl
    unsigned := ⟨_, rfl, rfl⟩ }

/-- A denial is an error without a signature, and none with one. -/
theorem denial_signed :
    SignedPair (answeredCx samlStatusCodeRequestDenied) answeringProvider "<s".toList
        "<u".toList ∧
      (processResponseMsg (answeredCx samlStatusCodeRequestDenied) sessionlessLogout
        (some "<u".toList)).1 = .logout .requestDenied ∧
      (processResponseMsg (answeredCx samlStatusCodeRequestDenied) sessionlessLogout
        (some "<s".toList)).1 = .ok :=
  ⟨answeredPair _, by decide, by decide⟩

theorem success_signed_iff :
    HandledAlike (answeredCx samlStatusCodeSuccess) sessionlessLogout answeringProvider
        "<u".toList ∧
      processResponseMsg (answeredCx samlStatusCodeSuccess) sessionlessLogout (some "<s".toList) =
        processResponseMsg (answeredCx samlStatusCodeSuccess) sessionlessLogout
          (some "<u".toList) := by
  have hiff := processResponseMsg_signed_iff (answeredPair samlStatusCodeSuccess)
    (by rfl : sessionlessLogout.profile.server.bind (·.getProvider (some "https://idp.example")) =
      some answeringProvider)
  set received := (readLogoutResponse (answeredCx samlStatusCodeSuccess) "<s".toList).node
  have hsigned : processResponseMsg (answeredCx samlStatusCodeSuccess) sessionlessLogout
      (some "<s".toList) = (.ok, receive sessionlessLogout received) := by rfl
  have hunsigned : processResponseMsg (answeredCx samlStatusCodeSuccess) sessionlessLogout
      (some "<u".toList) = (.ok, receive sessionlessLogout received) := by rfl
  have hsame := hsigned.trans hunsigned.symm
  exact ⟨hiff.mp hsame, hsame⟩

end IdFf.Logout

end Lasso
