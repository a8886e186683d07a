import Lasso.Library.Run
import Lasso.IdFf.AuthnRequest

/-!
# The signature gate of ID-FF 1.2 authentication requests

`processAuthnRequestMsg` returns the code of the verification and does not keep it, so that
`validateRequestMsg` answers every request that was prepared as if its signature were good; and a
call that fails before the verification leaves its request with the response of an earlier one. A
Success status is backed by a signature only in runs in which nothing is left to refuse.
-/

namespace Lasso.IdFf

open Run

/-- The message that the stored request came from. -/
structure RequestOrigin where
  text : Bytes
  format : MessageFormat
  /-- the provider that the issuer was when the message was received -/
  issuer : Option Provider
  /-- the signature had to be verified -/
  required : Bool

structure GateRun where
  login : Login
  origin : Option RequestOrigin := none

inductive GateEvent where
  /-- `lasso_login_process_authn_request_msg` -/
  | process (authnRequestMsg : Option Bytes)
  /-- `lasso_login_validate_request_msg` -/
  | validate (uniqueId : String) (authenticationResult isConsentObtained : Bool)

/-- The protocol profile that a request asks for is one of the server. -/
def isSupported (server : Option Server) (request : LibAuthnRequest) : Bool :=
  (requestedProtocolProfile request).any fun (uri, _) =>
    (server.map (·.setRole .idp)).any (hasProtocolProfile ·.provider uri)

/-- The signature of a request has to be verified; an unknown issuer has no metadata. -/
def signatureRequired (hint : SignatureVerifyHint) (issuer : Option Provider) : Bool :=
  issuer.elim (hint != .ignore) (mustVerifySignature hint)

namespace GateRun

/-- The provider that the server knows as the issuer of a request. -/
def issuerProvider (s : GateRun) (request : LibAuthnRequest) : Option Provider :=
  s.login.profile.server.bind (·.getProvider request.providerId)

/-- The origin of the stored request after a call. -/
def originAfter (cx : Context) (s : GateRun) : Option Bytes → Option RequestOrigin
  | none => s.origin
  | some text =>
    let m := readAuthnRequest cx text
    if m.format = .unknown ∨ m.format = .error then s.origin
    else
      let issuer := s.issuerProvider m.node
      some {
        text
        format := m.format
        issuer
        required := signatureRequired s.login.profile.signatureVerifyHint issuer }

def step (cx : Context) (s : GateRun) : GateEvent → GateRun
  | .process msg =>
    { login := (processAuthnRequestMsg cx s.login msg).2, origin := s.originAfter cx msg }
  | .validate uniqueId authenticationResult isConsentObtained =>
    { s with login :=
        (validateRequestMsg uniqueId s.login authenticationResult isConsentObtained).2 }

/-- At the start no request from a message is stored. -/
def Starts (s : GateRun) : Prop := s.origin = none

/-- The signature of the message is verified with a key of its issuer. -/
def Verified (cx : Context) (o : RequestOrigin) : Prop :=
  cx.verifySignatureFlag = true ∧ ∃ p ∈ o.issuer, p.MessageVerified cx.toEnv o.text o.format

/-- A validation leaves a Success status only for a verified request, where verification is
required. -/
def Gate (cx : Context) (s : GateRun) (uniqueId : String)
    (authenticationResult isConsentObtained : Bool) : Prop :=
  Status.topLevel (validateRequestMsg uniqueId s.login authenticationResult
      isConsentObtained).2.profile.responseStatus = some samlStatusCodeSuccess →
    ∀ o ∈ s.origin, o.required = true → Verified cx o

/-- A readable message whose signature is required names a known issuer with keys, and the
verification ends well; or the call ends before it, on the protocol profile, while there is no
response. -/
def Sound (cx : Context) (s : GateRun) : GateEvent → Prop
  | .process (some text) =>
    let m := readAuthnRequest cx text
    m.format ≠ .unknown → m.format ≠ .error →
      signatureRequired s.login.profile.signatureVerifyHint (s.issuerProvider m.node) = true →
        if isSupported s.login.profile.server m.node then
          cx.verifySignatureFlag = true ∧ ∃ p ∈ s.issuerProvider m.node,
            ¬ (p.chainOnly cx.toEnv ∧ Provider.reachesKeys cx.toEnv (some text) m.format) ∧
            p.verifySignature cx.toEnv (some text) (some "RequestID") m.format = .ok
        else s.login.profile.response = none
  | _ => True

section

variable {cx : Context} {s : GateRun} {login : Login} {request : LibAuthnRequest}

theorem isSupported_setRole (server : Option Server) (request : LibAuthnRequest) :
    isSupported (server.map (·.setRole .idp)) request = isSupported server request := by
  cases server <;> rfl

/-- A request with an unsupported protocol profile gets no response. -/
theorem processAuthnRequest_unsupported (cx : Context)
    (hrequest : login.profile.request = some (.libAuthnRequest request))
    (hunsupported : isSupported login.profile.server request = false)
    (msg : Option (Bytes × MessageFormat)) :
    (processAuthnRequest cx login msg).2.profile.request = some (.libAuthnRequest request) ∧
      (processAuthnRequest cx login msg).2.profile.response = login.profile.response ∧
      isSupported (processAuthnRequest cx login msg).2.profile.server request = false := by
  unfold processAuthnRequest
  simp only [hrequest]
  unfold isSupported at hunsupported
  cases hprofile : requestedProtocolProfile request with
  | none => exact ⟨hrequest, rfl, by simp [isSupported, hprofile]⟩
  | some requested =>
    obtain ⟨uri, protocolProfile⟩ := requested
    simp only [hprofile, Option.any_some] at hunsupported
    simp only [hunsupported, Bool.not_false, if_true]
    refine ⟨trivial, trivial, ?_⟩
    rw [isSupported_setRole]
    simpa [isSupported, hprofile] using hunsupported

/-- What the run keeps: a request that needs a signature has one, or it cannot be answered. -/
def Inv (cx : Context) (s : GateRun) : Prop :=
  ∀ o ∈ s.origin, o.required = true → Verified cx o ∨
    (s.login.profile.response = none ∧ ∃ request,
      s.login.profile.request = some (.libAuthnRequest request) ∧
        isSupported s.login.profile.server request = false)

theorem inv_of_starts (h : s.Starts) : s.Inv cx := by
  intro o ho
  rw [h] at ho
  cases ho

theorem inv_message (h : s.Inv cx) {text : Bytes} (hsound : s.Sound cx (.process (some text))) :
    (s.step cx (.process (some text))).Inv cx := by
  unfold Sound at hsound
  unfold step originAfter processAuthnRequestMsg
  dsimp only at hsound ⊢
  by_cases hformat : (readAuthnRequest cx text).format = .unknown ∨
      (readAuthnRequest cx text).format = .error
  · rw [if_pos hformat, if_pos hformat]
    exact h
  · rw [if_neg hformat, if_neg hformat]
    obtain ⟨hunknown, herror⟩ := not_or.mp hformat
    rintro o ho hrequired
    cases ho
    specialize hsound hunknown herror hrequired
    split_ifs at hsound with hsupported
    · obtain ⟨hflag, p, hp, hkeys, hverify⟩ := hsound
      refine .inl ⟨hflag, p, hp, ?_⟩
      obtain ⟨text', htext, hmsg⟩ :=
        (Provider.verifySignature_eq_ok hflag hverify).resolve_left hkeys
      cases htext
      exact hmsg
    · have hunsupported : isSupported s.login.profile.server (readAuthnRequest cx text).node =
          false := by simpa using hsupported
      let login := { s.login with
        profile := storeAuthnRequest s.login.profile (readAuthnRequest cx text).node }
      have hrequest : login.profile.request =
          some (.libAuthnRequest (readAuthnRequest cx text).node) := rfl
      obtain ⟨hrequest, hresponse, hserver⟩ := processAuthnRequest_unsupported cx hrequest
        hunsupported (some (text, (readAuthnRequest cx text).format))
      exact .inr ⟨hresponse.trans hsound, _, hrequest, hserver⟩

/-- One event keeps the invariant. -/
theorem inv_step (h : s.Inv cx) (e : GateEvent) (hsound : s.Sound cx e) : (s.step cx e).Inv cx := by
  cases e with
  | process msg =>
    cases msg with
    | some text => exact inv_message h hsound
    | none =>
      intro o ho hrequired
      rcases h o ho hrequired with hverified | ⟨hresponse, request, hrequest, hserver⟩
      · exact .inl hverified
      · obtain ⟨hrequest', hresponse', hserver'⟩ :=
          processAuthnRequest_unsupported cx hrequest hserver none
        exact .inr ⟨hresponse'.trans hresponse, request, hrequest', hserver'⟩
  | validate uniqueId authenticationResult isConsentObtained =>
    intro o ho hrequired
    have hkeeps := validateRequestMsg_keepsRequest uniqueId s.login authenticationResult
      isConsentObtained
    rcases h o ho hrequired with hverified | ⟨hresponse, request, hrequest, hserver⟩
    · exact .inl hverified
    · refine .inr ⟨hkeeps.response hresponse, request, hkeeps.request.trans hrequest, ?_⟩
      exact (congrArg (isSupported · request) hkeeps.server).trans hserver

end

/-! ## A request with a bad signature -/

def requestXml : XmlNode :=
  .element (some samlProtocolHref) "Request" [{ name := "RequestID", value := "_q" }]
    [.element (some xmlSecDSigNs) "Signature" [] []]

/-- Every posted message is a request of the provider `https://sp.example`, and every signature is
refused. -/
def postedCx : Context :=
  { Context.refusing with
    base64Decode := fun _ _ => (3, "<m>".toList)
    parseMemory := fun _ => some requestXml
    libAuthnRequest := { NodeClass.refusing with
      initFromXml := fun _ _ => (.ok, {
        providerId := some "https://sp.example"
        nameIdPolicy := some libNameidPolicyTypeOneTime }) } }

def requester : Provider where
  providerId := some "https://sp.example"
  publicKey := some "sp.pem"
  signingPublicKeys := [⟨.rsa, "k".toList⟩]

/-- An identity provider that knows the requester and insists on signatures. -/
def forcingRun : GateRun where
  login := { profile := {
    server := some (Server.addProvider {
        provider := {
          providerId := some "https://idp.example"
          descriptors := (∅ : AList _).insert "idp SingleSignOnProtocolProfile"
            [libProtocolProfileBrwsArt] } }
      requester).2
    signatureVerifyHint := .force } }

/-- The context in which every signature verifies. -/
def signedCx : Context :=
  { postedCx with dsigVerify := fun _ _ => .succeeded [some "#_q"] }

end GateRun

end Lasso.IdFf
