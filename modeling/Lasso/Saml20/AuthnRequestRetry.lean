import Lasso.Library.Run
import Lasso.Saml20.AuthnRequest
import Lasso.Saml20.RequestOrigin

/-!
# Retrying an authentication request

After a failed call the identity provider may call again without a message, to go on with the
stored request, for example once the provider that was missing is known. The second call trusts
the signature status that the first one left, which is zero although nothing was verified when the
issuer was unknown, and also when an unreadable message has come in between.
-/

namespace Lasso.Saml20

open Run

/-- A login of an identity provider in a run: whether the last call failed, and where the stored
request comes from. -/
structure AuthnRun where
  login : Login
  failed : Bool := false
  origin : Option Origin := none

inductive AuthnEvent where
  /-- `lasso_saml20_login_process_authn_request_msg` -/
  | process (authnRequestMsg : Option Bytes)
  /-- `lasso_server_add_provider` -/
  | addProvider (p : Provider)

namespace AuthnRun

/-- The origin of the stored request after a call. -/
def originAfter (cx : Context) (s : AuthnRun) : Option Bytes → Option Origin
  | none => s.origin
  | some text =>
    trackOrigin (·.toSamlp2RequestAbstract) s.login.profile (readAuthnRequest cx text) text s.origin

def step (cx : Context) (s : AuthnRun) : AuthnEvent → AuthnRun
  | .process msg =>
    { login := (processAuthnRequestMsg cx s.login msg).2
      failed := (processAuthnRequestMsg cx s.login msg).1 ≠ .ok
      origin := s.originAfter cx msg }
  | .addProvider p =>
    { s with login := { s.login with profile := { s.login.profile with
        server := s.login.profile.server.map fun server => (server.addProvider p).2 } } }

/-- A call without a message is a retry after a failed one. -/
def Permitted (s : AuthnRun) : AuthnEvent → Prop
  | .process none => s.failed = true
  | _ => True

/-- At the start no request from a message is stored. -/
def Starts (s : AuthnRun) : Prop := s.origin = none

/-- A call that returns zero where verification is required has a verified message. -/
def Gate (cx : Context) (s : AuthnRun) (msg : Option Bytes) : Prop :=
  (processAuthnRequestMsg cx s.login msg).1 = .ok →
    mustVerifyAuthnRequestSignature (processAuthnRequestMsg cx s.login msg).2.profile = true →
      ∀ o ∈ s.originAfter cx msg, ∃ p ∈ o.issuer, p.ReceivedVerified cx.toEnv o.msg

/-- The profile that a call decides on. -/
def askedProfile (cx : Context) (s : AuthnRun) : Option Bytes → Profile
  | none => s.login.profile
  | some text =>
    match (readAuthnRequest cx text).node.issuer with
    | none => s.login.profile
    | some issuer => { s.login.profile with remoteProviderId := issuer.content }

/-- If verification is required, then it is enabled and a key is needed for the message; and a
retry is for a message with a known issuer whose verdict is still there. -/
def Sound (cx : Context) (s : AuthnRun) (msg : Option Bytes) : Prop :=
  mustVerifyAuthnRequestSignature (s.askedProfile cx msg) = true →
    cx.verifySignatureFlag = true ∧
      match msg with
      | some text =>
        ∀ p ∈ issuerProvider s.login.profile
            (readAuthnRequest cx text).node.toSamlp2RequestAbstract,
          ¬ p.acceptsUnchecked cx.toEnv ((readAuthnRequest cx text).received text)
      | none => ∀ o ∈ s.origin, o.current = true ∧
          ∃ p ∈ o.issuer, ¬ p.acceptsUnchecked cx.toEnv o.msg

section

variable {cx : Context} {s : AuthnRun}

/-- What the run keeps: a zero status is the verdict on the stored message. -/
def Inv (cx : Context) (s : AuthnRun) : Prop :=
  StatusTracked cx.toEnv s.login.profile.signatureStatus s.origin

theorem inv_of_starts (h : s.Starts) : s.Inv cx := by
  intro o ho
  rw [h] at ho
  cases ho

theorem processAuthnRequestMsg_status (cx : Context) (login : Login) (text : Bytes) :
    (processAuthnRequestMsg cx login (some text)).2.profile.signatureStatus =
      (processAnyAuthnRequest cx login.profile text).2.signatureStatus := by
  rw [processAuthnRequestMsg_some]
  split_ifs
  · exact (processAuthnRequest_spec cx _).1.1
  · rfl

/-- One event keeps the invariant. -/
theorem inv_step (h : s.Inv cx) (e : AuthnEvent) : (s.step cx e).Inv cx := by
  cases e with
  | addProvider p => exact h
  | process msg =>
    cases msg with
    | none =>
      intro o ho p hp hcurrent hstatus
      have hsame : (processAuthnRequestMsg cx s.login none).2.profile.signatureStatus =
          s.login.profile.signatureStatus := (processAuthnRequest_spec cx s.login).1.1
      exact h o ho p hp hcurrent (hsame.symm.trans hstatus)
    | some text =>
      unfold Inv step
      dsimp only
      rw [processAuthnRequestMsg_status]
      exact processAnyRequest_tracked _ _ text h

/-- The retry of a request whose verdict is still there. -/
theorem gate_retry (h : s.Inv cx) (hsound : s.Sound cx none) : s.Gate cx none := by
  intro hrc hmust o ho
  obtain ⟨⟨-, hsame⟩, hverdict⟩ := processAuthnRequest_spec cx s.login
  have hrequired := hsame.symm.trans hmust
  obtain ⟨hflag, hretry⟩ := hsound hrequired
  obtain ⟨hcurrent, p, hp, hkey⟩ := hretry o ho
  have hverified := h o ho p hp hcurrent (hverdict hrc hrequired)
  exact ⟨p, hp, (Provider.verifyReceived_eq_ok hflag hverified).resolve_left hkey⟩

/-- The call with a message. -/
theorem gate_message {text : Bytes} (hsound : s.Sound cx (some text)) :
    s.Gate cx (some text) := by
  intro hrc hmust o ho
  have hread : (processAnyAuthnRequest cx s.login.profile text).1 = .ok := by
    by_contra hne
    rw [processAuthnRequestMsg_some, if_neg hne] at hrc
    exact hne hrc
  rw [processAuthnRequestMsg_some, if_pos hread] at hrc hmust
  cases processAnyAuthnRequest_outcome cx s.login.profile text with
  | unreadable _ hne | noIssuer _ _ _ hne | unknownIssuer _ _ _ _ hne => exact absurd hread hne
  | verified method hmethod issuer hissuer p _ hprofile hprovider =>
    obtain ⟨⟨-, hsame⟩, hverdict⟩ := processAuthnRequest_spec cx
      { s.login with profile := (processAnyAuthnRequest cx s.login.profile text).2 }
    have hrequired := hsame.symm.trans hmust
    have hstatus := hverdict hrc hrequired
    rw [hprofile] at hrequired hstatus
    have hasked : s.askedProfile cx (some text) =
        { s.login.profile with remoteProviderId := issuer.content } := by
      rw [askedProfile, hissuer]
    obtain ⟨hflag, hkey⟩ := hsound (by rw [hasked]; exact hrequired)
    rw [originAfter, trackOrigin_stored hmethod] at ho
    cases ho
    exact ⟨p, hprovider, (Provider.verifyReceived_eq_ok hflag hstatus).resolve_left
      (hkey p hprovider)⟩

end

/-! ## A request from an unknown provider -/

def requestXml : XmlNode :=
  .element (some saml2ProtocolHref) "AuthnRequest" [{ name := "ID", value := "_1" }]
    [.element (some xmlSecDSigNs) "Signature" [] []]

/-- Every posted message is the request `_1` of the provider `https://sp.example`, and every
signature is refused. -/
def postedCx : Context :=
  { Context.refusing with
    base64Decode := fun _ _ => (3, "<m>".toList)
    parseMemory := fun _ => some requestXml
    samlp2AuthnRequestInitFromXml := fun r _ =>
      (.ok, { r with id := some "_1", issuer := some { content := some "https://sp.example" } }) }

def requester : Provider where
  providerId := some "https://sp.example"
  conformance := .saml20
  publicKey := some "sp.pem"
  signingPublicKeys := [⟨.rsa, "k".toList⟩]
  endpoints := [{
    role := .sp
    kind := "AssertionConsumerService"
    binding := saml2MetadataBindingPost
    url := "https://sp.example/acs"
    index := 0 }]

/-- An identity provider that requires signatures, and the providers it knows. -/
def forcingRun (providers : List Provider) : AuthnRun where
  login := { profile := {
    server := some (providers.foldl (fun server p => (server.addProvider p).2)
      { provider := { providerId := some "https://idp.example", conformance := .saml20 } })
    signatureVerifyHint := .force } }

/-- The context in which every signature verifies. -/
def signedCx : Context :=
  { postedCx with dsigVerify := fun _ _ => .succeeded [some "#_1"] }

end AuthnRun

end Lasso.Saml20
