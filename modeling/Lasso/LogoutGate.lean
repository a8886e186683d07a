import Lasso.Library.Run
import Lasso.IdFf.Logout
import Lasso.Saml20.Logout

/-!
# The signature gate of logout requests

`processRequestMsg` and `validateRequest` dispatch on the protocol of the server. A run of them on a
new logout object removes an assertion for a request with a verified signature, if the validation
asks for the verdict: that of ID-FF does, that of SAML 2.0 does not, and the SAML 2.0 verdict is
lost besides when an unreadable message comes after the request.
-/

namespace Lasso

open Run

namespace Logout

/-- `lasso_logout_process_request_msg` -/
def processRequestMsg (cx : Context) (logout : Logout) (requestMsg : Option Bytes) : Rc × Logout :=
  match requestMsg with
  | none => (.param .invalidValue, logout)
  | some requestMsg =>
    if logout.profile.isSaml2 then Saml20.Logout.processRequestMsg cx logout requestMsg
    else IdFf.Logout.processRequestMsg cx logout requestMsg

/-- `lasso_logout_validate_request` -/
def validateRequest (cx : Context) (logout : Logout) : Rc × Logout :=
  if logout.profile.isSaml2 then Saml20.Logout.validateRequest cx logout
  else IdFf.Logout.validateRequest cx logout

end Logout

/-- A logout in a run, and where the stored request comes from. -/
structure LogoutRun where
  logout : Logout
  origin : Option Saml20.Origin := none

inductive LogoutEvent where
  /-- `lasso_logout_process_request_msg` -/
  | process (requestMsg : Option Bytes)
  /-- `lasso_logout_validate_request` -/
  | validate

namespace LogoutRun

/-- The origin of the stored request after a message. ID-FF stores a request for every message. -/
def originAfter (cx : Context) (s : LogoutRun) : Option Bytes → Option Saml20.Origin
  | none => s.origin
  | some text =>
    if s.logout.profile.isSaml2 then
      Saml20.trackOrigin (·.toSamlp2RequestAbstract) s.logout.profile
        (Saml20.Logout.readLogoutRequest cx text) text s.origin
    else
      let m := IdFf.Logout.readLogoutRequest cx text
      some { msg := m.received text, issuer := IdFf.Logout.issuerProvider s.logout.profile m.node }

def step (cx : Context) (s : LogoutRun) : LogoutEvent → LogoutRun
  | .process msg =>
    { logout := (s.logout.processRequestMsg cx msg).2, origin := s.originAfter cx msg }
  | .validate => { s with logout := (s.logout.validateRequest cx).2 }

/-- A new logout object has no request. -/
def Starts (s : LogoutRun) : Prop := s.logout.profile.request = none ∧ s.origin = none

/-- The signature of the message is verified with a key of its issuer. -/
def Verified (cx : Context) (s : LogoutRun) (o : Saml20.Origin) : Prop :=
  ∃ p ∈ o.issuer,
    if s.logout.profile.isSaml2 then p.ReceivedVerified cx.toEnv o.msg
    else p.MessageVerified cx.toEnv o.msg.text o.msg.format

/-- A validation removes an assertion only for a verified message. -/
def Gate (cx : Context) (s : LogoutRun) : Prop :=
  SessionLoses s.logout.profile.session (s.logout.validateRequest cx).2.profile.session →
    ∃ o ∈ s.origin, s.Verified cx o

/-- Verification is enabled, and needs a key for the message of the stored request; in SAML 2.0 its
verdict was good and is still there. -/
def Sound (cx : Context) (s : LogoutRun) : Prop :=
  cx.verifySignatureFlag = true ∧ ∀ o ∈ s.origin, ∀ p ∈ o.issuer,
    if s.logout.profile.isSaml2 then
      s.logout.profile.signatureStatus = .ok ∧ o.current = true ∧
        ¬ p.acceptsUnchecked cx.toEnv o.msg
    else
      ¬ (p.chainOnly cx.toEnv ∧ Provider.reachesKeys cx.toEnv (some o.msg.text) o.msg.format)

section

variable {cx : Context} {s : LogoutRun}

/-- In ID-FF the status is the verdict on the stored request, if it has a name identifier and its
issuer is known. -/
def LibTracked (cx : Context) (profile : Profile) (origin : Option Saml20.Origin) : Prop :=
  ∀ r, profile.request = some (.libLogoutRequest r) → r.nameIdentifier.isSome →
    ∀ p ∈ IdFf.Logout.issuerProvider profile r, ∃ o ∈ origin, o.issuer = some p ∧
      profile.signatureStatus =
        p.verifySignature cx.toEnv (some o.msg.text) (some "RequestID") o.msg.format

/-- The request, its origin and the verdict on it belong together. -/
def Tracked (cx : Context) (profile : Profile) (origin : Option Saml20.Origin) : Prop :=
  if profile.isSaml2 then
    Saml20.StatusTracked cx.toEnv profile.signatureStatus origin ∧
      Saml20.RequestTracked profile origin
  else LibTracked cx profile origin

/-- What the run keeps. -/
def Inv (cx : Context) (s : LogoutRun) : Prop := Tracked cx s.logout.profile s.origin

theorem inv_of_starts (h : s.Starts) : s.Inv cx := by
  obtain ⟨hrequest, horigin⟩ := h
  unfold Inv Tracked
  rw [horigin]
  split_ifs
  · refine ⟨?_, ?_⟩
    · rintro o ho
      cases ho
    · intro r hr
      simp [Saml20.requestAbstract, hrequest] at hr
  · intro r hr
    simp [hrequest] at hr

/-- A validation keeps the invariant, whatever it decides. -/
theorem tracked_of_keepsReceived {before after : Profile} {origin : Option Saml20.Origin}
    (h : Tracked cx before origin) (hkeeps : Logout.KeepsReceived before after) :
    Tracked cx after origin := by
  unfold Tracked at h ⊢
  rw [Profile.isSaml2_congr hkeeps.server]
  split_ifs at h ⊢
  · refine ⟨?_, ?_⟩
    · rw [hkeeps.signatureStatus]
      exact h.1
    · intro r hr
      rcases hkeeps.request with hrequest | hrequest
      · rw [Saml20.requestAbstract, hrequest] at hr
        obtain ⟨o, ho, hissuer⟩ := h.2 r hr
        exact ⟨o, ho, hissuer.trans (Saml20.issuerProvider_congr hkeeps.server r).symm⟩
      · simp [Saml20.requestAbstract, hrequest] at hr
  · intro r hr hnameIdentifier p hp
    rcases hkeeps.request with hrequest | hrequest
    · rw [IdFf.Logout.issuerProvider, hkeeps.server] at hp
      rw [hkeeps.signatureStatus]
      exact h r (hrequest.symm.trans hr) hnameIdentifier p hp
    · simp [hrequest] at hr

theorem validateRequest_keepsReceived (cx : Context) (logout : Logout) :
    Logout.KeepsReceived logout.profile (logout.validateRequest cx).2.profile := by
  unfold Logout.validateRequest
  split_ifs
  · exact (Saml20.Logout.validateRequest_outcome cx logout).keepsReceived
  · exact (IdFf.Logout.validateRequest_outcome cx logout).keepsReceived

/-- Reading a message keeps the invariant. -/
theorem inv_process (h : s.Inv cx) (msg : Option Bytes) : (s.step cx (.process msg)).Inv cx := by
  cases msg with
  | none => exact h
  | some text =>
    unfold Inv step originAfter Logout.processRequestMsg
    unfold Inv Tracked at h
    dsimp only
    by_cases hsaml : s.logout.profile.isSaml2 = true
    · rw [if_pos hsaml] at h ⊢
      have hserver := Saml20.Logout.processRequestMsg_server cx s.logout text
      rw [if_pos hsaml, Tracked, if_pos ((Profile.isSaml2_congr hserver).trans hsaml)]
      exact Saml20.Logout.processRequestMsg_tracked cx s.logout text h.1 h.2
    · rw [if_neg hsaml] at h ⊢
      have hstores := IdFf.Logout.processRequestMsg_stores cx s.logout text
      rw [if_neg hsaml, Tracked, if_neg (by rwa [Profile.isSaml2_congr hstores.server])]
      intro r hr hnameIdentifier p hp
      cases hstores.request.symm.trans hr
      rw [IdFf.Logout.issuerProvider, hstores.server] at hp
      exact ⟨_, rfl, hp, hstores.signatureStatus hnameIdentifier p hp⟩

/-- One event keeps the invariant. -/
theorem inv_step (h : s.Inv cx) (e : LogoutEvent) : (s.step cx e).Inv cx := by
  cases e with
  | process msg => exact inv_process h msg
  | validate => exact tracked_of_keepsReceived h (validateRequest_keepsReceived cx s.logout)

/-- Under the condition a validation in a state with the invariant is backed by a signature. -/
theorem gate_of_inv (h : s.Inv cx) (hsound : s.Sound cx) : s.Gate cx := by
  obtain ⟨hflag, hsound⟩ := hsound
  intro hloses
  unfold Inv Tracked at h
  unfold Logout.validateRequest at hloses
  unfold Verified
  by_cases hsaml : s.logout.profile.isSaml2 = true
  · rw [if_pos hsaml] at h hloses
    obtain ⟨request, p, hrequest, hknown⟩ :=
      (Saml20.Logout.validateRequest_outcome cx s.logout).conditions_of_loses hloses
    obtain ⟨o, ho, hissuer⟩ := h.2 request.toSamlp2RequestAbstract
      (by simp [Saml20.requestAbstract, hrequest])
    have hp : p ∈ o.issuer := hissuer.trans hknown
    obtain ⟨hstatus, hcurrent, hkeys⟩ := (if_pos hsaml).mp (hsound o ho p hp)
    have hverdict := h.1 o ho p hp hcurrent hstatus
    refine ⟨o, ho, p, hp, ?_⟩
    rw [if_pos hsaml]
    exact (Provider.verifyReceived_eq_ok hflag hverdict).resolve_left hkeys
  · rw [if_neg hsaml] at h hloses
    obtain ⟨hstatus, request, p, hrequest, hnameIdentifier, hknown⟩ :=
      (IdFf.Logout.validateRequest_outcome cx s.logout).conditions_of_loses hloses
    obtain ⟨o, ho, hp, hverdict⟩ := h request hrequest hnameIdentifier p hknown
    have hkeys := (if_neg hsaml).mp (hsound o ho p hp)
    refine ⟨o, ho, p, hp, ?_⟩
    rw [if_neg hsaml]
    obtain ⟨text, htext, hverified⟩ :=
      (Provider.verifySignature_eq_ok hflag (hverdict.symm.trans hstatus)).resolve_left hkeys
    cases htext
    exact hverified

end

/-! ## A request with a bad signature -/

def requestXml : XmlNode :=
  .element (some saml2ProtocolHref) "LogoutRequest" [{ name := "ID", value := "_l" }]
    [.element (some xmlSecDSigNs) "Signature" [] []]

/-- Every posted message is a request of `https://idp.example` to log out `alice`, and every
signature is refused. -/
def postedCx : Context :=
  { Context.refusing with
    base64Decode := fun _ _ => (3, "<m>".toList)
    parseMemory := fun _ => some requestXml
    samlp2LogoutRequestInitFromXml := fun r _ => (.ok, { r with
      id := some "_l"
      issuer := some { content := some "https://idp.example" }
      nameId := some { content := some "alice" } }) }

def identityProvider : Provider where
  providerId := some "https://idp.example"
  role := .idp
  conformance := .saml20
  publicKey := some "idp.pem"
  signingPublicKeys := [⟨.rsa, "k".toList⟩]

/-- The assertion by which `alice` has logged in. -/
def aliceAssertion : Saml2Assertion where
  id := some "_a"
  subject := some { nameId := some { content := some "alice" } }
  authnStatement := [{ sessionIndex := some "_s" }]

/-- A service provider that insists on signatures, with the session of `alice`. -/
def forcingRun : LogoutRun where
  logout := { profile := {
    server := some (Server.addProvider {
      provider := { providerId := some "https://sp.example", conformance := .saml20 } }
      identityProvider).2
    session := some (Session.addAssertion Env.refusing {} (some "https://idp.example")
      (.saml2Assertion aliceAssertion)).2
    signatureVerifyHint := .force } }

/-- The run after a request has come. -/
def requestedRun (cx : Context) : LogoutRun := forcingRun.step cx (.process (some "m".toList))

/-- The context in which every signature verifies. -/
def signedCx : Context :=
  { postedCx with dsigVerify := fun _ _ => .succeeded [some "#_l"] }

end LogoutRun

end Lasso
