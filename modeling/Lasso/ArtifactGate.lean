import Lasso.IdFf.Artifact
import Lasso.Library.Run
import Lasso.Provider.SoapWrapping
import Lasso.Saml20.Artifact

/-!
# The signature gate of artifacts

`processRequestMsg` and `buildResponseMsg` dispatch on the protocol of the server. Between the two
calls the application stores what the artifact stands for. A response of ID-FF has it only for a
provider that has verified the request. A response of SAML 2.0 has it for every readable request,
so that the application must not build one after the first call has failed.
-/

namespace Lasso

open Run

namespace Login

/-- `lasso_login_process_request_msg` -/
def processRequestMsg (cx : Context) (login : Login) (requestMsg : Option Bytes) : Rc × Login :=
  match requestMsg with
  | none => (.param .invalidValue, login)
  | some requestMsg =>
    if login.profile.isSaml2 then Saml20.Login.processRequestMsg cx login requestMsg
    else IdFf.Login.processRequestMsg cx login requestMsg

/-- `lasso_login_build_response_msg`. SAML 2.0 does not look at the argument. -/
def buildResponseMsg (cx : Context) (login : Login) (remoteProviderId : Option String) :
    Rc × Login :=
  if login.profile.isSaml2 then Saml20.Login.buildResponseMsg cx login
  else IdFf.Login.buildResponseMsg cx login remoteProviderId

/-- The provider that a response is built for. -/
def responseProvider (login : Login) (remoteProviderId : Option String) : Option Provider :=
  if login.profile.isSaml2 then login.profile.remoteProvider
  else login.profile.server.bind (·.getProvider remoteProviderId)

end Login

/-- A login in a run, and the last message that it was given. -/
structure ArtifactRun where
  login : Login
  received : Option Bytes := none

inductive ArtifactEvent where
  /-- `lasso_login_process_request_msg` -/
  | process (requestMsg : Option Bytes)
  /-- `lasso_profile_set_artifact_message` -/
  | setArtifactMessage (message : Option Bytes)
  /-- `lasso_profile_set_session_from_dump` -/
  | setSession (session : Option Session)
  /-- `lasso_login_build_response_msg` -/
  | build (remoteProviderId : Option String)

namespace ArtifactRun

def step (cx : Context) (s : ArtifactRun) : ArtifactEvent → ArtifactRun
  | .process msg => { login := (s.login.processRequestMsg cx msg).2, received := msg.or s.received }
  | .setArtifactMessage artifactMessage =>
    { s with login := { s.login with profile := { s.login.profile with artifactMessage } } }
  | .setSession session =>
    { s with login := { s.login with profile := { s.login.profile with session } } }
  | .build remoteProviderId => { s with login := (s.login.buildResponseMsg cx remoteProviderId).2 }

/-- Any login that is not about LECP and, in SAML 2.0, is not told to ignore signatures. -/
def Starts (s : ArtifactRun) : Prop :=
  s.received = none ∧ s.login.protocolProfile ≠ .brwsLecp ∧
    (s.login.profile.isSaml2 = true → s.login.profile.signatureVerifyHint ≠ .ignore)

/-- The signature of the request in a SOAP message is verified with a key of a provider. -/
def RequestVerified (cx : Context) (text : Bytes) (p : Provider) : Prop :=
  ∃ root path content, cx.parseMemory text = some root ∧ root.getSoapContent = some path ∧
    NodeRef.at? root path = some content ∧ p.NodeVerified cx.toEnv content

/-- A response that is built has stored content in it only if the last message is verified with a
key of the provider that the response is for. -/
def Gate (cx : Context) (s : ArtifactRun) (remoteProviderId : Option String) : Prop :=
  ∀ text ∈ s.received, (s.login.buildResponseMsg cx remoteProviderId).1 = .ok →
    (s.login.buildResponseMsg cx remoteProviderId).2.profile.carriesContent = true →
      ∃ p ∈ s.login.responseProvider remoteProviderId, RequestVerified cx text p

/-- In SAML 2.0 the last message is an ArtifactResolve of a known provider, with a good verdict. -/
def Processed (profile : Profile) : Prop :=
  profile.signatureStatus = .ok ∧
    ∃ request, profile.request = some (.samlp2ArtifactResolve request) ∧
      (Saml20.issuerProvider profile request.toSamlp2RequestAbstract).isSome

/-- The provider of the response has a key to try, and there is no signed element in a Body that is
not the one of the envelope; in SAML 2.0 the last message was processed. -/
def Sound (cx : Context) (s : ArtifactRun) (remoteProviderId : Option String) : Prop :=
  (s.login.profile.isSaml2 = true → Processed s.login.profile) ∧
    ∀ text ∈ s.received, ∀ p ∈ s.login.responseProvider remoteProviderId,
      p.checksSignatures cx.toEnv ∧ ∀ root ∈ cx.parseMemory text, Provider.Unwrapped root

section

variable {cx : Context} {s : ArtifactRun}

/-- What belongs to the last message: in SAML 2.0 the verdict of its issuer, in ID-FF the copy. -/
def Tracked (cx : Context) (login : Login) (text : Bytes) : Prop :=
  login.profile.request = cx.newFromSoap text ∧
    if login.profile.isSaml2 then
      ∀ request, login.profile.request = some (.samlp2ArtifactResolve request) →
        ∀ p ∈ Saml20.issuerProvider login.profile request.toSamlp2RequestAbstract,
          login.profile.remoteProvider = some p ∧ login.profile.signatureStatus =
            p.verifySignature cx.toEnv (some text) (some "ID") .soap
    else
      login.profile.request.isSome →
        login.soapRequestMsg = some text ∨ login.soapRequestMsg = none

/-- What the run keeps. -/
structure Inv (cx : Context) (s : ArtifactRun) : Prop where
  hint : s.login.profile.isSaml2 = true → s.login.profile.signatureVerifyHint ≠ .ignore
  tracked : ∀ text ∈ s.received, Tracked cx s.login text

theorem requestVerified_of_ok {text : Bytes} {p : Provider} {idAttrName : Option String}
    (hread : (cx.newFromSoap text).isSome) (hchecks : p.checksSignatures cx.toEnv)
    (hunwrapped : ∀ root ∈ cx.parseMemory text, Provider.Unwrapped root)
    (h : p.verifySignature cx.toEnv (some text) idAttrName .soap = .ok) :
    RequestVerified cx text p := by
  obtain ⟨request, hrequest⟩ := Option.isSome_iff_exists.mp hread
  obtain ⟨root, hparse, hcontent⟩ := Option.bind_eq_some_iff.mp hrequest
  obtain ⟨node, hnode, -⟩ := Option.bind_eq_some_iff.mp hcontent
  obtain ⟨path, hpath, -⟩ := Option.bind_eq_some_iff.mp hnode
  obtain ⟨hsoap, b, hb⟩ := XmlNode.body_of_getSoapContent hpath
  obtain ⟨path', content, hpath', hcontent', hverified⟩ :=
    Provider.processed_of_verifySignature cx.toEnv hparse hsoap hb (hunwrapped root hparse)
      hchecks h
  exact ⟨root, path', content, hparse, hpath', hcontent', hverified⟩

theorem inv_of_starts (h : s.Starts) : s.Inv cx := by
  obtain ⟨hreceived, -, hhint⟩ := h
  refine ⟨hhint, fun text htext => ?_⟩
  rw [hreceived] at htext
  cases htext

/-- What a call that reads no message leaves in the login. -/
structure Keeps (before after : Login) : Prop where
  server : after.profile.server = before.profile.server
  request : after.profile.request = before.profile.request
  saml2 : before.profile.isSaml2 = true →
    after.profile.remoteProviderId = before.profile.remoteProviderId ∧
      after.profile.signatureStatus = before.profile.signatureStatus ∧
      after.profile.signatureVerifyHint = before.profile.signatureVerifyHint
  soapRequestMsg : after.soapRequestMsg = before.soapRequestMsg ∨ after.soapRequestMsg = none

theorem buildResponseMsg_keeps (cx : Context) (login : Login) (remoteProviderId : Option String) :
    Keeps login (login.buildResponseMsg cx remoteProviderId).2 := by
  unfold Login.buildResponseMsg
  split_ifs with hsaml
  · obtain ⟨response, hresponse⟩ := Saml20.buildArtifactResponse_eq cx login.profile
    simp only [Saml20.Login.buildResponseMsg, hresponse]
    exact ⟨rfl, rfl, fun _ => ⟨rfl, rfl, rfl⟩, .inl rfl⟩
  · have hkeeps := IdFf.Login.buildResponseMsg_keeps cx login remoteProviderId
    exact ⟨hkeeps.server, hkeeps.request, fun h => absurd h hsaml, hkeeps.soapRequestMsg⟩

theorem inv_of_keeps (h : s.Inv cx) {login : Login} (hkeeps : Keeps s.login login) :
    Inv cx { s with login := login } := by
  have hprotocol : login.profile.isSaml2 = s.login.profile.isSaml2 :=
    Profile.isSaml2_congr hkeeps.server
  refine ⟨fun hsaml => ?_, fun text htext => ?_⟩
  · have hsaml' : s.login.profile.isSaml2 = true := hprotocol.symm.trans hsaml
    obtain ⟨-, -, hhint⟩ := hkeeps.saml2 hsaml'
    dsimp only
    rw [hhint]
    exact h.hint hsaml'
  · obtain ⟨hrequest, htracked⟩ := h.tracked text htext
    refine ⟨hkeeps.request.trans hrequest, ?_⟩
    dsimp only
    rw [hprotocol, hkeeps.request]
    by_cases hsaml : s.login.profile.isSaml2 = true
    · rw [if_pos hsaml] at htracked ⊢
      obtain ⟨hremote, hstatus, -⟩ := hkeeps.saml2 hsaml
      intro request hread p hp
      rw [Saml20.issuerProvider_congr hkeeps.server] at hp
      obtain ⟨hprovider, hverdict⟩ := htracked request hread p hp
      refine ⟨?_, hstatus.trans hverdict⟩
      rw [Profile.remoteProvider, hkeeps.server, hremote]
      exact hprovider
    · rw [if_neg hsaml] at htracked ⊢
      intro hsome
      rcases hkeeps.soapRequestMsg with hcopy | hcopy
      · rw [hcopy]
        exact htracked hsome
      · exact .inr hcopy

/-- A message starts anew. -/
theorem inv_process (h : s.Inv cx) (msg : Option Bytes) : (s.step cx (.process msg)).Inv cx := by
  cases msg with
  | none => exact h
  | some text =>
    simp only [step, Login.processRequestMsg, Option.some_or]
    by_cases hsaml : s.login.profile.isSaml2 = true
    · rw [if_pos hsaml]
      have hout := Saml20.processArtifactResolve_outcome cx s.login.profile text
      rw [← Saml20.processRequestMsg_profile] at hout
      have hprotocol := (Profile.isSaml2_congr hout.server).trans hsaml
      refine ⟨fun _ => ?_, fun text' htext' => ?_⟩
      · dsimp only
        rw [hout.signatureVerifyHint]
        exact h.hint hsaml
      · obtain rfl := Option.some.inj htext'
        refine ⟨hout.request, ?_⟩
        dsimp only
        rw [if_pos hprotocol]
        intro request hread p hp
        rw [Saml20.issuerProvider_congr hout.server] at hp
        obtain ⟨hprovider, hverdict⟩ := hout.verdict request hread p hp
        exact ⟨hprovider, hverdict (h.hint hsaml)⟩
    · rw [if_neg hsaml]
      obtain ⟨hserver, hrequest, hcopy⟩ :=
        IdFf.Login.processRequestMsg_outcome cx s.login text
      have hprotocol :
          ¬ (IdFf.Login.processRequestMsg cx s.login text).2.profile.isSaml2 = true := by
        rwa [Profile.isSaml2_congr hserver]
      refine ⟨fun hsaml' => absurd hsaml' hprotocol, fun text' htext' => ?_⟩
      obtain rfl := Option.some.inj htext'
      refine ⟨hrequest, ?_⟩
      dsimp only
      rw [if_neg hprotocol]
      exact fun hsome => .inl (hcopy hsome)

/-- One event keeps the invariant. -/
theorem inv_step (h : s.Inv cx) (e : ArtifactEvent) : (s.step cx e).Inv cx := by
  cases e with
  | process msg => exact inv_process h msg
  | setArtifactMessage message =>
    exact inv_of_keeps h ⟨rfl, rfl, fun _ => ⟨rfl, rfl, rfl⟩, .inl rfl⟩
  | setSession session => exact inv_of_keeps h ⟨rfl, rfl, fun _ => ⟨rfl, rfl, rfl⟩, .inl rfl⟩
  | build remoteProviderId =>
    exact inv_of_keeps h (buildResponseMsg_keeps cx s.login remoteProviderId)

/-- Under the condition a build in a state with the invariant is backed by a signature. -/
theorem gate_of_inv (h : s.Inv cx) {remoteProviderId : Option String}
    (hsound : s.Sound cx remoteProviderId) : s.Gate cx remoteProviderId := by
  obtain ⟨hprocessed, hkeys⟩ := hsound
  intro text htext hrc hcarries
  obtain ⟨hread, htracked⟩ := h.tracked text htext
  by_cases hsaml : s.login.profile.isSaml2 = true
  · rw [if_pos hsaml] at htracked
    obtain ⟨hstatus, request, hrequest, hknown⟩ := hprocessed hsaml
    obtain ⟨p, hp⟩ := Option.isSome_iff_exists.mp hknown
    obtain ⟨hprovider, hverdict⟩ := htracked request hrequest p hp
    have hresponse : p ∈ s.login.responseProvider remoteProviderId := by
      rw [Login.responseProvider, if_pos hsaml]
      exact hprovider
    obtain ⟨hchecks, hunwrapped⟩ := hkeys text htext p hresponse
    refine ⟨p, hresponse, requestVerified_of_ok ?_ hchecks hunwrapped (hverdict.symm.trans hstatus)⟩
    rw [← hread, hrequest]
    rfl
  · rw [if_neg hsaml] at htracked
    unfold Login.buildResponseMsg at hrc hcarries
    rw [if_neg hsaml] at hrc hcarries
    obtain ⟨hsome, p, hp, hverdict⟩ := IdFf.Login.buildResponseMsg_carriesContent hrc hcarries
    have hresponse : p ∈ s.login.responseProvider remoteProviderId := by
      rw [Login.responseProvider, if_neg hsaml]
      exact hp
    obtain ⟨hchecks, hunwrapped⟩ := hkeys text htext p hresponse
    rcases htracked hsome with hcopy | hcopy
    · rw [hcopy] at hverdict
      refine ⟨p, hresponse, requestVerified_of_ok ?_ hchecks hunwrapped hverdict⟩
      rwa [← hread]
    · rw [hcopy] at hverdict
      simp [Provider.verifySignature, hchecks.1] at hverdict

/-- In every run, a response that is built in a state which meets the condition has stored content
in it only if the last message is verified with a key of the provider that the response is for. -/
theorem content_needs_signature (h : Reaches (step cx) (fun _ _ => True) Starts s)
    {remoteProviderId : Option String} (hsound : s.Sound cx remoteProviderId) :
    s.Gate cx remoteProviderId :=
  gate_of_inv (h.invariant (fun _ => inv_of_starts) fun _ e hi _ => inv_step hi e) hsound

end

/-! ## An artifact request with a bad signature -/

def artifactResolveXml : XmlNode :=
  .element (some soapEnvHref) "Envelope" [] [
    .element (some soapEnvHref) "Body" [] [
      .element (some saml2ProtocolHref) "ArtifactResolve" [{ name := "ID", value := "_r" }]
        [.element (some xmlSecDSigNs) "Signature" [] []]]]

/-- Every message is an artifact request of `https://sp.example`, and every signature is refused. -/
def resolvingCx : Context :=
  { Context.refusing with
    parseMemory := fun _ => some artifactResolveXml
    newFromXmlNode := fun _ => some (.samlp2ArtifactResolve {
      id := some "_r"
      issuer := some { content := some "https://sp.example" }
      artifact := some "AAQAAA==" }) }

def serviceProvider : Provider where
  providerId := some "https://sp.example"
  role := .sp
  conformance := .saml20
  publicKey := some "sp.pem"
  signingPublicKeys := [⟨.rsa, "k".toList⟩]

/-- An identity provider that insists on signatures. -/
def forcingRun : ArtifactRun where
  login := { profile := {
    server := some (Server.addProvider {
      provider := { providerId := some "https://idp.example", conformance := .saml20 } }
      serviceProvider).2
    signatureVerifyHint := .force } }

/-- The run after a request has come and its message was stored. -/
def resolvedRun (cx : Context) : ArtifactRun :=
  (forcingRun.step cx (.process (some "r".toList))).step cx (.setArtifactMessage (some "m".toList))

theorem reaches_resolvedRun (cx : Context) :
    Reaches (step cx) (fun _ _ => True) Starts (resolvedRun cx) :=
  .next _ (.next _ (.start ⟨rfl, by decide, fun _ => by decide⟩) trivial) trivial

/-- The code of the bad signature is returned, and the response has the stored message in it. -/
theorem bad_signature_resolves :
    ¬ ∀ (cx : Context) (s : ArtifactRun), Reaches (step cx) (fun _ _ => True) Starts s →
      ∀ remoteProviderId, s.Gate cx remoteProviderId := by
  intro h
  obtain ⟨p, -, _, _, content, -, -, -, hverified⟩ :=
    h resolvingCx _ (reaches_resolvedRun _) none _ rfl (by decide) (by decide)
  obtain ⟨-, _, -, _, _, _, _, _, haccepts⟩ := hverified
  cases haccepts

/-- The context in which every signature verifies. -/
def signedCx : Context :=
  { resolvingCx with dsigVerify := fun _ _ => .succeeded [some "#_r"] }

theorem content_needs_signature_serviceProvider :
    ((resolvedRun signedCx).login.buildResponseMsg signedCx none).2.profile.carriesContent = true ∧
      (resolvedRun signedCx).Gate signedCx none := by
  refine ⟨by decide, content_needs_signature (reaches_resolvedRun signedCx) ⟨fun _ => ?_, ?_⟩⟩
  · exact ⟨by decide, _, rfl, by decide⟩
  · intro text _ p hp
    obtain rfl : serviceProvider = p := Option.some.inj hp
    refine ⟨⟨rfl, _, rfl, by decide⟩, fun root hroot path node hstray => ?_⟩
    obtain rfl : artifactResolveXml = root := Option.some.inj hroot
    have hnone : artifactResolveXml.strayBodyChild = none := by decide
    rw [hnone] at hstray
    cases hstray

end ArtifactRun

end Lasso
