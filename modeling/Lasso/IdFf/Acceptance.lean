import Lasso.IdFf.Response

/-!
# What an accepted ID-FF 1.2 response guarantees

The common end of the two entry points returns zero for a response without assertions, and looks at
the Issuer of the first assertion only when the signature of the response is not verified.
-/

namespace Lasso.IdFf

/-- What the service provider relies on once a response is accepted, where `responseVerified` says
that a provider's key verifies the signature of the response itself. -/
def ResponseTrusted (cx : Context) (responseVerified : Provider → Prop) (login : Login) : Prop :=
  ∃ response a rest p nameIdentifier,
    login.profile.response = some (.samlpResponse response) ∧
    Status.topLevel response.status = some samlStatusCodeSuccess ∧
    response.assertion = a :: rest ∧
    (∀ requestId ∈ login.requestId, a.inResponseTo = some requestId) ∧
    a.issuer.isSome ∧ a.issuer = login.profile.remoteProviderId ∧
    login.profile.remoteProvider = some p ∧
    (cx.verifySignatureFlag = true ∧ (responseVerified p ∨
      ∃ node ∈ a.originalXmlnode, p.NodeVerified cx.toEnv (.ofRoot node))) ∧
    login.profile.nameIdentifier = some (.samlNameIdentifier nameIdentifier) ∧
    ∃ statement ∈ statements a, statement.nameIdentifier = some nameIdentifier

/-- Verification is enabled, the response has an assertion, which is of the remote provider where
nothing checks it, and the remote provider has more than a certificate chain. -/
def Acceptable (cx : Context) (profile : Profile) (response : SamlpResponse) : Prop :=
  cx.verifySignatureFlag = true ∧ ∃ a rest, response.assertion = a :: rest ∧
    (profile.signatureStatus = .ok → a.issuer = profile.remoteProviderId) ∧
    ∀ p ∈ profile.remoteProvider, ¬ p.chainOnly cx.toEnv

/-- The provider that a posted response names. -/
def issuerProvider (cx : Context) (login : Login) (text : Bytes) : Option Provider :=
  login.profile.server.bind (·.getProvider (readAuthnResponse cx text).node.providerId)

/-- The profile in which a posted response with a good signature is looked at. -/
def postedProfile (cx : Context) (login : Login) (text : Bytes) : Profile :=
  { login.profile with
    remoteProviderId := (readAuthnResponse cx text).node.providerId
    signatureStatus := .ok }

/-- The profile in which a response to an artifact is looked at. -/
def artifactProfile (cx : Context) (login : Login) (response : SamlpResponse) : Profile :=
  { login.profile with signatureStatus := artifactSignatureStatus cx login.profile response }

section

variable {cx : Context} {login : Login}

theorem remoteProviderId_isSome {profile : Profile} {p : Provider}
    (h : profile.remoteProvider = some p) : profile.remoteProviderId.isSome := by
  obtain ⟨server, -, hserver⟩ := Option.bind_eq_some_iff.mp h
  cases hid : profile.remoteProviderId with
  | none => simp [hid] at hserver
  | some id => rfl

theorem acceptAssertion_eq_ok {a : SamlAssertion} (h : (acceptAssertion cx login a).1 = .ok) :
    ∃ idp nameIdentifier signatureStatus, login.profile.remoteProvider = some idp ∧
      (∀ requestId ∈ login.requestId, a.inResponseTo = some requestId) ∧
      verifyAssertion cx login.profile idp a = (.ok, signatureStatus) ∧
      statementNameIdentifier a = some nameIdentifier ∧
      (acceptAssertion cx login a).2 = { login with
        profile := { login.profile with
          signatureStatus := signatureStatus
          nameIdentifier := some (.samlNameIdentifier nameIdentifier) } } := by
  unfold acceptAssertion at h ⊢
  split at h
  · cases h
  · rename_i idp hidp
    by_cases hrequest : login.requestId.isSome ∧
        ¬ (a.isLibAssertion ∧ a.inResponseTo = login.requestId)
    · rw [if_pos hrequest] at h
      cases h
    · rw [if_neg hrequest] at h ⊢
      have hid : ∀ requestId ∈ login.requestId, a.inResponseTo = some requestId := by
        intro requestId hid
        rw [Option.mem_def] at hid
        simp only [hid, Option.isSome_some, true_and, not_not] at hrequest
        exact hrequest.2
      rcases hverify : verifyAssertion cx login.profile idp a with ⟨rc, signatureStatus⟩
      simp only [hverify] at h ⊢
      by_cases hrc : rc = .ok
      · subst hrc
        rw [if_neg (by simp)] at h ⊢
        split at h
        · cases h
        · rename_i nameIdentifier hname
          exact ⟨idp, nameIdentifier, signatureStatus, hidp, hid, hverify, hname, rfl⟩
      · rw [if_pos hrc] at h
        exact absurd h hrc

/-- A response is accepted without assertion or for its first one. -/
theorem processResponse_eq_ok (h : (processResponseStatusAndAssertion cx login).1 = .ok) :
    ∃ response, login.profile.response = some (.samlpResponse response) ∧
      Status.topLevel response.status = some samlStatusCodeSuccess ∧
      ((response.assertion = [] ∧ (processResponseStatusAndAssertion cx login).2 = login) ∨
        ∃ a rest, response.assertion = a :: rest ∧ (acceptAssertion cx login a).1 = .ok ∧
          (processResponseStatusAndAssertion cx login).2 = (acceptAssertion cx login a).2) := by
  unfold processResponseStatusAndAssertion at h ⊢
  split at h
  · rename_i response hresponse
    split at h
    · cases h
    · rename_i statusValue hstatus
      by_cases hvalue : statusValue = samlStatusCodeSuccess
      · rw [if_neg (by simpa using hvalue)] at h ⊢
        refine ⟨response, hresponse, hvalue ▸ hstatus, ?_⟩
        split at h
        · exact .inl ⟨by assumption, rfl⟩
        · rename_i a rest hassertion
          exact .inr ⟨a, rest, hassertion, h, rfl⟩
      · rw [if_pos hvalue] at h
        exact absurd h (responseStatusError_ne_ok _ _ _ _)
  · cases h

/-- An assertion that is checked is of the remote provider and signed by it, as far as the provider
has keys. -/
theorem verifyAssertion_eq_ok {idp : Provider} {a : SamlAssertion} {signatureStatus : Rc}
    (hflag : cx.verifySignatureFlag = true) (hstatus : login.profile.signatureStatus ≠ .ok)
    (h : verifyAssertion cx login.profile idp a = (.ok, signatureStatus)) :
    a.issuer.isSome ∧ a.issuer = login.profile.remoteProviderId ∧
      (idp.chainOnly cx.toEnv ∨
        ∃ node ∈ a.originalXmlnode, idp.NodeVerified cx.toEnv (.ofRoot node)) := by
  unfold verifyAssertion at h
  rw [if_neg hstatus] at h
  split at h
  · cases h
  · rename_i node hnode
    have hissuer := a.issuer_eq node hnode
    split at h
    · cases h
    · rename_i issuer hprop
      rw [hprop] at hissuer
      by_cases hremote : some issuer = login.profile.remoteProviderId
      · rw [if_neg (by simpa using hremote)] at h
        refine ⟨by simp [← hissuer], hissuer ▸ hremote, ?_⟩
        rcases Provider.verifySamlSignature_eq_ok hflag (Prod.mk.inj h).1 with
          ⟨hchain, -⟩ | hverified
        · exact .inl hchain
        · exact .inr ⟨node, hnode, hverified⟩
      · rw [if_pos hremote] at h
        cases h

/-- The common end keeps the trust exactly for acceptable responses, if a zero signature status
means that the response itself is verified. -/
theorem statusAndAssertion_trusted_iff {responseVerified : Provider → Prop}
    (hkeys : ∀ p, responseVerified p → p.keyless = false)
    (hverified : cx.verifySignatureFlag = true → login.profile.signatureStatus = .ok →
      ∀ p ∈ login.profile.remoteProvider, p.chainOnly cx.toEnv ∨ responseVerified p)
    (hok : (processResponseStatusAndAssertion cx login).1 = .ok) :
    ResponseTrusted cx responseVerified (processResponseStatusAndAssertion cx login).2 ↔
      ∃ response, login.profile.response = some (.samlpResponse response) ∧
        Acceptable cx login.profile response := by
  obtain ⟨response, hresponse, hsuccess, ⟨hnil, hlogin⟩ | ⟨a, rest, hcons, haccept, hlogin⟩⟩ :=
    processResponse_eq_ok hok
  · rw [hlogin]
    constructor
    · rintro ⟨response', a, rest, _, _, hresponse', -, hcons, -⟩
      cases hresponse.symm.trans hresponse'
      rw [hnil] at hcons
      cases hcons
    · rintro ⟨response', hresponse', -, a, rest, hcons, -⟩
      cases hresponse.symm.trans hresponse'
      rw [hnil] at hcons
      cases hcons
  · obtain ⟨idp, nameIdentifier, signatureStatus, hidp, hid, hverify, hname, hresult⟩ :=
      acceptAssertion_eq_ok haccept
    rw [hlogin, hresult]
    constructor
    · rintro ⟨response', a', rest', p, _, hresponse', -, hcons', -, -, hissuer, hp,
        ⟨hflag, hsigned⟩, -⟩
      cases hresponse.symm.trans hresponse'
      refine ⟨response, hresponse, hflag, a', rest', hcons', fun _ => hissuer, ?_⟩
      intro p' hp' hchain
      obtain rfl : p = p' := Option.some.inj (hp.symm.trans hp')
      have hkeyless : p.keyless = false := by
        rcases hsigned with hresponse | ⟨node, -, hnode⟩
        · exact hkeys p hresponse
        · exact hnode.keyless
      exact absurd (hkeyless.symm.trans hchain.1) (by decide)
    · rintro ⟨response', hresponse', hflag, a', rest', hcons', hissuer, hchain⟩
      cases hresponse.symm.trans hresponse'
      cases hcons.symm.trans hcons'
      have hnot : ¬ idp.chainOnly cx.toEnv := hchain idp hidp
      have hissuer' : a.issuer.isSome ∧ a.issuer = login.profile.remoteProviderId ∧
          (responseVerified idp ∨
            ∃ node ∈ a.originalXmlnode, idp.NodeVerified cx.toEnv (.ofRoot node)) := by
        by_cases hstatus : login.profile.signatureStatus = .ok
        · refine ⟨?_, hissuer hstatus, .inl ((hverified hflag hstatus idp hidp).resolve_left hnot)⟩
          rw [hissuer hstatus]
          exact remoteProviderId_isSome hidp
        · obtain ⟨hsome, hremote, hsigned⟩ := verifyAssertion_eq_ok hflag hstatus hverify
          exact ⟨hsome, hremote, .inr (hsigned.resolve_left hnot)⟩
      obtain ⟨hsome, hremote, hsigned⟩ := hissuer'
      exact ⟨response, a, rest, idp, nameIdentifier, hresponse, hsuccess, hcons, hid, hsome,
        hremote, hidp, ⟨hflag, hsigned⟩, rfl, List.exists_of_findSome?_eq_some hname⟩

/-- The end of a posted response that is accepted: its signature status is zero. -/
theorem processAuthnResponseMsg_eq_ok {text : Bytes}
    (hok : (processAuthnResponseMsg cx login text).1 = .ok) :
    ∃ relayState : Option String, ∃ p,
      issuerProvider cx login text = some p ∧
      p.verifySignature cx.toEnv (some text) (some "ResponseID")
        (readAuthnResponse cx text).format = .ok ∧
      processAuthnResponseMsg cx login text = processResponseStatusAndAssertion cx { login with
        profile := { postedProfile cx login text with
          response := some (.samlpResponse (readAuthnResponse cx text).node)
          msgRelayState := relayState } } := by
  unfold processAuthnResponseMsg at hok ⊢
  dsimp only at hok ⊢
  by_cases hformat : (readAuthnResponse cx text).format = .unknown ∨
      (readAuthnResponse cx text).format = .error
  · rw [if_pos hformat] at hok
    cases hok
  · rw [if_neg hformat] at hok ⊢
    split at hok
    · cases hok
    · rename_i p hp
      by_cases hstatus : p.verifySignature cx.toEnv (some text) (some "ResponseID")
          (readAuthnResponse cx text).format = .ok
      · rw [if_neg (by simpa using hstatus)] at hok ⊢
        refine ⟨(readAuthnResponse cx text).node.relayState, p, hp, hstatus, ?_⟩
        simp only [hstatus, postedProfile]
      · rw [if_pos hstatus] at hok
        exact absurd hok hstatus

theorem artifactSignatureStatus_eq_ok {profile : Profile} {response : SamlpResponse}
    (hflag : cx.verifySignatureFlag = true)
    (h : artifactSignatureStatus cx profile response = .ok) :
    ∀ p ∈ profile.remoteProvider, p.chainOnly cx.toEnv ∨
      ∃ node ∈ response.originalXmlnode, p.NodeVerified cx.toEnv (.ofRoot node) := by
  intro p hp
  unfold artifactSignatureStatus at h
  split at h
  · rename_i node _ hnode _
    rw [Option.mem_def] at hp
    simp only [hp] at h
    rcases Provider.verifySamlSignature_eq_ok hflag h with ⟨hchain, -⟩ | hverified
    · exact .inl hchain
    · exact .inr ⟨node, hnode, hverified⟩
  · cases h

theorem processResponseMsg_eq_ok {text : Bytes} {response : SamlpResponse}
    (hresponse : cx.newFromSoap text = some (.samlpResponse response))
    (hok : (processResponseMsg cx login text).1 = .ok) :
    processResponseMsg cx login text = processResponseStatusAndAssertion cx { login with
      profile := { artifactProfile cx login response with
        response := some (.samlpResponse response) } } := by
  unfold processResponseMsg at hok ⊢
  rw [hresponse] at hok ⊢
  by_cases hanswer : ((login.profile.request.isSome || cx.strictChecking) &&
      answersAnotherRequest login.profile.request response) = true
  · simp only [hanswer, if_true] at hok
    cases hok
  · simp only [hanswer]
    rfl

end

/-! ## A response without assertion -/

/-- A signed response of `https://idp.example`. -/
def responseXml : XmlNode :=
  .element (some samlProtocolHref) "Response" [{ name := "ResponseID", value := "_r" }]
    [.element (some xmlSecDSigNs) "Signature" [] []]

def successResponse (assertions : List SamlAssertion) : SamlpResponse where
  providerId := some "https://idp.example"
  status := some { statusCode := some { value := some samlStatusCodeSuccess } }
  assertion := assertions
  originalXmlnode := some responseXml

def aliceAssertion : SamlAssertion where
  issuer := some "https://idp.example"
  isLibAssertion := true
  authenticationStatement :=
    some { subject := some { nameIdentifier := some { content := some "alice" } } }

/-- Every posted message, and every answer to an artifact, is a signed response with the given
assertions; its signature verifies. -/
def responseCx (assertions : List SamlAssertion) : Context :=
  { Context.refusing with
    base64Decode := fun _ _ => (3, "<m>".toList)
    parseMemory := fun text =>
      if text = "<m>".toList then some responseXml
      else some (.element (some soapEnvHref) "Envelope" []
        [.element (some soapEnvHref) "Body" [] [responseXml]])
    dsigVerify := fun _ _ => .succeeded [some "#_r"]
    newFromXmlNode := fun _ => some (.samlpResponse (successResponse assertions))
    libAuthnResponse := { NodeClass.refusing with
      initFromXml := fun _ _ => (.ok, successResponse assertions) } }

/-- A service provider that knows the identity provider with its key. -/
def idpLogin : Login where
  profile := {
    server := some (Server.addProvider { provider := { providerId := some "https://sp.example" } } {
      providerId := some "https://idp.example"
      publicKey := some "idp.pem"
      signingPublicKeys := [⟨.rsa, "k".toList⟩] }).2
    remoteProviderId := some "https://idp.example" }

end Lasso.IdFf
