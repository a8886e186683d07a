import Lasso.Provider.Keyless
import Lasso.Saml20.Response

/-!
# What an accepted response guarantees

The guarantees of `processResponseStatusAndAssertion`, for every assertion of the response and not
only for the one that is reported. The signatures are guaranteed exactly as far as the remote
provider has keys: the check of an assertion of a provider with a certificate chain alone passes
without a signature.
-/

namespace Lasso.Saml20

/-- The signature of the assertion itself is verified with a key of the remote provider. -/
def OwnSignatureVerified (cx : Context) (profile : Profile) (a : Saml2Assertion) : Prop :=
  ∃ p ∈ profile.remoteProvider, ∃ node ∈ a.originalXmlnode, p.NodeVerified cx.toEnv (.ofRoot node)

/-- What the service provider relies on for an assertion. -/
def Trusted (cx : Context) (login : Login) (a : Saml2Assertion) : Prop :=
  (∃ content, a.issuer.bind (·.content) = some content ∧
    login.profile.remoteProviderId = some content) ∧
  (∀ requestId ∈ login.requestId, a.getInResponseTo = some requestId) ∧
  (login.profile.signatureStatus = .ok ∨ OwnSignatureVerified cx login.profile a) ∧
  (login.profile.signatureVerifyHint = .force →
    login.profile.signatureStatus = .ok ∧ OwnSignatureVerified cx login.profile a)

/-- The response has succeeded, and it has assertions, which are all trusted. -/
def ResponseTrusted (cx : Context) (login accepted : Login) : Prop :=
  ∃ response, accepted.profile.response = some (.samlp2Response response) ∧
    Status.topLevel response.status = some saml2StatusCodeSuccess ∧
    response.assertion ≠ [] ∧ ∀ a ∈ response.assertion, Trusted cx login a

section

variable {cx : Context} {profile : Profile} {login : Login} {a : Saml2Assertion}

theorem checkAssertionIssuer_eq_true {providerId : Option String}
    (h : checkAssertionIssuer a providerId = true) :
    ∃ content, a.issuer.bind (·.content) = some content ∧ providerId = some content := by
  unfold checkAssertionIssuer at h
  split at h
  · rename_i content providerId hcontent
    obtain rfl : content = providerId := by simpa using h
    exact ⟨content, hcontent, rfl⟩
  · cases h

theorem checkAssertionSignature_eq_ok (hflag : cx.verifySignatureFlag = true)
    (hissuer : checkAssertionIssuer a profile.remoteProviderId = true)
    (h : checkAssertionSignature cx profile a = .ok) :
    (∃ p ∈ profile.remoteProvider, p.chainOnly cx.toEnv) ∨ OwnSignatureVerified cx profile a := by
  obtain ⟨content, hcontent, hremote⟩ := checkAssertionIssuer_eq_true hissuer
  unfold checkAssertionSignature at h
  split at h
  · cases h
  · rename_i server hserver
    split at h
    · cases h
    · rename_i remoteProviderId hid
      have hsame : remoteProviderId = content := by
        cases hi : a.issuer with
        | none => simp [hi] at hid
        | some issuer =>
          simp only [hi, Option.bind_some] at hid hcontent
          split_ifs at hid
          exact Option.some.inj (hid.symm.trans hcontent)
      split at h
      · cases h
      · rename_i p hp
        have hprovider : p ∈ profile.remoteProvider := by
          simp [Profile.remoteProvider, hserver, hremote, ← hsame, hp]
        split at h
        · cases h
        · rename_i node hnode
          rcases Provider.verifySamlSignature_eq_ok hflag h with ⟨hchain, -⟩ | hverified
          · exact .inl ⟨p, hprovider, hchain⟩
          · exact .inr ⟨p, hprovider, node, hnode, hverified⟩

/-- A provider with a certificate chain alone verifies no signature. -/
theorem not_ownSignatureVerified {p : Provider} (hp : p ∈ profile.remoteProvider)
    (hchain : p.chainOnly cx.toEnv) : ¬ OwnSignatureVerified cx profile a := by
  rintro ⟨p', hp', node, -, hverified⟩
  obtain rfl : p = p' := Option.some.inj (hp.symm.trans hp')
  exact absurd (hverified.keyless.symm.trans hchain.1) (by decide)

/-- An assertion that passes the checks of a response that passes is trusted, unless only a
certificate chain stands behind the signature that counts. -/
theorem trusted_of_checked (hflag : cx.verifySignatureFlag = true)
    (hhint : login.profile.signatureVerifyHint ≠ .ignore)
    (hresponse : checkResponseSignature login.profile = .ok)
    (hchecked : AssertionChecked cx login.requestId login.profile a)
    (hkeys : (login.profile.signatureVerifyHint = .maybe ∧ login.profile.signatureStatus = .ok) ∨
      ∀ p ∈ login.profile.remoteProvider, ¬ p.chainOnly cx.toEnv) :
    Trusted cx login a := by
  obtain ⟨hissuer, hsignatures, hrequest⟩ := hchecked
  have hown (hnot : ¬ (login.profile.signatureVerifyHint = .maybe ∧
      login.profile.signatureStatus = .ok))
      (h : checkAssertionSignature cx login.profile a = .ok) :
      OwnSignatureVerified cx login.profile a := by
    rcases checkAssertionSignature_eq_ok hflag hissuer h with ⟨p, hp, hchain⟩ | hverified
    · exact absurd hchain (hkeys.resolve_left hnot p hp)
    · exact hverified
  refine ⟨checkAssertionIssuer_eq_true hissuer, ?_, ?_, ?_⟩
  · intro requestId hid
    have := hrequest (by simp [Option.mem_def.mp hid])
    exact this.trans hid
  · by_cases hstatus : login.profile.signatureStatus = .ok
    · exact .inl hstatus
    · refine .inr (hown (fun h => hstatus h.2) ?_)
      cases hmode : login.profile.signatureVerifyHint with
      | ignore => exact absurd hmode hhint
      | maybe => simpa [checkSignatures, hstatus, hmode] using hsignatures
      | force =>
        rw [checkResponseSignature, if_neg (by simp [hmode])] at hresponse
        exact absurd hresponse hstatus
  · intro hforce
    rw [checkResponseSignature, if_neg (by simp [hforce])] at hresponse
    refine ⟨hresponse, hown (by simp [hforce]) ?_⟩
    simpa [checkSignatures, hresponse, hforce] using hsignatures

theorem withDecryptedSubject_getInResponseTo (keys : List SecKey) (a : Saml2Assertion) :
    (withDecryptedSubject cx keys a).getInResponseTo = a.getInResponseTo := by
  have hsubject (subject : Saml2Subject) :
      (decryptedSubject cx keys subject).subjectConfirmation = subject.subjectConfirmation := by
    unfold decryptedSubject
    split
    · split <;> rfl
    · rfl
  cases hs : a.subject <;>
    simp [Saml2Assertion.getInResponseTo, Saml2Assertion.getSubjectConfirmationData,
      withDecryptedSubject, hs, hsubject]

theorem trusted_withDecryptedSubject {keys : List SecKey} :
    Trusted cx login (withDecryptedSubject cx keys a) ↔ Trusted cx login a := by
  unfold Trusted
  rw [withDecryptedSubject_getInResponseTo]
  rfl

/-- With verification enabled and signatures not ignored, an accepted response is trusted in all
its assertions exactly when the signature of the response is good and signatures are optional, or
the remote provider has more than a certificate chain. -/
theorem processResponse_trusted_iff (hflag : cx.verifySignatureFlag = true)
    (hhint : login.profile.signatureVerifyHint ≠ .ignore)
    (hok : (processResponseStatusAndAssertion cx login).1 = .ok) :
    ResponseTrusted cx login (processResponseStatusAndAssertion cx login).2 ↔
      (login.profile.signatureVerifyHint = .maybe ∧ login.profile.signatureStatus = .ok) ∨
        ∀ p ∈ login.profile.remoteProvider, ¬ p.chainOnly cx.toEnv := by
  obtain ⟨response, hresponse, hstatus, hne, hsignature, hall, hlogin⟩ := processResponse_eq_ok hok
  rw [hlogin]
  constructor
  · rintro ⟨response', hresponse', -, hne', htrusted⟩
    by_contra hcond
    obtain ⟨hnot, hchain⟩ := not_or.mp hcond
    push Not at hchain
    obtain ⟨p, hp, hchain⟩ := hchain
    obtain ⟨a, ha⟩ := List.exists_mem_of_ne_nil _ hne'
    obtain ⟨-, -, hown, hforce⟩ := htrusted a ha
    refine not_ownSignatureVerified (a := a) hp hchain ?_
    cases hmode : login.profile.signatureVerifyHint with
    | ignore => exact absurd hmode hhint
    | force => exact (hforce hmode).2
    | maybe => exact hown.resolve_left fun h => hnot ⟨hmode, h⟩
  · intro hcond
    refine ⟨_, rfl, hstatus, by simpa using hne, ?_⟩
    intro a' ha'
    obtain ⟨a, ha, rfl⟩ := List.mem_map.mp ha'
    exact trusted_withDecryptedSubject.mpr
      (trusted_of_checked hflag hhint hsignature (hall a ha) hcond)

end

/-! ## An unsigned assertion -/

/-- The certificate chain of `Provider.chainProvider` loads, and no signature verifies. -/
def chainCx : Context := { Context.refusing with loadCerts := fun _ => some ["ca"] }

def aliceAssertion : Saml2Assertion where
  id := some "_a"
  issuer := some { content := some "https://idp.example" }
  subject := some { nameId := some { content := some "alice" } }
  originalXmlnode := some Provider.unsignedAssertion

def successStatus : Option Status :=
  some { statusCode := some { value := some saml2StatusCodeSuccess } }

/-- A service provider that insists on signatures, after an unsigned response was read from the
identity provider with a certificate chain. -/
def forcingLogin : Login where
  profile := {
    server := some (Server.addProvider
      { provider := { providerId := some "https://sp.example", conformance := .saml20 } }
      Provider.chainProvider).2
    remoteProviderId := some "https://idp.example"
    response := some (.samlp2Response { status := successStatus, assertion := [aliceAssertion] })
    signatureVerifyHint := .force }

theorem forcingLogin_chainOnly :
    ∃ p ∈ forcingLogin.profile.remoteProvider, p.chainOnly chainCx.toEnv :=
  ⟨Provider.chainProvider, rfl, rfl, "ca.pem", ["ca"], rfl, rfl⟩

/-- The unsigned response is accepted although signatures are forced. -/
theorem unsigned_response_accepted :
    ¬ ∀ (cx : Context) (login : Login), cx.verifySignatureFlag = true →
      login.profile.signatureVerifyHint ≠ .ignore →
      (processResponseStatusAndAssertion cx login).1 = .ok →
      ResponseTrusted cx login (processResponseStatusAndAssertion cx login).2 := by
  intro h
  obtain ⟨response, hresponse, -, hne, htrusted⟩ :=
    h chainCx forcingLogin rfl (by decide) (by decide)
  obtain ⟨a, ha⟩ := List.exists_mem_of_ne_nil _ hne
  obtain ⟨p, hp, hchain⟩ := forcingLogin_chainOnly
  exact not_ownSignatureVerified hp hchain ((htrusted a ha).2.2.2 rfl).2

theorem processResponse_trusted_iff_forcingLogin :
    ResponseTrusted chainCx forcingLogin
        (processResponseStatusAndAssertion chainCx forcingLogin).2 ↔
      (forcingLogin.profile.signatureVerifyHint = .maybe ∧
        forcingLogin.profile.signatureStatus = .ok) ∨
        ∀ p ∈ forcingLogin.profile.remoteProvider, ¬ p.chainOnly chainCx.toEnv :=
  processResponse_trusted_iff rfl (by decide) (by decide)

end Lasso.Saml20
