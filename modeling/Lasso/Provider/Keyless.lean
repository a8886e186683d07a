import Lasso.Provider.Verify

/-!
# Signature acceptance needs a key

The verification functions load an empty key list for a provider that has a certificate chain and
no key (`Provider.chainOnly`); the loop over the keys then leaves the initial zero return code.
For every other provider a zero return code means that the primitive accepted the message.
-/

namespace Lasso.Provider

/-- The primitive accepts the element for one of the provider's keys, or against its chain. -/
def NodeAccepted (env : Env) (p : Provider) (signed : NodeRef) : Prop :=
  (∃ key ∈ p.signingPublicKeys, ∃ idAttrName keysMngr,
    DsigAccepts env signed idAttrName keysMngr (some key)) ∨
  ∃ chain keysMngr idAttrName, p.caCertChain = some chain ∧ env.loadCerts chain = some keysMngr ∧
    DsigAccepts env signed idAttrName (some keysMngr) none

def QueryAccepted (env : Env) (p : Provider) (message : Bytes) : Prop :=
  ∃ key ∈ p.signingPublicKeys, ∃ content, p.signedContent env message = some content ∧
    ContentAccepted env content key

def MessageAccepted (env : Env) (p : Provider) (message : Bytes) (format : MessageFormat) : Prop :=
  if format = .query then p.QueryAccepted env message
  else ∃ signed, signedElement env message format = .ok (some signed) ∧ p.NodeAccepted env signed

section

variable {env : Env} {p : Provider}

theorem mem_signingPublicKeys {key : SecKey} (h : key ∈ p.verificationKeys) :
    key ∈ p.signingPublicKeys := by
  unfold verificationKeys at h
  split_ifs at h
  · simp at h
  · exact h

theorem NodeVerified.accepted {signed : NodeRef} (h : p.NodeVerified env signed) :
    p.NodeAccepted env signed := by
  obtain ⟨-, key, hkey, haccepts⟩ := h
  exact .inl ⟨key, mem_signingPublicKeys hkey, haccepts⟩

theorem QueryVerified.accepted {message : Bytes} (h : p.QueryVerified env message) :
    p.QueryAccepted env message := by
  obtain ⟨key, hkey, haccepts⟩ := h
  exact ⟨key, mem_signingPublicKeys hkey, haccepts⟩

theorem MessageVerified.accepted {message : Bytes} {format : MessageFormat}
    (h : p.MessageVerified env message format) : p.MessageAccepted env message format := by
  unfold MessageVerified at h
  unfold MessageAccepted
  split_ifs at h ⊢ with hquery
  · exact h.accepted
  · obtain ⟨signed, hsigned, hverified⟩ := h
    exact ⟨signed, hsigned, hverified.accepted⟩

theorem tryKeys_nil {signedNode : Option NodeRef} {idAttrName : Option String}
    {option : SignatureVerificationOption} {keysMngr : Option KeysMngr} :
    tryKeys env signedNode idAttrName option (keysMngr, []) = .ok := rfl

theorem verifySamlSignature_of_chainOnly (env : Env) (hchain : p.chainOnly env)
    {signedNode : NodeRef} (hid : (idAttributeName signedNode.node).isSome) :
    p.verifySamlSignature env signedNode = .ok := by
  obtain ⟨idAttrName, hid⟩ := Option.isSome_iff_exists.mp hid
  obtain ⟨keysMngr, hload⟩ := loadCredentials_of_chainOnly hchain
  simp [verifySamlSignature, hid, hload, tryKeys_nil]

theorem verifySingleNodeSignature_of_chainOnly (env : Env) (hchain : p.chainOnly env)
    (xmlnode : XmlNode) (idAttrName : Option String) :
    p.verifySingleNodeSignature env (some xmlnode) idAttrName = .ok := by
  obtain ⟨keysMngr, hload⟩ := loadCredentials_of_chainOnly hchain
  simp [verifySingleNodeSignature, hload, tryKeys_nil]

theorem verifySignature_of_chainOnly (env : Env) (hchain : p.chainOnly env) {message : Option Bytes}
    {format : MessageFormat} (hreaches : reachesKeys env message format)
    (idAttrName : Option String) : p.verifySignature env message idAttrName format = .ok := by
  obtain ⟨keysMngr, hload⟩ := loadCredentials_of_chainOnly hchain
  obtain ⟨text, rfl, herror, hunknown, hquery, xmlnode, hxmlnode⟩ := hreaches
  by_cases hflag : env.verifySignatureFlag = true <;>
    simp [verifySignature, hflag, herror, hunknown, hquery, hload, hxmlnode, tryKeys_nil]

end

/-- The environment in which no XML signature verifies. -/
def refusingDsig (env : Env) : Env := withDsig env fun _ _ => .error

theorem not_nodeAccepted_refusingDsig (env : Env) {p : Provider} {signed : NodeRef} :
    ¬ p.NodeAccepted (refusingDsig env) signed := by
  rintro (⟨_, _, _, _, _, _, _, h⟩ | ⟨_, _, _, _, _, _, _, _, h⟩) <;> cases h

/-- A provider loaded from metadata without KeyDescriptor, with a CA certificate chain. -/
def chainProvider : Provider where
  providerId := some "https://idp.example"
  caCertChain := some "ca.pem"

/-- The certificate chain loads, and no signature verifies. -/
def chainEnv : Env := { Env.refusing with loadCerts := fun _ => some ["ca"] }

def unsignedAssertion : XmlNode := .element (some saml2AssertionHref) "Assertion" [] []

end Lasso.Provider
