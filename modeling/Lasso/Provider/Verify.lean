import Lasso.Library.Search
import Lasso.Xml.Signature
import Lasso.Xml.Message
import Lasso.Provider.Basic

/-!
# Signature verification by a provider

The four entry points that verify the signature of a message or an element with the keys of a
provider. Each loads the credentials of the provider and tries its public keys in turn.
-/

namespace Lasso

open Search

/-- The ID attribute of a signed element of SAML 2.0 or ID-FF 1.2. -/
def idAttributeName (signedNode : XmlNode) : Option String :=
  if signedNode.ns = some saml2ProtocolHref ∨ signedNode.ns = some saml2AssertionHref then some "ID"
  else if signedNode.isElementNode "Request" samlProtocolHref then some "RequestID"
  else if signedNode.isElementNode "Response" samlProtocolHref then some "ResponseID"
  else if signedNode.isElementNode "Assertion" samlAssertionHref then some "AssertionID"
  else none

namespace Provider

/-- The loop over the public keys. -/
def tryKeys (env : Env) (signedNode : Option NodeRef) (idAttrName : Option String)
    (option : SignatureVerificationOption) (credentials : Option KeysMngr × List SecKey) : Rc :=
  firstSuccess .ok
    (fun publicKey =>
      (verifySignature env signedNode idAttrName credentials.1 (some publicKey) option).1)
    .ok credentials.2

/-- `lasso_provider_verify_saml_signature`; a detached node is its own document. The source reads
the namespace of the node without a test, so that a node without one does not return. -/
def verifySamlSignature (env : Env) (p : Provider) (signedNode : NodeRef) : Rc :=
  match idAttributeName signedNode.node with
  | none => .param .invalidValue
  | some idAttributeName =>
    match p.loadCredentials env with
    | .error rc => rc
    | .ok credentials => tryKeys env (some signedNode) (some idAttributeName) noOption credentials

/-- `lasso_provider_verify_query_signature` -/
def verifyQuerySignature (env : Env) (p : Provider) (message : Bytes) : Rc :=
  match p.tryLoadingPublicKeys true with
  | .error rc => rc
  | .ok publicKeys =>
    match p.conformance with
    | .liberty10 | .liberty11 | .liberty12 =>
      firstSuccess .ok (queryVerifySignature env message) .ok publicKeys
    | .saml20 => firstSuccess .ok (saml2QueryVerifySignature env message) .ok publicKeys
    | .none => .profile .cannotVerifySignature

/-- The element of an XML message whose signature is verified. -/
def signedElement (env : Env) (message : Bytes) (format : MessageFormat) :
    Except Rc (Option NodeRef) :=
  let text :=
    if format = .base64 then
      let decoded := env.base64Decode message message.length
      if decoded.1 < 0 then none else some (cString decoded.2)
    else some message
  match text with
  | none => .error (.profile .invalidMsg)
  | some text =>
    let doc := env.parseMemory text
    if format = .soap then
      match doc.bind fun root => (root.xpathBodyChildren.head?).bind (NodeRef.at? root) with
      | none => .error (.profile .invalidMsg)
      | some xmlnode => .ok (some xmlnode)
    else .ok (doc.map NodeRef.ofRoot)

/-- `lasso_provider_verify_signature` -/
def verifySignature (env : Env) (p : Provider) (message : Option Bytes)
    (idAttrName : Option String) (format : MessageFormat) : Rc :=
  if !env.verifySignatureFlag then .ok
  else
    match message with
    | none => .profile .invalidMsg
    | some message =>
      if format = .error ∨ format = .unknown then .profile .invalidMsg
      else if format = .query then p.verifyQuerySignature env message
      else
        match p.loadCredentials env with
        | .error rc => rc
        | .ok credentials =>
          match signedElement env message format with
          | .error rc => rc
          | .ok xmlnode => tryKeys env xmlnode idAttrName noOption credentials

/-- `lasso_provider_verify_single_node_signature`, given the original XML node. -/
def verifySingleNodeSignature (env : Env) (p : Provider) (xmlnode : Option XmlNode)
    (idAttrName : Option String) : Rc :=
  match xmlnode with
  | none => .ds .signatureVerificationFailed
  | some xmlnode =>
    match p.loadCredentials env with
    | .error rc => rc
    | .ok credentials =>
      tryKeys env (some (.ofRoot xmlnode)) idAttrName { noSingleReference := true } credentials

/-- The verification of the signature at the level of a SAML 2.0 message. -/
def verifyReceived (env : Env) (p : Provider) (m : Received) : Rc :=
  match m.format with
  | .query => p.verifyQuerySignature env m.text
  | _ =>
    match m.content with
    | some content => p.verifySamlSignature env content
    | none => .profile .cannotVerifySignature

/-! ## What a zero return code means -/

/-- The element is signed, and the primitive accepts it for one of the keys that messages are
verified with. -/
def NodeVerified (env : Env) (p : Provider) (signed : NodeRef) : Prop :=
  signed.node.hasSignature = true ∧ ∃ key ∈ p.verificationKeys, ∃ idAttrName keysMngr,
    DsigAccepts env signed idAttrName keysMngr (some key)

/-- The string whose signature is checked for a redirect message. -/
def signedContent (env : Env) (p : Provider) (message : Bytes) : Option Bytes :=
  match p.conformance with
  | .liberty10 | .liberty11 | .liberty12 => (breakOn "&Signature=".toList message).map (·.1)
  | .saml20 => ((buildSignedQuery env message).toOption).map (·.signedQuery)
  | .none => none

def QueryVerified (env : Env) (p : Provider) (message : Bytes) : Prop :=
  ∃ key ∈ p.verificationKeys, ∃ content, p.signedContent env message = some content ∧
    ContentAccepted env content key

/-- The primitive accepts the message for one of the keys that messages are verified with. -/
def MessageVerified (env : Env) (p : Provider) (message : Bytes) (format : MessageFormat) : Prop :=
  if format = .query then p.QueryVerified env message
  else ∃ signed, signedElement env message format = .ok (some signed) ∧ p.NodeVerified env signed

/-- The primitive accepts the received message for one of the keys that messages are verified
with. -/
def ReceivedVerified (env : Env) (p : Provider) (m : Received) : Prop :=
  match m.format with
  | .query => p.QueryVerified env m.text
  | _ => ∃ content, m.content = some content ∧ p.NodeVerified env content

/-- A received message on which no key is tried, since the provider has a certificate chain only. -/
def acceptsUnchecked (env : Env) (p : Provider) (m : Received) : Prop :=
  p.chainOnly env ∧ m.format ≠ .query ∧
    ∃ content, m.content = some content ∧ (idAttributeName content.node).isSome

/-- An XML message whose signed element is determined, so that the keys are tried on it. -/
def reachesKeys (env : Env) (message : Option Bytes) (format : MessageFormat) : Prop :=
  ∃ text, message = some text ∧ format ≠ .error ∧ format ≠ .unknown ∧ format ≠ .query ∧
    ∃ xmlnode, signedElement env text format = .ok xmlnode

section

variable {env : Env} {p : Provider} {idAttrName : Option String}

theorem keyless_eq_false {key : SecKey} (h : key ∈ p.verificationKeys) : p.keyless = false := by
  by_contra hkeyless
  simp [verificationKeys, hkeyless] at h

/-- Only a provider with keys verifies an element. -/
theorem NodeVerified.keyless {signed : NodeRef} (h : p.NodeVerified env signed) :
    p.keyless = false := by
  obtain ⟨-, key, hkey, -⟩ := h
  exact keyless_eq_false hkey

theorem MessageVerified.keyless {message : Bytes} {format : MessageFormat}
    (h : p.MessageVerified env message format) : p.keyless = false := by
  unfold MessageVerified at h
  split_ifs at h
  · obtain ⟨key, hkey, -⟩ := h
    exact keyless_eq_false hkey
  · obtain ⟨signed, -, hverified⟩ := h
    exact hverified.keyless

theorem tryKeys_eq_ok (hflag : env.verifySignatureFlag = true) {signedNode : Option NodeRef}
    {option : SignatureVerificationOption} {credentials : Option KeysMngr × List SecKey}
    (hload : p.loadCredentials env = .ok credentials)
    (h : tryKeys env signedNode idAttrName option credentials = .ok) :
    p.chainOnly env ∨ ∃ signed, signedNode = some signed ∧ p.NodeVerified env signed := by
  obtain ⟨hkeys, hnil, hchain⟩ := loadCredentials_eq_ok hload
  rcases firstSuccess_eq_ok.mp h with ⟨hempty, -⟩ | ⟨key, hmem, hkey⟩
  · exact .inl (hchain (hnil.mp hempty))
  · obtain ⟨signed, rfl, hsigned, haccepts⟩ := Lasso.verifySignature_eq_ok hflag hkey
    exact .inr ⟨signed, rfl, hsigned, key, hkeys ▸ hmem, idAttrName, credentials.1, haccepts⟩

theorem verifySamlSignature_eq_ok (hflag : env.verifySignatureFlag = true) {signedNode : NodeRef}
    (h : p.verifySamlSignature env signedNode = .ok) :
    (p.chainOnly env ∧ (idAttributeName signedNode.node).isSome) ∨
      p.NodeVerified env signedNode := by
  unfold verifySamlSignature at h
  split at h
  · cases h
  · rename_i hid
    split at h
    · exact absurd h (loadCredentials_ne_ok (by assumption))
    · rcases tryKeys_eq_ok hflag (by assumption) h with hchain | ⟨signed, heq, hverified⟩
      · exact .inl ⟨hchain, by simp [hid]⟩
      · cases heq
        exact .inr hverified

theorem verifySingleNodeSignature_eq_ok (hflag : env.verifySignatureFlag = true)
    {xmlnode : Option XmlNode} (h : p.verifySingleNodeSignature env xmlnode idAttrName = .ok) :
    ∃ node, xmlnode = some node ∧ (p.chainOnly env ∨ p.NodeVerified env (.ofRoot node)) := by
  unfold verifySingleNodeSignature at h
  split at h
  · cases h
  · rename_i node
    refine ⟨node, rfl, ?_⟩
    split at h
    · exact absurd h (loadCredentials_ne_ok (by assumption))
    · rcases tryKeys_eq_ok hflag (by assumption) h with hchain | ⟨signed, heq, hverified⟩
      · exact .inl hchain
      · cases heq
        exact .inr hverified

/-- The keys are mandatory for a query, so that one of them has accepted it. -/
theorem verifyQuerySignature_eq_ok (hflag : env.verifySignatureFlag = true) {message : Bytes}
    (h : p.verifyQuerySignature env message = .ok) : p.QueryVerified env message := by
  unfold verifyQuerySignature at h
  split at h
  · exact absurd h (tryLoadingPublicKeys_ne_ok (by assumption))
  · rename_i publicKeys hload
    rcases tryLoadingPublicKeys_eq_ok hload with ⟨hkey, rfl, hne⟩ | ⟨-, hmandatory, -⟩
    · have hmem : ∀ key ∈ p.signingPublicKeys, key ∈ p.verificationKeys := by
        simp [verificationKeys, hkey]
      have liberty : firstSuccess .ok (queryVerifySignature env message) .ok p.signingPublicKeys =
          .ok → ∃ key ∈ p.verificationKeys, ∃ content,
            (breakOn "&Signature=".toList message).map (·.1) = some content ∧
              ContentAccepted env content key := by
        intro h
        obtain ⟨key, hin, hok⟩ := (firstSuccess_of_ne_nil hne).mp h
        obtain ⟨content, rest, hbreak, haccepted⟩ := queryVerifySignature_eq_ok hflag hok
        exact ⟨key, hmem key hin, content, by rw [hbreak]; rfl, haccepted⟩
      unfold QueryVerified signedContent
      cases hconformance : p.conformance with
      | none => simp [hconformance] at h
      | liberty10 | liberty11 | liberty12 =>
        simp only [hconformance] at h
        exact liberty h
      | saml20 =>
        simp only [hconformance] at h
        obtain ⟨key, hin, hok⟩ := (firstSuccess_of_ne_nil hne).mp h
        obtain ⟨q, hq, haccepted⟩ := saml2QueryVerifySignature_eq_ok hflag hok
        exact ⟨key, hmem key hin, q.signedQuery, by simp [hq, Except.toOption], haccepted⟩
    · cases hmandatory

theorem signedElement_ne_ok {message : Bytes} {format : MessageFormat} {rc : Rc}
    (h : signedElement env message format = .error rc) : rc ≠ .ok := by
  unfold signedElement at h
  dsimp only at h
  split at h
  · cases h
    simp
  · split_ifs at h
    split at h <;> cases h
    simp

theorem verifySignature_eq_ok (hflag : env.verifySignatureFlag = true) {message : Option Bytes}
    {format : MessageFormat} (h : p.verifySignature env message idAttrName format = .ok) :
    (p.chainOnly env ∧ reachesKeys env message format) ∨
      ∃ text, message = some text ∧ p.MessageVerified env text format := by
  unfold verifySignature at h
  rw [if_neg (by simp [hflag])] at h
  split at h
  · cases h
  · rename_i text
    split_ifs at h with hformat hquery
    · exact .inr ⟨text, rfl, by simpa [MessageVerified, hquery] using
        verifyQuerySignature_eq_ok hflag h⟩
    · split at h
      · exact absurd h (loadCredentials_ne_ok (by assumption))
      · split at h
        · exact absurd h (signedElement_ne_ok (by assumption))
        · rename_i xmlnode hxmlnode
          obtain ⟨herror, hunknown⟩ := not_or.mp hformat
          rcases tryKeys_eq_ok hflag (by assumption) h with hchain | ⟨signed, rfl, hverified⟩
          · exact .inl ⟨hchain, text, rfl, herror, hunknown, hquery, xmlnode, hxmlnode⟩
          · refine .inr ⟨text, rfl, ?_⟩
            rw [MessageVerified, if_neg hquery]
            exact ⟨signed, hxmlnode, hverified⟩

theorem verifyReceived_eq_ok (hflag : env.verifySignatureFlag = true) {m : Received}
    (h : p.verifyReceived env m = .ok) :
    p.acceptsUnchecked env m ∨ p.ReceivedVerified env m := by
  unfold verifyReceived at h
  unfold ReceivedVerified
  split at h
  · exact .inr (verifyQuerySignature_eq_ok hflag h)
  · rename_i hquery
    split at h
    · rename_i content hcontent
      rcases verifySamlSignature_eq_ok hflag h with ⟨hchain, hid⟩ | hverified
      · exact .inl ⟨hchain, hquery, content, hcontent, hid⟩
      · exact .inr ⟨content, hcontent, hverified⟩
    · cases h

end

end Provider

end Lasso
