import Lasso.Provider.Verify

/-!
# SOAP: the verified element and the processed element

The signature of a SOAP message is checked on the first element that `//s:Body/*` designates, the
message is read from the envelope's own Body. The two agree except on envelopes with a signed
element in a second Body that comes first in document order (`XmlNode.strayBodyChild`).
-/

namespace Lasso.Provider

open Search

/-- Some signature is checked at all: verification is on and the provider has a key to try. -/
def checksSignatures (env : Env) (p : Provider) : Prop :=
  env.verifySignatureFlag = true ∧
    ∃ credentials, p.loadCredentials env = .ok credentials ∧ credentials.2 ≠ []

/-- The primitive accepts the element at `path` and no other one. -/
def acceptOnly (path : List Nat) (uri : String) : DsigCtx → NodeRef → DsigOutcome :=
  fun _ signed => if signed.path = path then .succeeded [some uri] else .error

theorem acceptOnly_path {path : List Nat} {uri : String} {ctx : DsigCtx} {signed : NodeRef}
    {references : List (Option String)}
    (h : acceptOnly path uri ctx signed = .succeeded references) : signed.path = path := by
  unfold acceptOnly at h
  split_ifs at h with hpath
  exact hpath

section

variable {env : Env} {p : Provider} {message : Bytes} {root : XmlNode} {idAttrName : Option String}

theorem signedElement_soap {path : List Nat} (hparse : env.parseMemory message = some root)
    (hhead : root.xpathBodyChildren.head? = some path) :
    signedElement env message .soap = match NodeRef.at? root path with
      | none => .error (.profile .invalidMsg)
      | some xmlnode => .ok (some xmlnode) := by
  cases hat : NodeRef.at? root path <;> simp [signedElement, hparse, hhead, hat]

theorem not_chainOnly_of_checksSignatures (h : p.checksSignatures env) : ¬ p.chainOnly env := by
  intro hchain
  obtain ⟨-, credentials, hload, hne⟩ := h
  obtain ⟨keysMngr, hload'⟩ := loadCredentials_of_chainOnly hchain
  obtain rfl := Except.ok.inj (hload.symm.trans hload')
  exact hne rfl

/-- The element whose signature a SOAP message is accepted for: it is signed and was accepted with
a key of the provider, and `//s:Body/*` designates it. -/
theorem verifySignature_soap_eq_ok (env : Env) (hparse : env.parseMemory message = some root)
    (hchecks : p.checksSignatures env)
    (h : p.verifySignature env (some message) idAttrName .soap = .ok) :
    ∃ path signed, root.xpathBodyChildren.head? = some path ∧
      NodeRef.at? root path = some signed ∧ p.NodeVerified env signed := by
  rcases verifySignature_eq_ok hchecks.1 h with hchain | ⟨text, htext, hverified⟩
  · exact absurd hchain.1 (not_chainOnly_of_checksSignatures hchecks)
  · cases htext
    rw [MessageVerified, if_neg (by simp)] at hverified
    obtain ⟨signed, hsigned, hverified⟩ := hverified
    cases hhead : root.xpathBodyChildren.head? with
    | none => simp [signedElement, hparse, hhead] at hsigned
    | some path =>
      rw [signedElement_soap hparse hhead] at hsigned
      split at hsigned <;> cases hsigned
      exact ⟨path, signed, rfl, by assumption, hverified⟩

/-- No stray element that `//s:Body/*` designates first is signed. -/
def Unwrapped (root : XmlNode) : Prop :=
  ∀ path node, XmlNode.strayBodyChild root = some path → root.at? path = some node →
    node.hasSignature = false

/-- On such an envelope the verified element is the one that is processed. -/
theorem processed_of_verifySignature (env : Env) (hparse : env.parseMemory message = some root)
    {b : Nat} (hsoap : root.isSoap = true) (hb : XmlNode.soap11GetBody root = some b)
    (hunwrapped : Unwrapped root) (hchecks : p.checksSignatures env)
    (h : p.verifySignature env (some message) idAttrName .soap = .ok) :
    ∃ path content, XmlNode.getSoapContent root = some path ∧
      NodeRef.at? root path = some content ∧ p.NodeVerified env content := by
  obtain ⟨path, signed, hhead, hsigned, hverified⟩ :=
    verifySignature_soap_eq_ok env hparse hchecks h
  cases hstray : XmlNode.strayBodyChild root with
  | none =>
    rw [XmlNode.head?_xpathBodyChildren_of_not_stray hsoap hb hstray] at hhead
    exact ⟨path, signed, hhead, hsigned, hverified⟩
  | some stray =>
    rw [XmlNode.head?_xpathBodyChildren_of_stray hsoap hb hstray] at hhead
    obtain rfl := Option.some.inj hhead
    obtain ⟨hroot, hpath⟩ := NodeRef.at?_eq_some hsigned
    have hunsigned := hunwrapped stray signed.node hstray (by
      have := signed.isAt
      rwa [hroot, hpath] at this)
    exact absurd hverified.1 (by simp [hunsigned])

/-- An element that is signed with a reference to itself is accepted if the primitive accepts it. -/
theorem verifySignature_soap_of_acceptOnly {path : List Nat} {node : XmlNode}
    (hparse : env.parseMemory message = some root) (hchecks : p.checksSignatures env)
    (hhead : root.xpathBodyChildren.head? = some path) (hnode : root.at? path = some node)
    (hsigned : node.hasSignature = true) :
    p.verifySignature
      (withDsig env (acceptOnly path (referenceUri (idAttrName.bind node.getProp))))
      (some message) idAttrName .soap = .ok := by
  obtain ⟨hflag, credentials, hload, hne⟩ := hchecks
  set env' := withDsig env (acceptOnly path (referenceUri (idAttrName.bind node.getProp)))
  have hload' : p.loadCredentials env' = .ok credentials := hload
  have hparse' : env'.parseMemory message = some root := hparse
  have hflag' : env'.verifySignatureFlag = true := hflag
  have helement : signedElement env' message .soap = .ok (some ⟨root, path, node, hnode⟩) := by
    rw [signedElement_soap hparse' hhead, NodeRef.at?_of_at? hnode]
  have hkeys : tryKeys env' (some ⟨root, path, node, hnode⟩) idAttrName noOption credentials =
      .ok := by
    obtain ⟨key, keys, hcons⟩ := List.exists_cons_of_ne_nil hne
    refine (firstSuccess_of_ne_nil hne).mpr ⟨key, by simp [hcons], ?_⟩
    exact verifySignature_of_accepted hsigned (by simp [env', withDsig, acceptOnly])
  simp [verifySignature, hflag', hload', helement, hkeys]

end

/-- For every envelope with a Body: a SOAP message that is accepted, whatever the primitive does,
was accepted for the signature of the element that is processed, exactly when no stray element
that `//s:Body/*` designates first is signed. -/
theorem soap_verified_is_processed (env : Env) (p : Provider) (message : Bytes)
    (idAttrName : Option String) (root : XmlNode) (hparse : env.parseMemory message = some root)
    (hsoap : root.isSoap = true) (hbody : (XmlNode.soap11GetBody root).isSome = true) :
    (∀ dsig, p.checksSignatures env →
      p.verifySignature (withDsig env dsig) (some message) idAttrName .soap = .ok →
      ∃ path content, XmlNode.getSoapContent root = some path ∧
        NodeRef.at? root path = some content ∧ p.NodeVerified (withDsig env dsig) content) ↔
    (p.checksSignatures env → ∀ path node, XmlNode.strayBodyChild root = some path →
      root.at? path = some node → node.hasSignature = false) := by
  obtain ⟨b, hb⟩ := Option.isSome_iff_exists.mp hbody
  constructor
  · intro h hchecks path node hstray hnode
    by_contra hsigned
    have hhead := XmlNode.head?_xpathBodyChildren_of_stray hsoap hb hstray
    obtain ⟨path', content, hpath', hcontent, _, _, _, _, _, _, _, _, haccepts⟩ := h _ hchecks
      (verifySignature_soap_of_acceptOnly hparse hchecks hhead hnode (by simpa using hsigned))
    obtain ⟨-, hcontentPath⟩ := NodeRef.at?_eq_some hcontent
    rw [withDsig_dsigVerify] at haccepts
    have hsame : path' = path := hcontentPath.symm.trans (acceptOnly_path haccepts)
    exact XmlNode.getSoapContent_ne_stray hsoap hb hstray (hsame ▸ hpath')
  · intro h dsig hchecks hok
    exact processed_of_verifySignature (withDsig env dsig) hparse hsoap hb (h hchecks) hchecks hok

/-! ## A wrapped message -/

/-- A signed request, moved into the header of the envelope. -/
def signedRequest : XmlNode :=
  .element (some saml2ProtocolHref) "LogoutRequest" [{ name := "ID", value := "_1" }]
    [.element (some xmlSecDSigNs) "Signature" [] []]

def forgedRequest : XmlNode :=
  .element (some saml2ProtocolHref) "LogoutRequest" [{ name := "ID", value := "_2" }] []

def soapElement (name : String) (children : List XmlNode) : XmlNode :=
  .element (some soapEnvHref) name [] children

def wrappedEnvelope : XmlNode :=
  soapElement "Envelope" [
    soapElement "Header" [
      .element (some "urn:x") "Wrapper" [] [soapElement "Body" [signedRequest]]],
    soapElement "Body" [forgedRequest]]

def keyedProvider : Provider where
  providerId := some "https://sp.example"
  publicKey := some "sp.pem"
  signingPublicKeys := [⟨.rsa, "k".toList⟩]

/-- The message `wrapped` is parsed to the wrapped envelope; the signature of the first request
verifies. -/
def wrappingEnv : Env :=
  { Env.refusing with
    parseMemory := fun text => if text = "wrapped".toList then some wrappedEnvelope else none
    dsigVerify := acceptOnly [0, 0, 0, 0] "#_1" }

/-- The wrapped message is accepted, and the forged request is processed. -/
theorem wrappedEnvelope_disagrees :
    keyedProvider.verifySignature wrappingEnv (some "wrapped".toList) (some "ID") .soap = .ok ∧
      XmlNode.getSoapContent wrappedEnvelope = some [1, 0] ∧
      ¬ ∃ path content, XmlNode.getSoapContent wrappedEnvelope = some path ∧
        NodeRef.at? wrappedEnvelope path = some content ∧
        keyedProvider.NodeVerified wrappingEnv content := by
  refine ⟨by decide, by decide, ?_⟩
  rintro ⟨path, content, hpath, hcontent, _, _, _, _, _, _, _, _, haccepts⟩
  obtain ⟨-, hcontentPath⟩ := NodeRef.at?_eq_some hcontent
  have hprocessed : path = [1, 0] := Option.some.inj (hpath.symm.trans (by decide))
  have hdsig : wrappingEnv.dsigVerify = acceptOnly [0, 0, 0, 0] "#_1" := rfl
  rw [hdsig] at haccepts
  have haccepted : path = [0, 0, 0, 0] := hcontentPath.symm.trans (acceptOnly_path haccepts)
  exact absurd (hprocessed.symm.trans haccepted) (by decide)

theorem soap_verified_is_processed_wrappedEnvelope :
    (∀ dsig, keyedProvider.checksSignatures wrappingEnv →
      keyedProvider.verifySignature (withDsig wrappingEnv dsig) (some "wrapped".toList)
        (some "ID") .soap = .ok →
      ∃ path content, XmlNode.getSoapContent wrappedEnvelope = some path ∧
        NodeRef.at? wrappedEnvelope path = some content ∧
        keyedProvider.NodeVerified (withDsig wrappingEnv dsig) content) ↔
    (keyedProvider.checksSignatures wrappingEnv → ∀ path node,
      XmlNode.strayBodyChild wrappedEnvelope = some path →
      wrappedEnvelope.at? path = some node → node.hasSignature = false) :=
  soap_verified_is_processed wrappingEnv keyedProvider "wrapped".toList (some "ID")
    wrappedEnvelope rfl (by decide) (by decide)

end Lasso.Provider
