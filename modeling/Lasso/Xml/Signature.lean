import Lasso.Env
import Lasso.ErrorCode
import Lasso.Strings

/-!
# XML signatures

`verifySignature` checks the enveloped signature of one element with one key. Whether the
cryptographic verification itself succeeds is the business of `Env.dsigVerify`; the function adds
that the signature is a direct child of the element and that its first reference designates it.
-/

namespace Lasso

/-- `SignatureVerificationOption`: a set of bits, `NO_OPTION` is the empty one. -/
structure SignatureVerificationOption where
  noSingleReference : Bool := false
  emptyUri : Bool := false
deriving DecidableEq

def noOption : SignatureVerificationOption := {}

def XmlNode.hasSignature (node : XmlNode) : Bool :=
  (node.findChild "Signature" xmlSecDSigNs).isSome

/-- `g_strdup_printf("#%s", id)` -/
def referenceUri (id : Option String) : String := "#" ++ id.getD "(null)"

/-- The reference should be to the signed node. -/
def referencesNode (signed : NodeRef) (idAttrName : Option String)
    (option : SignatureVerificationOption) (references : List (Option String)) : Bool :=
  match references with
  | [] => false
  | uri :: _ =>
    uri == some (referenceUri (idAttrName.bind signed.node.getProp)) ||
      (option.emptyUri && signed.path == [] && uri == some "")

/-- `lasso_verify_signature`: the return code, and the URIs added to `uri_references`. -/
def verifySignature (env : Env) (signedNode : Option NodeRef) (idAttrName : Option String)
    (keysManager : Option KeysMngr) (publicKey : Option SecKey)
    (option : SignatureVerificationOption) : Rc × List String :=
  match signedNode with
  | none => (.param .invalidValue, [])
  | some signed =>
    if keysManager.isNone && publicKey.isNone then (.param .invalidValue, [])
    else if !env.verifySignatureFlag then (.ok, [])
    -- Find signature as direct child
    else if !signed.node.hasSignature then (.ds .signatureNotFound, [])
    else
      match env.dsigVerify ⟨keysManager, publicKey, option.emptyUri, idAttrName⟩ signed with
      | .error | .invalid => (.ds .signatureVerificationFailed, [])
      | .succeeded references =>
        -- There should be only one reference
        if !(!option.noSingleReference || references.length == 1) then
          (.ds .tooMuchReferences, [])
        else if !referencesNode signed idAttrName option references then
          (.ds .invalidReferenceForSaml, [])
        else (.ok, references.filterMap id)

/-- The XML signature primitive accepts the element for this key and keys manager, and what was
signed is the element. -/
def DsigAccepts (env : Env) (signed : NodeRef) (idAttrName : Option String)
    (keysManager : Option KeysMngr) (publicKey : Option SecKey) : Prop :=
  ∃ option references, referencesNode signed idAttrName option references = true ∧
    env.dsigVerify ⟨keysManager, publicKey, option.emptyUri, idAttrName⟩ signed =
      .succeeded references

/-- The environment with another outcome of the XML signature primitive. -/
def withDsig (env : Env) (dsig : DsigCtx → NodeRef → DsigOutcome) : Env :=
  { env with dsigVerify := dsig }

@[simp] theorem withDsig_dsigVerify (env : Env) (dsig : DsigCtx → NodeRef → DsigOutcome) :
    (withDsig env dsig).dsigVerify = dsig := rfl

section

variable {env : Env} {signedNode : Option NodeRef} {idAttrName : Option String}
  {keysManager : Option KeysMngr} {publicKey : Option SecKey}
  {option : SignatureVerificationOption}

/-- With verification enabled a zero return code comes from the primitive. -/
theorem verifySignature_eq_ok (hflag : env.verifySignatureFlag = true)
    (h : (verifySignature env signedNode idAttrName keysManager publicKey option).1 = .ok) :
    ∃ signed, signedNode = some signed ∧ signed.node.hasSignature = true ∧
      DsigAccepts env signed idAttrName keysManager publicKey := by
  unfold verifySignature at h
  cases signedNode with
  | none => simp at h
  | some signed =>
    simp only [hflag, Bool.not_true, Bool.false_eq_true, if_false] at h
    split_ifs at h with hkeys hsig
    refine ⟨signed, rfl, by simpa using hsig, option, ?_⟩
    split at h
    · simp at h
    · simp at h
    · split_ifs at h with hcount hreferences
      exact ⟨_, by simpa using hreferences, by assumption⟩

/-- An accepted element whose single reference designates it gives a zero return code. -/
theorem verifySignature_of_accepted {signed : NodeRef} {key : SecKey}
    (hsig : signed.node.hasSignature = true)
    (haccept : env.dsigVerify ⟨keysManager, some key, option.emptyUri, idAttrName⟩ signed =
      .succeeded [some (referenceUri (idAttrName.bind signed.node.getProp))]) :
    (verifySignature env (some signed) idAttrName keysManager (some key) option).1 = .ok := by
  by_cases hflag : env.verifySignatureFlag = true <;>
    simp [verifySignature, hflag, hsig, haccept, referencesNode]

end

end Lasso
