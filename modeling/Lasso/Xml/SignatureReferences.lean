import Lasso.Xml.Signature

/-!
# The references of an accepted signature

A signature that `verifySignature` accepts should have one reference, unless `NO_SINGLE_REFERENCE`
is given, and its first one should designate the signed node. The number of references is checked
under the opposite condition, and a missing ID attribute designates the node as well as any.

## Main results

* `verifySignature_ok_iff` — what is accepted.
* `soundReferences_iff` — when the references of an accepted signature are what they should be.
-/

namespace Lasso

/-- The URI is that of the node by an ID attribute which the node has. -/
def IsReferenceUri (signed : NodeRef) (idAttrName : Option String) (uri : String) : Prop :=
  ∃ id, idAttrName.bind signed.node.getProp = some id ∧ uri = "#" ++ id

/-- The empty URI designates the root of the document. -/
def IsEmptyUri (signed : NodeRef) (option : SignatureVerificationOption) (uri : String) : Prop :=
  option.emptyUri = true ∧ signed.path = [] ∧ uri = ""

/-- The references verified with a signature: none if the primitive is not called or fails. -/
def verifiedReferences (env : Env) (signed : NodeRef) (idAttrName : Option String)
    (keysManager : Option KeysMngr) (publicKey : Option SecKey)
    (option : SignatureVerificationOption) : Option (List (Option String)) :=
  if env.verifySignatureFlag = true then
    match env.dsigVerify ⟨keysManager, publicKey, option.emptyUri, idAttrName⟩ signed with
    | .succeeded references => some references
    | _ => none
  else none

/-- The references of the verified signature: a single one if that is required, and the first one
designates the signed node. -/
def SoundReferences (env : Env) (signed : NodeRef) (idAttrName : Option String)
    (keysManager : Option KeysMngr) (publicKey : Option SecKey)
    (option : SignatureVerificationOption) : Prop :=
  ∃ uri rest,
    verifiedReferences env signed idAttrName keysManager publicKey option =
        some (some uri :: rest) ∧
      (option.noSingleReference = false → rest = []) ∧
      (IsReferenceUri signed idAttrName uri ∨ IsEmptyUri signed option uri)

section

variable {env : Env} {signed : NodeRef} {idAttrName : Option String}
  {keysManager : Option KeysMngr} {publicKey : Option SecKey}
  {option : SignatureVerificationOption}

theorem verifiedReferences_eq_some {references : List (Option String)} :
    verifiedReferences env signed idAttrName keysManager publicKey option = some references ↔
      env.verifySignatureFlag = true ∧
        env.dsigVerify ⟨keysManager, publicKey, option.emptyUri, idAttrName⟩ signed =
          .succeeded references := by
  unfold verifiedReferences
  split_ifs with hflag
  · cases env.dsigVerify ⟨keysManager, publicKey, option.emptyUri, idAttrName⟩ signed with
    | error => simp
    | invalid => simp
    | succeeded => simp [hflag]
  · simp [hflag]

theorem referencesNode_iff {references : List (Option String)} :
    referencesNode signed idAttrName option references = true ↔
      ∃ uri rest, references = some uri :: rest ∧
        (uri = referenceUri (idAttrName.bind signed.node.getProp) ∨
          IsEmptyUri signed option uri) := by
  cases references with
  | nil => simp [referencesNode]
  | cons uri rest =>
    cases uri with
    | none => simp [referencesNode]
    | some uri => simp [referencesNode, IsEmptyUri, and_assoc]

/-- The references are few enough and the first one designates the node. -/
theorem referencesChecks_iff {references : List (Option String)} :
    (!option.noSingleReference || references.length == 1) = true ∧
        referencesNode signed idAttrName option references = true ↔
      ∃ uri rest, references = some uri :: rest ∧
        (option.noSingleReference = true → rest = []) ∧
        (uri = referenceUri (idAttrName.bind signed.node.getProp) ∨
          IsEmptyUri signed option uri) := by
  rw [referencesNode_iff]
  constructor
  · rintro ⟨hcount, uri, rest, rfl, hdesignates⟩
    refine ⟨uri, rest, rfl, ?_, hdesignates⟩
    intro hoption
    simpa [hoption] using hcount
  · rintro ⟨uri, rest, rfl, hcount, hdesignates⟩
    refine ⟨?_, uri, rest, rfl, hdesignates⟩
    cases hoption : option.noSingleReference with
    | true => simp [hcount hoption]
    | false => rfl

/-- What is accepted: anything while verification is off, else a Signature child that the primitive
verifies, with one reference if `NO_SINGLE_REFERENCE` is given. -/
theorem verifySignature_ok_iff :
    (verifySignature env (some signed) idAttrName keysManager publicKey option).1 = .ok ↔
      (keysManager.isSome ∨ publicKey.isSome) ∧ (env.verifySignatureFlag = true →
        signed.node.hasSignature = true ∧ ∃ uri rest,
          verifiedReferences env signed idAttrName keysManager publicKey option =
            some (some uri :: rest) ∧
          (option.noSingleReference = true → rest = []) ∧
          (uri = referenceUri (idAttrName.bind signed.node.getProp) ∨
            IsEmptyUri signed option uri)) := by
  simp only [verifySignature, verifiedReferences_eq_some]
  cases hflag : env.verifySignatureFlag with
  | false => cases keysManager <;> cases publicKey <;> simp
  | true =>
    cases hsig : signed.node.hasSignature with
    | false => cases keysManager <;> cases publicKey <;> simp
    | true =>
      have hkeys : (keysManager.isNone && publicKey.isNone) = true ↔
          ¬ (keysManager.isSome ∨ publicKey.isSome) := by
        cases keysManager <;> cases publicKey <;> simp
      by_cases hnone : (keysManager.isNone && publicKey.isNone) = true
      · simp [hnone, hkeys.mp hnone]
      · have hsome := not_not.mp (mt hkeys.mpr hnone)
        simp only [hnone, hsome, Bool.not_true, Bool.false_eq_true, if_false, true_and,
          forall_const]
        cases env.dsigVerify ⟨keysManager, publicKey, option.emptyUri, idAttrName⟩ signed with
        | error => simp
        | invalid => simp
        | succeeded references =>
          simp only [DsigOutcome.succeeded.injEq]
          rw [← referencesChecks_iff]
          cases !option.noSingleReference || references.length == 1 with
          | false => simp
          | true => cases referencesNode signed idAttrName option references <;> simp

/-- The references of an accepted signature are sound just if verification is on, there is a single
one or `NO_SINGLE_REFERENCE` is given, and no missing attribute is taken for the ID `(null)`. -/
theorem soundReferences_iff
    (h : (verifySignature env (some signed) idAttrName keysManager publicKey option).1 = .ok) :
    SoundReferences env signed idAttrName keysManager publicKey option ↔
      env.verifySignatureFlag = true ∧
        ∀ uri rest, env.dsigVerify ⟨keysManager, publicKey, option.emptyUri, idAttrName⟩ signed =
            .succeeded (some uri :: rest) →
          (option.noSingleReference = true ∨ rest = []) ∧
          (idAttrName.bind signed.node.getProp = none → uri ≠ "#(null)") := by
  have haccepted := (verifySignature_ok_iff.mp h).2
  constructor
  · rintro ⟨uri, rest, hverified, hsingle, hdesignates⟩
    obtain ⟨hflag, hdsig⟩ := verifiedReferences_eq_some.mp hverified
    refine ⟨hflag, ?_⟩
    intro uri' rest' hdsig'
    obtain ⟨rfl, rfl⟩ : uri = uri' ∧ rest = rest' := by simpa [hdsig] using hdsig'
    refine ⟨?_, ?_⟩
    · cases hoption : option.noSingleReference with
      | true => exact .inl rfl
      | false => exact .inr (hsingle hoption)
    · intro hmissing
      rcases hdesignates with ⟨id, hid, -⟩ | ⟨-, -, rfl⟩
      · simp [hmissing] at hid
      · decide
  · rintro ⟨hflag, hcondition⟩
    obtain ⟨-, uri, rest, hverified, -, hdesignates⟩ := haccepted hflag
    obtain ⟨-, hdsig⟩ := verifiedReferences_eq_some.mp hverified
    obtain ⟨hsingle, hpresent⟩ := hcondition uri rest hdsig
    refine ⟨uri, rest, hverified, ?_, ?_⟩
    · intro hoption
      rcases hsingle with hgiven | hrest
      · simp [hoption] at hgiven
      · exact hrest
    · rcases hdesignates with huri | hempty
      · left
        cases hid : idAttrName.bind signed.node.getProp with
        | none => exact absurd (by simpa [hid, referenceUri] using huri) (hpresent hid)
        | some id => exact ⟨id, hid, by simpa [hid, referenceUri] using huri⟩
      · exact .inr hempty

end

/-! ## Two references under the default options -/

/-- A response that contains a signature. -/
def signedResponse : XmlNode :=
  .element (some saml2ProtocolHref) "Response" [{ name := "ID", value := "_1" }]
    [.element (some xmlSecDSigNs) "Signature" [] []]

/-- Every signature verifies, with references to the signed node and to another one. -/
def twoReferencesEnv : Env :=
  withDsig Env.refusing fun _ _ => .succeeded [some "#_1", some "#_2"]

/-- A signature with two references is accepted though a single one is required. -/
theorem verifySignature_accepts_two_references :
    ¬ ∀ (env : Env) (signed : NodeRef) (idAttrName : Option String)
        (keysManager : Option KeysMngr) (publicKey : Option SecKey)
        (option : SignatureVerificationOption),
      (verifySignature env (some signed) idAttrName keysManager publicKey option).1 = .ok →
        SoundReferences env signed idAttrName keysManager publicKey option := by
  intro hall
  obtain ⟨uri, rest, hverified, hsingle, -⟩ :=
    hall twoReferencesEnv (.ofRoot signedResponse) (some "ID") none (some ⟨.rsa, []⟩) noOption
      (by decide)
  obtain ⟨-, hdsig⟩ := verifiedReferences_eq_some.mp hverified
  simp [hsingle rfl, twoReferencesEnv] at hdsig

/-- Every signature verifies, with a reference to the signed node only. -/
def oneReferenceEnv : Env :=
  withDsig Env.refusing fun _ _ => .succeeded [some "#_1"]

theorem soundReferences_iff_oneReference :
    (verifySignature oneReferenceEnv (some (.ofRoot signedResponse)) (some "ID") none
        (some ⟨.rsa, []⟩) noOption).1 = .ok ∧
      SoundReferences oneReferenceEnv (.ofRoot signedResponse) (some "ID") none
        (some ⟨.rsa, []⟩) noOption := by
  have hok : (verifySignature oneReferenceEnv (some (.ofRoot signedResponse)) (some "ID") none
      (some ⟨.rsa, []⟩) noOption).1 = .ok := by decide
  refine ⟨hok, (soundReferences_iff hok).mpr ⟨rfl, ?_⟩⟩
  intro uri rest hdsig
  obtain ⟨rfl, rfl⟩ : "#_1" = uri ∧ rest = [] := by simpa [oneReferenceEnv] using hdsig
  exact ⟨.inr rfl, fun _ => by decide⟩

end Lasso
