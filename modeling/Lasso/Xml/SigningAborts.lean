import Lasso.Xml.QuerySign

/-!
# The assertions of the signer

`querySign` asserts that a signature has the size that its buffer was made for, before it looks at
whether there is a signature at all.

## Main definitions

* `SigningEnv.FitsBuffer` — the contract of the signing primitives.
* `SignatureFits` — the signatures that pass the assertion.

## Main results

* `querySign_returns_iff` — a signing does not stop the program for these only.
-/

namespace Lasso

/-- The primitives fail, or give a signature that fits the announced size. -/
structure SigningEnv.FitsBuffer (env : SigningEnv) : Prop where
  rsa : ∀ alg digest key sigret, env.rsaSign alg digest key = some sigret →
    sigret.length ≤ env.keySize key
  dsa : ∀ alg digest key sigret, env.dsaSign alg digest key = some sigret →
    sigret.length ≤ env.keySize key
  hmac : ∀ alg key content, (env.hmac alg key content).length ≤ env.digestSize alg

/-- The signature of `content` has the size of its buffer. A key for HMAC that is too short is
refused before, and a primitive that fails gives a signature of size zero. -/
def SignatureFits (env : SigningEnv) (method : SignatureMethod) (key : SecKey) (content : Bytes) :
    Prop :=
  match method.keyDataId with
  | .hmac => key.value.length < 16 ∨
      (env.hmac method.digestAlg key.value content).length = env.digestSize method.digestAlg
  | _ => ((method.sign env key content).getD []).length = env.keySize key

section

variable {env : SigningEnv} {context : SignatureContext} {key : SecKey} {query : Bytes}

theorem signatureSize_hmac {method : SignatureMethod} (hmethod : method.keyDataId = .hmac)
    (hid : key.id = .hmac) :
    method.signatureSize env.toEnv key =
      if key.value = [] then .error (.param .invalidValue)
      else .ok (env.digestSize method.digestAlg) := by
  unfold SignatureMethod.signatureSize
  simp [hmethod, hid]

theorem signatureSize_asymmetric {method : SignatureMethod} (hmethod : method.keyDataId ≠ .hmac)
    (hid : key.id = method.keyDataId) :
    method.signatureSize env.toEnv key = .ok (env.keySize key) := by
  unfold SignatureMethod.signatureSize
  cases hkind : method.keyDataId with
  | hmac => exact absurd hkind hmethod
  | _ => simp [hid, hkind]

/-- The method signs something, since it has a key type. -/
theorem sign_hmac {method : SignatureMethod} (hmethod : method.keyDataId = .hmac)
    (content : Bytes) :
    method.sign env key content = some (env.hmac method.digestAlg key.value content) := by
  unfold SignatureMethod.sign
  rw [hmethod]

/-- With HMAC nothing but the size of the code is asserted. -/
theorem querySign_hmac (hkey : context.signatureKey = some key)
    (hallowed : env.okSignatureMethod context.signatureMethod = true)
    (hmethod : context.signatureMethod.keyDataId = .hmac) (hid : key.id = .hmac) :
    querySign env (some query) context ≠ .aborted ↔
      SignatureFits env context.signatureMethod key (newQuery query context.signatureMethod) := by
  unfold querySign SignatureFits
  simp only [hallowed, hmethod, hkey, Bool.not_true, Bool.false_eq_true, if_false,
    signatureSize_hmac hmethod hid, sign_hmac hmethod, if_true, true_and]
  by_cases hempty : key.value = []
  · simp [hempty]
  · rw [if_neg hempty]
    dsimp only
    split_ifs with hshort hsize
    · simp [hshort]
    · simp [hshort, hsize]
    · simp [not_not.mp hsize]

/-- With RSA and DSA a primitive that fails does not pass the assertion either. -/
theorem querySign_asymmetric (hkey : context.signatureKey = some key)
    (hallowed : env.okSignatureMethod context.signatureMethod = true)
    (hmethod : context.signatureMethod.keyDataId ≠ .hmac)
    (hid : key.id = context.signatureMethod.keyDataId) :
    querySign env (some query) context ≠ .aborted ↔
      SignatureFits env context.signatureMethod key (newQuery query context.signatureMethod) := by
  have hfits (content : Bytes) : SignatureFits env context.signatureMethod key content ↔
      ((context.signatureMethod.sign env key content).getD []).length = env.keySize key := by
    unfold SignatureFits
    cases hkind : context.signatureMethod.keyDataId with
    | hmac => exact absurd hkind hmethod
    | _ => rfl
  rw [hfits]
  unfold querySign
  simp only [hallowed, hmethod, hkey, Bool.not_true, Bool.false_eq_true, if_false,
    signatureSize_asymmetric hmethod hid, false_and]
  cases context.signatureMethod.sign env key (newQuery query context.signatureMethod) with
  | none =>
    simp only [Option.getD_none, List.length_nil]
    split_ifs with hzero
    · simp [Ne.symm hzero]
    · simp [not_not.mp hzero]
  | some sigret =>
    simp only [Option.getD_some]
    split_ifs with hsize
    · simp [hsize]
    · simp [not_not.mp hsize]

/-- With a key of the type that the method works with, a signing returns just when the signature
passes the assertion. -/
theorem querySign_returns_iff (query : Option Bytes) (hkey : context.signatureKey = some key)
    (hid : key.id = context.signatureMethod.keyDataId)
    (hallowed : env.okSignatureMethod context.signatureMethod = true) :
    (∃ result, querySign env query context = .returns result) ↔
      ∀ content, query = some content →
        SignatureFits env context.signatureMethod key
          (newQuery content context.signatureMethod) := by
  have hreturns (result : Asserted (Option Bytes)) :
      (∃ r, result = .returns r) ↔ result ≠ .aborted := by
    cases result <;> simp
  rw [hreturns]
  cases query with
  | none => simp [querySign]
  | some query =>
    simp only [Option.some.injEq, forall_eq']
    by_cases hmethod : context.signatureMethod.keyDataId = .hmac
    · exact querySign_hmac hkey hallowed hmethod (hid.trans hmethod)
    · exact querySign_asymmetric hkey hallowed hmethod hid

end

/-! ## A short signature -/

/-- A key for DSA with 160 bits: a signature has at most 48 bytes, and often 46. -/
def dsaKey : SecKey where
  id := .dsa
  value := "dsa".toList

/-- An environment where this key signs with 46 bytes, and RSA fails. -/
def dsaEnv : SigningEnv :=
  { signingEnv with
    rsaSign := fun _ _ _ => none
    dsaSign := fun _ _ key => if key = dsaKey then some (List.replicate 46 's') else none
    keySize := fun key => if key = dsaKey then 48 else 256
    digestSize := fun _ => 20
    hmac := fun _ _ _ => List.replicate 20 'm' }

theorem dsaEnv_fitsBuffer : dsaEnv.FitsBuffer where
  rsa _ _ _ _ h := by cases h
  dsa alg digest key sigret h := by
    replace h : (if key = dsaKey then some (List.replicate 46 's') else none) = some sigret := h
    split_ifs at h with hkey
    obtain rfl := Option.some.inj h
    subst hkey
    decide
  hmac _ _ _ := le_refl 20

/-- A context with a key for HMAC. -/
def hmacContext : SignatureContext where
  signatureMethod := .hmacSha256
  signatureKey := some { id := .hmac, value := "0123456789abcdef".toList }

theorem querySign_returns_iff_hmac :
    ∃ result, querySign dsaEnv (some "q".toList) hmacContext = .returns result := by
  apply (querySign_returns_iff (some "q".toList) rfl rfl (by decide)).mpr
  intro content _
  exact .inr rfl

/-- A signature of 46 bytes stops the program, and so does a key that cannot sign. -/
theorem shortSignature_aborts :
    ¬ ∀ (env : SigningEnv) (query : Option Bytes) (context : SignatureContext) (key : SecKey),
      env.FitsBuffer → context.signatureKey = some key →
        key.id = context.signatureMethod.keyDataId →
          env.okSignatureMethod context.signatureMethod = true →
            ∃ result, querySign env query context = .returns result := by
  intro h
  obtain ⟨result, hresult⟩ := h dsaEnv (some "q".toList)
    { signatureMethod := .dsaSha1, signatureKey := some dsaKey } dsaKey dsaEnv_fitsBuffer rfl rfl
    (by decide)
  have haborted : querySign dsaEnv (some "q".toList)
      { signatureMethod := .dsaSha1, signatureKey := some dsaKey } = .aborted := by
    decide +kernel
  rw [haborted] at hresult
  cases hresult

end Lasso
