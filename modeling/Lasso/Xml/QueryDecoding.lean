import Lasso.Xml.MessageReader
import Lasso.Xml.QuerySign

/-!
# The buffer of a query signature

`queryVerifyHelper` decodes a signature into a new buffer and verifies as many bytes of it as a
signature of the key has, whatever the decoder says. Where it has written fewer, the rest is what
the heap had there before.

## Main definitions

* `HeapContents` — what `g_malloc` may leave in new buffers.
* `DecodesSignature` — what a verification should look at.

## Main results

* `decodesSignature_iff` — when it looks at nothing else.
-/

namespace Lasso

/-- What `g_malloc` leaves in new buffers. -/
structure HeapContents where
  bytes : Nat → Bytes
  length_bytes : ∀ size, (bytes size).length = size

/-- The environment with other heap contents. -/
def Env.withHeap (env : Env) (heap : HeapContents) : Env :=
  { env with freshMemory := heap.bytes }

/-- `xmlSecBase64Decode` stays in its buffer, and returns how much it has written. -/
structure Env.DecodesIntoBuffer (env : Env) : Prop where
  fits : ∀ b64 size, (env.base64Decode b64 size).2.length ≤ size
  written : ∀ b64 size, 0 ≤ (env.base64Decode b64 size).1 →
    ((env.base64Decode b64 size).2.length : Int) = (env.base64Decode b64 size).1

/-- The signature is decoded without error, has the size of a signature by the key, and is accepted
by the primitive. -/
def ExactSignature (env : Env) (content b64Signature algorithm : Bytes) (key : SecKey) : Prop :=
  ∃ method keySize signature, SignatureMethod.ofHref algorithm = some method ∧
    method.signatureSize env key = .ok keySize ∧
    env.base64Decode b64Signature (keySize + 1) = ((keySize : Int), signature) ∧
    signature.length = keySize ∧ method.verify env key content signature = true

/-- A verification looks at the decoded signature only. -/
structure DecodesSignature (env : Env) (content b64Signature algorithm : Bytes) (key : SecKey) :
    Prop where
  exact : ∀ heap, queryVerifyHelper (env.withHeap heap) content b64Signature algorithm key = .ok →
    ExactSignature env content b64Signature algorithm key
  heap : ∀ heap heap', queryVerifyHelper (env.withHeap heap) content b64Signature algorithm key =
    queryVerifyHelper (env.withHeap heap') content b64Signature algorithm key

/-- A signature that is decoded to another size, or with an error, is not the beginning of one that
the primitive accepts. -/
def NotCompletable (env : Env) (content b64Signature algorithm : Bytes) (key : SecKey) : Prop :=
  ∀ method keySize, SignatureMethod.ofHref algorithm = some method →
    method.signatureSize env key = .ok keySize → env.allowedSignatureMethod method = true →
      let decoded := env.base64Decode b64Signature (keySize + 1)
      decoded.1 = 0 ∨ decoded.1 = keySize ∨
        ∀ signature : Bytes, signature.length = keySize → decoded.2.take keySize <+: signature →
          method.verify env key content signature = false

section

variable {env : Env} {content b64Signature algorithm : Bytes} {key : SecKey}
  {method : SignatureMethod} {keySize : Nat} {heap : HeapContents}

/-- The bytes that are verified. -/
def verifiedBytes (env : Env) (heap : HeapContents) (b64Signature : Bytes) (keySize : Nat) :
    Bytes :=
  (decodeBuffer (env.withHeap heap) (env.base64Decode b64Signature (keySize + 1)).2
    (keySize + 1)).take keySize

/-- The outcome for an algorithm and a key that fit each other. -/
theorem queryVerifyHelper_eq (hmethod : SignatureMethod.ofHref algorithm = some method)
    (hsize : method.signatureSize env key = .ok keySize)
    (hallowed : env.allowedSignatureMethod method = true) :
    queryVerifyHelper (env.withHeap heap) content b64Signature algorithm key =
      if (env.base64Decode b64Signature (keySize + 1)).1 ≠ 0 ∧
          method.verify env key content (verifiedBytes env heap b64Signature keySize) = true
      then .ok else .ds .invalidSignature := by
  have hsize' : method.signatureSize (env.withHeap heap) key = .ok keySize := hsize
  have hallowed' : (env.withHeap heap).allowedSignatureMethod method = true := hallowed
  unfold queryVerifyHelper
  simp only [hmethod, hsize', hallowed', Bool.not_true, Bool.false_eq_true, if_false]
  change (if (env.base64Decode b64Signature (keySize + 1)).1 = 0 then Rc.ds .invalidSignature
    else if method.verify env key content (verifiedBytes env heap b64Signature keySize) then .ok
    else .ds .invalidSignature) = _
  split_ifs <;> simp_all

/-- An algorithm or a key that does not fit is refused, whatever is in the heap. -/
theorem queryVerifyHelper_refused
    (h : ∀ method keySize, SignatureMethod.ofHref algorithm = some method →
      method.signatureSize env key = .ok keySize → env.allowedSignatureMethod method = false) :
    ∃ rc, rc ≠ .ok ∧
      ∀ heap, queryVerifyHelper (env.withHeap heap) content b64Signature algorithm key = rc := by
  unfold queryVerifyHelper
  cases hmethod : SignatureMethod.ofHref algorithm with
  | none => exact ⟨_, by simp, fun _ => rfl⟩
  | some method =>
    have hsize (heap : HeapContents) :
        method.signatureSize (env.withHeap heap) key = method.signatureSize env key := rfl
    cases hkey : method.signatureSize env key with
    | error rc =>
      refine ⟨rc, ?_, fun heap => by simp only [hsize, hkey]⟩
      rintro rfl
      unfold SignatureMethod.signatureSize at hkey
      split at hkey <;> split_ifs at hkey <;> simp at hkey
    | ok keySize =>
      refine ⟨.ds .invalidSigalg, by simp, fun heap => ?_⟩
      have hallowed : (env.withHeap heap).allowedSignatureMethod method = false :=
        h method keySize hmethod hkey
      simp only [hsize, hkey, hallowed, Bool.not_false, if_true]

theorem length_verifiedBytes (henv : env.DecodesIntoBuffer) :
    (verifiedBytes env heap b64Signature keySize).length = keySize := by
  have hfits := henv.fits b64Signature (keySize + 1)
  have hheap := heap.length_bytes (keySize + 1)
  simp only [verifiedBytes, decodeBuffer, Env.withHeap, List.length_take, List.length_append,
    List.length_drop, hheap]
  omega

/-- The verified bytes begin with what was decoded. -/
theorem take_prefix_verifiedBytes (henv : env.DecodesIntoBuffer) :
    (env.base64Decode b64Signature (keySize + 1)).2.take keySize <+:
      verifiedBytes env heap b64Signature keySize := by
  have hfits := henv.fits b64Signature (keySize + 1)
  unfold verifiedBytes decodeBuffer
  rw [List.take_take, Nat.min_eq_left (Nat.le_succ keySize), List.take_append]
  exact List.prefix_append _ _

/-- A signature of the right size is verified as it was decoded. -/
theorem verifiedBytes_of_size
    (h : (env.base64Decode b64Signature (keySize + 1)).2.length = keySize) :
    verifiedBytes env heap b64Signature keySize =
      (env.base64Decode b64Signature (keySize + 1)).2 := by
  unfold verifiedBytes decodeBuffer
  rw [List.take_take, Nat.min_eq_left (Nat.le_succ keySize), List.take_append]
  simp [h]

/-- The heap in which the rest of a signature is left. -/
def heapWith (signature : Bytes) : HeapContents where
  bytes size := (signature ++ List.replicate size '\x00').take size
  length_bytes size := by simp

/-- With the right heap contents, what was decoded is completed to any signature. -/
theorem verifiedBytes_heapWith {signature : Bytes} (hlength : signature.length = keySize)
    (hbegins : (env.base64Decode b64Signature (keySize + 1)).2.take keySize <+: signature) :
    verifiedBytes env (heapWith signature) b64Signature keySize = signature := by
  obtain ⟨rest, rfl⟩ := hbegins
  unfold verifiedBytes decodeBuffer Env.withHeap heapWith
  dsimp only
  generalize (env.base64Decode b64Signature (keySize + 1)).2 = written at hlength ⊢
  rw [List.take_take, Nat.min_eq_left (Nat.le_succ keySize), List.take_append]
  congr 1
  rw [List.length_append, List.length_take] at hlength
  rcases Nat.le_total written.length keySize with hle | hle
  · -- the heap has the rest of the signature behind what was written
    rw [List.take_of_length_le hle, List.append_assoc, List.drop_take, List.drop_left,
      List.take_take, List.take_append]
    have hrest : rest.length = keySize - written.length := by omega
    have hmin : min (keySize - written.length) (keySize + 1 - written.length) = rest.length := by
      omega
    rw [hmin, List.take_length, Nat.sub_self, List.take_zero, List.append_nil]
  · have hrest : rest.length = 0 := by omega
    rw [List.length_eq_zero_iff.mp hrest, Nat.sub_eq_zero_of_le hle, List.take_zero]

theorem exactSignature_of_size (henv : env.DecodesIntoBuffer)
    (hmethod : SignatureMethod.ofHref algorithm = some method)
    (hsize : method.signatureSize env key = .ok keySize)
    (hdecoded : (env.base64Decode b64Signature (keySize + 1)).1 = keySize)
    (hverify : method.verify env key content
      (env.base64Decode b64Signature (keySize + 1)).2 = true) :
    ExactSignature env content b64Signature algorithm key := by
  have hwritten := henv.written b64Signature (keySize + 1) (by omega)
  have hlength : (env.base64Decode b64Signature (keySize + 1)).2.length = keySize := by omega
  exact ⟨method, keySize, _, hmethod, hsize, Prod.ext hdecoded rfl, hlength, hverify⟩

theorem decodesSignature_of_refused {rc : Rc} (hrc : rc ≠ .ok)
    (h : ∀ heap, queryVerifyHelper (env.withHeap heap) content b64Signature algorithm key = rc) :
    DecodesSignature env content b64Signature algorithm key where
  exact heap hok := absurd ((h heap).symm.trans hok) hrc
  heap heap heap' := (h heap).trans (h heap').symm

/-- For an algorithm and a key that fit: nothing but the decoded signature is looked at just when
what was decoded cannot be completed. -/
theorem decodesSignature_of_method (henv : env.DecodesIntoBuffer)
    (hmethod : SignatureMethod.ofHref algorithm = some method)
    (hsize : method.signatureSize env key = .ok keySize)
    (hallowed : env.allowedSignatureMethod method = true) :
    DecodesSignature env content b64Signature algorithm key ↔
      (env.base64Decode b64Signature (keySize + 1)).1 = 0 ∨
        (env.base64Decode b64Signature (keySize + 1)).1 = keySize ∨
        ∀ signature : Bytes, signature.length = keySize →
          (env.base64Decode b64Signature (keySize + 1)).2.take keySize <+: signature →
            method.verify env key content signature = false := by
  have hresult (heap : HeapContents) :=
    @queryVerifyHelper_eq env content b64Signature algorithm key method keySize heap hmethod hsize
      hallowed
  constructor
  · intro h
    by_contra hcontra
    obtain ⟨hzero, hother, hcompletable⟩ := by simpa only [not_or] using hcontra
    push Not at hcompletable
    obtain ⟨signature, hlength, hbegins, hverify⟩ := hcompletable
    have haccepted := h.exact (heapWith signature) (by
      rw [hresult, verifiedBytes_heapWith hlength hbegins]
      exact if_pos ⟨hzero, Bool.not_eq_false _ ▸ hverify⟩)
    obtain ⟨method', keySize', _, hmethod', hsize', hdecoded, -⟩ := haccepted
    obtain rfl : method = method' := Option.some.inj (hmethod.symm.trans hmethod')
    obtain rfl : keySize = keySize' := Except.ok.inj (hsize.symm.trans hsize')
    exact hother (congrArg Prod.fst hdecoded)
  · rintro (hzero | hdecoded | hrefused)
    · have hne : Rc.ds .invalidSignature ≠ .ok := by simp
      apply decodesSignature_of_refused hne
      intro heap
      rw [hresult, if_neg fun h => h.1 hzero]
    · have hlength := henv.written b64Signature (keySize + 1) (by omega)
      have hbytes (heap : HeapContents) :=
        @verifiedBytes_of_size env b64Signature keySize heap (by omega)
      constructor
      · intro heap h
        rw [hresult, hbytes] at h
        split_ifs at h with haccepted
        exact exactSignature_of_size henv hmethod hsize hdecoded haccepted.2
      · intro heap heap'
        rw [hresult, hresult, hbytes, hbytes]
    · have hne : Rc.ds .invalidSignature ≠ .ok := by simp
      apply decodesSignature_of_refused hne
      intro heap
      have hfalse := hrefused _ (@length_verifiedBytes env b64Signature keySize heap henv)
        (take_prefix_verifiedBytes henv)
      rw [hresult, if_neg fun h => Bool.false_ne_true (hfalse.symm.trans h.2)]

/-- A verification looks at the decoded signature only, just when what was decoded cannot be
completed to a signature. -/
theorem decodesSignature_iff (henv : env.DecodesIntoBuffer)
    (content b64Signature algorithm : Bytes) (key : SecKey) :
    DecodesSignature env content b64Signature algorithm key ↔
      NotCompletable env content b64Signature algorithm key := by
  by_cases hfits : ∃ method keySize, SignatureMethod.ofHref algorithm = some method ∧
      method.signatureSize env key = .ok keySize ∧ env.allowedSignatureMethod method = true
  · obtain ⟨method, keySize, hmethod, hsize, hallowed⟩ := hfits
    rw [decodesSignature_of_method henv hmethod hsize hallowed]
    constructor
    · intro h method' keySize' hmethod' hsize' _
      obtain rfl : method = method' := Option.some.inj (hmethod.symm.trans hmethod')
      obtain rfl : keySize = keySize' := Except.ok.inj (hsize.symm.trans hsize')
      exact h
    · intro h
      exact h method keySize hmethod hsize hallowed
  · push Not at hfits
    have hnot (method : SignatureMethod) (keySize : Nat)
        (hmethod : SignatureMethod.ofHref algorithm = some method)
        (hsize : method.signatureSize env key = .ok keySize) :
        env.allowedSignatureMethod method = false :=
      Bool.not_eq_true _ ▸ hfits method keySize hmethod hsize
    obtain ⟨rc, hrc, hrefused⟩ :=
      @queryVerifyHelper_refused env content b64Signature algorithm key hnot
    apply iff_of_true
    · exact decodesSignature_of_refused hrc hrefused
    · intro method keySize hmethod hsize hallowed
      rw [hnot method keySize hmethod hsize] at hallowed
      cases hallowed

end

/-! ## A message authentication code that is left in the heap -/

/-- An environment where every message has the authentication code `mac`. -/
def macEnv : Env :=
  { Env.refusing with
    base64Decode := base64DecodeLines
    digestSize := fun _ => 3
    hmac := fun _ _ _ => "mac".toList }

theorem macEnv_decodesIntoBuffer : macEnv.DecodesIntoBuffer where
  fits b64 size := by
    show (base64DecodeLines b64 size).2.length ≤ size
    unfold base64DecodeLines
    split
    · split_ifs with hsize
      · simpa using hsize
      · simp
    · simp
  written b64 size h := by
    show ((base64DecodeLines b64 size).2.length : Int) = (base64DecodeLines b64 size).1
    replace h : 0 ≤ (base64DecodeLines b64 size).1 := h
    unfold base64DecodeLines at h ⊢
    split
    · split_ifs <;> simp_all
    · simp_all

def macKey : SecKey where
  id := .hmac
  value := "0123456789abcdef".toList

theorem ofHref_hmacSha256 {method : SignatureMethod}
    (h : SignatureMethod.ofHref SignatureMethod.hmacSha256.href.toList = some method) :
    method = .hmacSha256 := by
  rw [ofHref_href (by simp)] at h
  exact (Option.some.inj h).symm

theorem decodesSignature_iff_mac :
    DecodesSignature macEnv "m".toList "bWFj".toList SignatureMethod.hmacSha256.href.toList
      macKey := by
  apply (decodesSignature_iff macEnv_decodesIntoBuffer _ _ _ _).mpr
  intro method keySize hmethod hsize _
  obtain rfl := ofHref_hmacSha256 hmethod
  obtain rfl : 3 = keySize := Except.ok.inj hsize
  exact .inr (.inl (by decide +kernel))

/-- A signature that is no base64 is accepted if the code is still in the heap. -/
theorem undecodable_accepted :
    ¬ ∀ (env : Env), env.DecodesIntoBuffer → ∀ content b64Signature algorithm key,
      DecodesSignature env content b64Signature algorithm key := by
  intro h
  have hdecodes := h macEnv macEnv_decodesIntoBuffer "m".toList "!".toList
    SignatureMethod.hmacSha256.href.toList macKey
  have hfails : macEnv.base64Decode "!".toList 4 = (-1, []) := by decide +kernel
  have hbytes : verifiedBytes macEnv (heapWith "mac".toList) "!".toList 3 = "mac".toList :=
    verifiedBytes_heapWith rfl (by rw [hfails]; exact List.nil_prefix)
  have hsize : SignatureMethod.hmacSha256.signatureSize macEnv macKey = .ok 3 := rfl
  have hresult : queryVerifyHelper (macEnv.withHeap (heapWith "mac".toList)) "m".toList
      "!".toList SignatureMethod.hmacSha256.href.toList macKey = .ok := by
    rw [queryVerifyHelper_eq (ofHref_href (by simp)) hsize (by decide), hbytes, hfails]
    exact if_pos ⟨by decide, rfl⟩
  obtain ⟨method, keySize, signature, hmethod, hkeySize, hdecoded, -⟩ := hdecodes.exact _ hresult
  obtain rfl := ofHref_hmacSha256 hmethod
  obtain rfl : 3 = keySize := Except.ok.inj hkeySize
  rw [hfails] at hdecoded
  cases congrArg Prod.fst hdecoded

end Lasso
