import Lasso.Saml20.Profile

/-!
# The name identifier of a message

`lasso_saml20_profile_process_name_identifier_decryption` takes the NameID of a message, or decrypts
its EncryptedID straight into the profile.

## Main definitions

* `Obtained` — the NameID that a message gives.
* `Extraction` — what the function promises.
* `Extractable` — the messages for which it keeps the promise.

## Main results

* `extraction_iff` — it keeps the promise for these and for no others.
-/

namespace Lasso.Saml20

section

variable (cx : Context) (profile : Profile) (nameId : Option Saml2NameId)
  (encryptedId : Option Saml2EncryptedElement)

/-- What the first key that decrypts an element makes of it. -/
def Decrypts (encrypted : Saml2EncryptedElement) (keys : List SecKey) (node : LassoNode) : Prop :=
  ∃ before key after, keys = before ++ key :: after ∧
    (∀ k ∈ before, ∃ rc, cx.decrypt encrypted k = .error rc) ∧ cx.decrypt encrypted key = .ok node

/-- The NameID that is there in clear, or the one that the EncryptedID decrypts to. -/
def Obtained (n : Saml2NameId) : Prop :=
  nameId = some n ∨ nameId = none ∧ ∃ encrypted ∈ encryptedId,
    Decrypts cx encrypted (encryptionPrivateKeys profile) (.saml2NameId n)

/-- No NameID can be found: there is none, or something else was encrypted. -/
def NoneFound : Prop :=
  nameId = none ∧ (encryptedId = none ∨ ∃ encrypted ∈ encryptedId, ∃ node,
    Decrypts cx encrypted (encryptionPrivateKeys profile) node ∧ ∀ n, node ≠ .saml2NameId n)

/-- What the function promises about its code, the profile and the two fields. -/
structure Extraction
    (result : Rc × Profile × Option Saml2NameId × Option Saml2EncryptedElement) : Prop where
  ok_iff : result.1 = .ok ↔ ∃ n, Obtained cx profile nameId encryptedId n
  obtained : result.1 = .ok → ∃ n, Obtained cx profile nameId encryptedId n ∧
    result.2.1.nameIdentifier = some (.saml2NameId n) ∧ result.2.2.1 = some n ∧
    (nameId = none → result.2.2.2 = none)
  missing : NoneFound cx profile nameId encryptedId → result.1 = .profile .missingNameIdentifier
  unchanged : result.1 ≠ .ok →
    result.2.2 = (nameId, encryptedId) ∧ result.2.1.nameIdentifier = profile.nameIdentifier

/-- A NameID, or an EncryptedID that decrypts to one or leaves the profile as it is. -/
def Extractable : Prop :=
  nameId.isSome ∨ ∃ encrypted ∈ encryptedId,
    (∀ node, Decrypts cx encrypted (encryptionPrivateKeys profile) node →
      (∃ n, node = .saml2NameId n) ∨ profile.nameIdentifier = some node) ∧
    ((∀ node, ¬ Decrypts cx encrypted (encryptionPrivateKeys profile) node) →
      (∃ key ∈ encryptionPrivateKeys profile,
        cx.decrypt encrypted key =
          .error ⟨.xml .objectConstructionFailed, by decide⟩) → profile.nameIdentifier = none)

end

/-! ## Decrypting -/

section

variable {cx : Context} {encrypted : Saml2EncryptedElement} {keys : List SecKey}

theorem decrypts_cons_ok {key : SecKey} {node node' : LassoNode}
    (h : cx.decrypt encrypted key = .ok node) :
    Decrypts cx encrypted (key :: keys) node' ↔ node = node' := by
  constructor
  · rintro ⟨before, key', after, hkeys, hbefore, hnode⟩
    cases before with
    | nil =>
      cases hkeys
      exact Except.ok.inj (h.symm.trans hnode)
    | cons k before =>
      cases hkeys
      obtain ⟨rc, hrc⟩ := hbefore key List.mem_cons_self
      cases h.symm.trans hrc
  · rintro rfl
    exact ⟨[], key, keys, rfl, by simp, h⟩

theorem decrypts_cons_error {key : SecKey} {node : LassoNode} {rc : ErrorRc}
    (h : cx.decrypt encrypted key = .error rc) :
    Decrypts cx encrypted (key :: keys) node ↔ Decrypts cx encrypted keys node := by
  constructor
  · rintro ⟨before, key', after, hkeys, hbefore, hnode⟩
    cases before with
    | nil =>
      cases hkeys
      cases h.symm.trans hnode
    | cons k before =>
      cases hkeys
      exact ⟨before, key', after, rfl, (List.forall_mem_cons.mp hbefore).2, hnode⟩
  · rintro ⟨before, key', after, rfl, hbefore, hnode⟩
    exact ⟨key :: before, key', after, rfl, List.forall_mem_cons.mpr ⟨⟨rc, h⟩, hbefore⟩, hnode⟩

/-- The loop gives what the first key that decrypts makes of the element. -/
theorem decryptWithKeys_eq_ok_iff (rc : Rc) {node : LassoNode} :
    decryptWithKeys cx encrypted rc keys = .ok node ↔ Decrypts cx encrypted keys node := by
  induction keys generalizing rc with
  | nil =>
    constructor
    · intro h
      cases h
    · rintro ⟨before, key, after, hkeys, -⟩
      simp at hkeys
  | cons key keys ih =>
    rw [decryptWithKeys]
    cases hdecrypt : cx.decrypt encrypted key with
    | ok node' =>
      rw [decrypts_cons_ok hdecrypt]
      exact ⟨Except.ok.inj, congrArg Except.ok⟩
    | error rc' =>
      rw [decrypts_cons_error hdecrypt]
      exact ih rc'

/-- If no key decrypts the element, the field is cleared by one that decrypts something else. -/
theorem decryptOutput_eq_self_iff {output : Option LassoNode}
    (h : ∀ node, ¬ Decrypts cx encrypted keys node) :
    decryptOutput cx encrypted output keys = output ↔
      ((∃ key ∈ keys, cx.decrypt encrypted key =
        .error ⟨.xml .objectConstructionFailed, by decide⟩) → output = none) := by
  induction keys generalizing output with
  | nil => simp [decryptOutput]
  | cons key keys ih =>
    cases hdecrypt : cx.decrypt encrypted key with
    | ok node => exact absurd ((decrypts_cons_ok hdecrypt).mpr rfl) (h node)
    | error rc =>
      have hrest (node : LassoNode) : ¬ Decrypts cx encrypted keys node :=
        fun hnode => h node ((decrypts_cons_error hdecrypt).mpr hnode)
      obtain ⟨rc, hrc⟩ := rc
      have hstep : decryptOutput cx encrypted output (key :: keys) =
          decryptOutput cx encrypted
            (if rc = .xml .objectConstructionFailed then none else output) keys := by
        simp [decryptOutput, hdecrypt]
      rw [hstep]
      by_cases hclears : rc = .xml .objectConstructionFailed
      · subst hclears
        have hnone : decryptOutput cx encrypted none keys = none :=
          (ih hrest).mpr fun _ => rfl
        rw [if_pos rfl, hnone]
        constructor
        · exact fun h _ => h.symm
        · exact fun h => (h ⟨key, List.mem_cons_self, hdecrypt⟩).symm
      · rw [if_neg hclears, ih hrest]
        simp [hdecrypt, hclears]

end

/-! ## The promise -/

section

variable {cx : Context} {profile : Profile} {nameId : Option Saml2NameId}
  {encryptedId : Option Saml2EncryptedElement}

theorem obtained_of_encrypted {encrypted : Saml2EncryptedElement} {n : Saml2NameId} :
    Obtained cx profile none (some encrypted) n ↔
      Decrypts cx encrypted (encryptionPrivateKeys profile) (.saml2NameId n) := by
  simp [Obtained]

/-- The first key that decrypts decides. -/
theorem Decrypts.unique {encrypted : Saml2EncryptedElement} {keys : List SecKey}
    {node node' : LassoNode} (h : Decrypts cx encrypted keys node)
    (h' : Decrypts cx encrypted keys node') : node = node' := by
  have hok := (decryptWithKeys_eq_ok_iff .ok).mpr h
  exact Except.ok.inj (hok.symm.trans ((decryptWithKeys_eq_ok_iff .ok).mpr h'))

theorem extraction_of_clear (n : Saml2NameId) :
    Extraction cx profile (some n) encryptedId
      (processNameIdentifierDecryption cx profile (some n) encryptedId) where
  ok_iff := iff_of_true rfl ⟨n, .inl rfl⟩
  obtained _ := ⟨n, .inl rfl, rfl, rfl, fun h => nomatch h⟩
  missing h := nomatch h.1
  unchanged h := absurd rfl h

/-- Without NameID and EncryptedID the function succeeds. -/
theorem not_extraction_of_none :
    ¬ Extraction cx profile none none (processNameIdentifierDecryption cx profile none none) := by
  intro h
  obtain ⟨n, hclear | ⟨-, encrypted, hencrypted, -⟩⟩ := h.ok_iff.mp rfl
  · cases hclear
  · cases hencrypted

theorem extraction_of_nameId {encrypted : Saml2EncryptedElement} {n : Saml2NameId}
    (h : Decrypts cx encrypted (encryptionPrivateKeys profile) (.saml2NameId n)) :
    Extraction cx profile none (some encrypted)
      (processNameIdentifierDecryption cx profile none (some encrypted)) := by
  have hresult : processNameIdentifierDecryption cx profile none (some encrypted) =
      (.ok, { profile with nameIdentifier := some (.saml2NameId n) }, some n, none) := by
    simp only [processNameIdentifierDecryption, (decryptWithKeys_eq_ok_iff _).mpr h]
  have hobtained : Obtained cx profile none (some encrypted) n := obtained_of_encrypted.mpr h
  rw [hresult]
  refine ⟨iff_of_true rfl ⟨n, hobtained⟩, fun _ => ⟨n, hobtained, rfl, rfl, fun _ => rfl⟩, ?_,
    fun hne => absurd rfl hne⟩
  rintro ⟨-, hnone | ⟨encrypted', hencrypted, node, hnode, hother⟩⟩
  · cases hnone
  · cases hencrypted
    exact absurd (hnode.unique h) (hother n)

/-- Something else that is decrypted is left in the profile. -/
theorem extraction_of_other {encrypted : Saml2EncryptedElement} {node : LassoNode}
    (h : Decrypts cx encrypted (encryptionPrivateKeys profile) node)
    (hother : ∀ n, node ≠ .saml2NameId n) :
    Extraction cx profile none (some encrypted)
        (processNameIdentifierDecryption cx profile none (some encrypted)) ↔
      profile.nameIdentifier = some node := by
  have hresult : processNameIdentifierDecryption cx profile none (some encrypted) =
      (.profile .missingNameIdentifier, { profile with nameIdentifier := some node }, none,
        some encrypted) := by
    simp only [processNameIdentifierDecryption, (decryptWithKeys_eq_ok_iff _).mpr h]
  have hnone (n : Saml2NameId) : ¬ Obtained cx profile none (some encrypted) n :=
    fun hobtained => hother n (h.unique (obtained_of_encrypted.mp hobtained))
  rw [hresult]
  constructor
  · exact fun hextraction => ((hextraction.unchanged (by simp)).2).symm
  · intro hsame
    refine ⟨iff_of_false (by simp) ?_, ?_, fun _ => rfl, fun _ => ⟨rfl, hsame.symm⟩⟩
    · rintro ⟨n, hobtained⟩
      exact hnone n hobtained
    · intro hok
      cases hok

/-- If nothing is decrypted, the profile keeps its NameID unless an attempt clears it. -/
theorem extraction_of_error {encrypted : Saml2EncryptedElement}
    (h : ∀ node, ¬ Decrypts cx encrypted (encryptionPrivateKeys profile) node) :
    Extraction cx profile none (some encrypted)
        (processNameIdentifierDecryption cx profile none (some encrypted)) ↔
      decryptOutput cx encrypted profile.nameIdentifier (encryptionPrivateKeys profile) =
        profile.nameIdentifier := by
  cases hdecrypt : decryptWithKeys cx encrypted (.profile .missingEncryptionPrivateKey)
      (encryptionPrivateKeys profile) with
  | ok node => exact absurd ((decryptWithKeys_eq_ok_iff _).mp hdecrypt) (h node)
  | error rc =>
    have hrc : rc ≠ .ok := decryptWithKeys_ne_ok (by simp) hdecrypt
    have hresult : processNameIdentifierDecryption cx profile none (some encrypted) =
        let output :=
          decryptOutput cx encrypted profile.nameIdentifier (encryptionPrivateKeys profile)
        (rc, { profile with nameIdentifier := output }, none, some encrypted) := by
      simp only [processNameIdentifierDecryption, hdecrypt]
    rw [hresult]
    constructor
    · exact fun hextraction => (hextraction.unchanged hrc).2
    · intro hsame
      refine ⟨iff_of_false hrc ?_, fun hok => absurd hok hrc, ?_, fun _ => ⟨rfl, hsame⟩⟩
      · rintro ⟨n, hobtained⟩
        exact h _ (obtained_of_encrypted.mp hobtained)
      · rintro ⟨-, hnone | ⟨encrypted', hencrypted, node, hnode, -⟩⟩
        · cases hnone
        · cases hencrypted
          exact absurd hnode (h node)

end

/-- The function keeps its promise if and only if the message has a NameID, or an EncryptedID that
decrypts to one or leaves the profile as it is. -/
theorem extraction_iff (cx : Context) (profile : Profile) (nameId : Option Saml2NameId)
    (encryptedId : Option Saml2EncryptedElement) :
    Extraction cx profile nameId encryptedId
        (processNameIdentifierDecryption cx profile nameId encryptedId) ↔
      Extractable cx profile nameId encryptedId := by
  cases nameId with
  | some n => exact iff_of_true (extraction_of_clear n) (.inl rfl)
  | none =>
    cases encryptedId with
    | none => exact iff_of_false not_extraction_of_none (by simp [Extractable])
    | some encrypted =>
      simp only [Extractable, Option.isSome_none, Bool.false_eq_true, false_or, Option.mem_def,
        Option.some.injEq, exists_eq_left']
      by_cases hdecrypts : ∃ node, Decrypts cx encrypted (encryptionPrivateKeys profile) node
      · obtain ⟨node, hnode⟩ := hdecrypts
        have hsome : ¬ ∀ node, ¬ Decrypts cx encrypted (encryptionPrivateKeys profile) node :=
          fun h => h node hnode
        simp only [hsome, false_imp_iff, and_true]
        by_cases hname : ∃ n, node = .saml2NameId n
        · obtain ⟨n, rfl⟩ := hname
          refine iff_of_true (extraction_of_nameId hnode) fun node' hnode' => .inl ⟨n, ?_⟩
          exact hnode'.unique hnode
        · rw [extraction_of_other hnode fun n hn => hname ⟨n, hn⟩]
          constructor
          · rintro hsame node' hnode'
            obtain rfl := hnode'.unique hnode
            exact .inr hsame
          · exact fun h => (h node hnode).resolve_left hname
      · have hnone (node : LassoNode) :
            ¬ Decrypts cx encrypted (encryptionPrivateKeys profile) node :=
          fun hnode => hdecrypts ⟨node, hnode⟩
        rw [extraction_of_error hnone, decryptOutput_eq_self_iff hnone]
        simp only [hnone, false_imp_iff, implies_true, not_false_eq_true, forall_const, true_and]

/-- A message without a name identifier is taken for one with it. -/
theorem nothing_extracted :
    (processNameIdentifierDecryption .refusing {} none none).1 = .ok ∧
      ¬ Extraction .refusing {} none none
        (processNameIdentifierDecryption .refusing {} none none) := by
  refine ⟨rfl, fun h => ?_⟩
  obtain ⟨n, hclear | ⟨-, encrypted, hencrypted, -⟩⟩ := h.ok_iff.mp rfl
  · cases hclear
  · cases hencrypted

end Lasso.Saml20
