import Mathlib.Data.List.AList
import Lasso.Env
import Lasso.ErrorCode

/-!
# Providers

A provider is the local view of one party: its keys and the values read from its metadata.
-/

namespace Lasso

/-- `LassoProviderRole`, without the bit masks. -/
inductive ProviderRole where
  | none
  | sp
  | idp
  | both
  | authnAuthority
  | authzAuthority
  | attributeAuthority
deriving DecidableEq

/-- `role_to_prefix`: the head of the metadata keys of a role. -/
def ProviderRole.metadataHead : ProviderRole → Option String
  | none | both => Option.none
  | idp => some "idp"
  | sp => some "sp"
  | authnAuthority => some "authn-authority"
  | authzAuthority => some "pdp"
  | attributeAuthority => some "attribute-authority"

/-- `LassoProtocolConformance` -/
inductive ProtocolConformance where
  | none
  | liberty10
  | liberty11
  | liberty12
  | saml20
deriving DecidableEq

/-- `LassoEncryptionMode`, with the combination of its two bits. -/
inductive EncryptionMode where
  | none
  | nameId
  | assertion
  | both
deriving DecidableEq

/-- `EndpointType` -/
structure EndpointType where
  role : ProviderRole
  kind : String
  binding : String
  url : String
  returnUrl : Option String := none
  index : Int := -1
  isDefault : Int := 0
deriving DecidableEq

structure Provider where
  providerId : Option String
  role : ProviderRole := .none
  publicKey : Option String := none
  caCertChain : Option String := none
  conformance : ProtocolConformance := .none
  descriptors : AList (fun _ : String => List String) := ∅
  signingPublicKeys : List SecKey := []
  signingKeyDescriptors : List XmlNode := []
  endpoints : List EndpointType := []
  encryptionMode : EncryptionMode := .none
  affiliationId : Option String := none

namespace Provider

/-- `lasso_provider_get_metadata_list_for_role` -/
def getMetadataListForRole (p : Provider) (role : ProviderRole) (name : String) : List String :=
  match role.metadataHead with
  | none => []
  | some head => (p.descriptors.lookup (head ++ " " ++ name)).getD []

/-- `lasso_provider_get_metadata_one_for_role` -/
def getMetadataOneForRole (p : Provider) (role : ProviderRole) (name : String) : Option String :=
  (p.getMetadataListForRole role name).head?

/-- `lasso_provider_get_metadata_list` -/
def getMetadataList (p : Provider) (name : String) : List String :=
  p.getMetadataListForRole p.role name

/-- `lasso_provider_get_metadata_one` -/
def getMetadataOne (p : Provider) (name : String) : Option String :=
  p.getMetadataOneForRole p.role name

/-- The provider has no key material besides a certificate chain. -/
def keyless (p : Provider) : Bool := p.publicKey.isNone && p.signingKeyDescriptors.isEmpty

/-- The keys with which messages of the provider are verified. -/
def verificationKeys (p : Provider) : List SecKey := if p.keyless then [] else p.signingPublicKeys

/-- `lasso_provider_try_loading_public_keys` -/
def tryLoadingPublicKeys (p : Provider) (mandatory : Bool) : Except Rc (List SecKey) :=
  if !p.keyless then
    if p.signingPublicKeys = [] then .error (.ds .publicKeyLoadFailed)
    else .ok p.signingPublicKeys
  else if mandatory then .error .missingPublicKey
  else .ok []

/-- `lasso_provider_try_loading_ca_cert_chain` -/
def tryLoadingCaCertChain (env : Env) (p : Provider) : Except Rc (Option KeysMngr) :=
  match p.caCertChain with
  | none => .ok none
  | some chain =>
    match env.loadCerts chain with
    | none => .error (.ds .caCertChainLoadFailed)
    | some keysMngr => .ok (some keysMngr)

/-- The certificate chain, and the public keys, which are mandatory if there is none. -/
def loadCredentials (env : Env) (p : Provider) : Except Rc (Option KeysMngr × List SecKey) :=
  match p.tryLoadingCaCertChain env with
  | .error rc => .error rc
  | .ok keysMngr =>
    match p.tryLoadingPublicKeys keysMngr.isNone with
    | .error rc => .error rc
    | .ok publicKeys => .ok (keysMngr, publicKeys)

/-- The state of the provider that lets the verification functions run without any key: a
certificate chain that loads, and nothing else. -/
def chainOnly (env : Env) (p : Provider) : Prop :=
  p.keyless = true ∧ ∃ chain keysMngr, p.caCertChain = some chain ∧
    env.loadCerts chain = some keysMngr

section

variable {env : Env} {p : Provider} {keysMngr : Option KeysMngr} {publicKeys : List SecKey}

theorem tryLoadingPublicKeys_eq_ok {mandatory : Bool}
    (h : p.tryLoadingPublicKeys mandatory = .ok publicKeys) :
    (p.keyless = false ∧ publicKeys = p.signingPublicKeys ∧ publicKeys ≠ []) ∨
      (p.keyless = true ∧ mandatory = false ∧ publicKeys = []) := by
  unfold tryLoadingPublicKeys at h
  split_ifs at h with hkey hnil hmandatory
  · cases h
    exact .inl ⟨by simpa using hkey, rfl, hnil⟩
  · cases h
    exact .inr ⟨by simpa using hkey, by simpa using hmandatory, rfl⟩

theorem tryLoadingPublicKeys_ne_ok {mandatory : Bool} {rc : Rc}
    (h : p.tryLoadingPublicKeys mandatory = .error rc) : rc ≠ .ok := by
  unfold tryLoadingPublicKeys at h
  split_ifs at h <;> cases h <;> simp

theorem loadCredentials_ne_ok {rc : Rc} (h : p.loadCredentials env = .error rc) : rc ≠ .ok := by
  unfold loadCredentials at h
  split at h
  · rename_i rc' hchain
    unfold tryLoadingCaCertChain at hchain
    split at hchain
    · cases hchain
    · split at hchain <;> cases hchain
      cases h
      simp
  · split at h <;> cases h
    exact tryLoadingPublicKeys_ne_ok (by assumption)

/-- The key list is empty only for a provider with a certificate chain alone. -/
theorem loadCredentials_eq_ok (h : p.loadCredentials env = .ok (keysMngr, publicKeys)) :
    publicKeys = p.verificationKeys ∧
      (publicKeys = [] ↔ p.keyless = true) ∧ (p.keyless = true → p.chainOnly env) := by
  unfold loadCredentials at h
  split at h
  · cases h
  · rename_i keysMngr' hchain
    split at h <;> cases h
    rename_i hkeys
    rcases tryLoadingPublicKeys_eq_ok hkeys with ⟨hkey, rfl, hne⟩ | ⟨hkey, hmandatory, rfl⟩
    · simp [verificationKeys, hkey, hne]
    · refine ⟨by simp [verificationKeys, hkey], by simp [hkey], fun _ => ⟨hkey, ?_⟩⟩
      unfold tryLoadingCaCertChain at hchain
      split at hchain
      · cases hchain
        simp at hmandatory
      · split at hchain <;> cases hchain
        exact ⟨_, _, by assumption, by assumption⟩

theorem loadCredentials_of_chainOnly (h : p.chainOnly env) :
    ∃ keysMngr, p.loadCredentials env = .ok (some keysMngr, []) := by
  obtain ⟨hkey, chain, keysMngr, hchain, hload⟩ := h
  exact ⟨keysMngr, by simp [loadCredentials, tryLoadingCaCertChain, tryLoadingPublicKeys, hkey,
    hchain, hload]⟩

end

end Provider

end Lasso
