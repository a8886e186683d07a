import Lasso.Saml20.ServerMetadata

/-!
# What the loading of a federation returns

The codes of the visited elements are put together from below: an EntitiesDescriptor is loaded if
one of its children is. An EntityDescriptor that has nothing for the role asked for is passed over
with the code of one that was loaded, so that a federation may be loaded without a provider.

## Main definitions

* `Saml20.AnyDescriptor` — an EntityDescriptor that the visit comes to has a property.
* `Saml20.ReportsLoaded` — the code is zero just if a provider was inserted.

## Main results

* `Saml20.reportsLoaded_iff` — when that is so.
-/

namespace Lasso

namespace Saml20

/-! ## The descriptors that are visited -/

section

variable (P : List Nat → Option KeysMngr → XmlNode → Prop) (env : Env) (flags : LoadMetadataFlags)
  (root : XmlNode)

mutual

/-- Some EntityDescriptor that the visit of an element comes to, through EntitiesDescriptors whose
signatures pass, has a property. -/
def AnyDescriptor (path : List Nat) (keysMngr : Option KeysMngr) : XmlNode → Prop
  | .element ns name attrs children =>
    let child := XmlNode.element ns name attrs children
    if child.isElementNode "EntityDescriptor" saml2MetadataHref then P path keysMngr child
    else if child.isElementNode "EntitiesDescriptor" saml2MetadataHref then
      checkDescriptor env root path flags.checkEntitiesDescriptorSignature keysMngr = .ok ∧
        AnyDescriptors path (inheritKeysMngr flags keysMngr) 0 children
    else False
  | _ => False

/-- The same for the children from position `i` on. -/
def AnyDescriptors (path : List Nat) (keysMngr : Option KeysMngr) (i : Nat) : List XmlNode → Prop
  | [] => False
  | child :: children =>
    child.isElement = true ∧ AnyDescriptor (path ++ [i]) keysMngr child ∨
      AnyDescriptors path keysMngr (i + 1) children

end

end

/-- An EntityDescriptor without a descriptor for the role. -/
def WithoutDescriptor (role : ProviderRole) (_path : List Nat) (_keysMngr : Option KeysMngr)
    (entity : XmlNode) : Prop := hasDescriptorFor role entity = false

/-- An EntityDescriptor with a descriptor for the role, whose signature passes, of which a provider
can be made that is not blacklisted. -/
def Loadable (cx : MetadataContext) (role : ProviderRole) (blacklistedEntityIds : List String)
    (flags : LoadMetadataFlags) (root : XmlNode) (path : List Nat) (keysMngr : Option KeysMngr)
    (entity : XmlNode) : Prop :=
  hasDescriptorFor role entity = true ∧
    checkDescriptor cx.toEnv root path flags.checkEntityDescriptorSignature keysMngr = .ok ∧
    ∃ loaded, cx.newFromXmlnode role entity = some loaded ∧
      loaded.entityId ∉ blacklistedEntityIds

/-! ## The outcome of a visit -/

/-- An error of the visit: nothing was loaded, an element is no descriptor, or a signature does not
pass. -/
def IsLoadError (env : Env) (root : XmlNode) (rc : Rc) : Prop :=
  rc = .server .noProviderLoaded ∨ rc = .server .invalidXml ∨
    ∃ path keysMngr, rc = verifyDescriptor env root path keysMngr

/-- What the visit of a descriptor comes to, whatever was loaded before: the code is zero if
something is inserted or passed over. -/
structure VisitOutcome {cx : MetadataContext} {role : ProviderRole} {root : XmlNode}
    (visit : LoadState → Rc × LoadState) (env : Env) (rc : Rc)
    (insertions : List (Insertion cx role root)) (passedOver loadable : Prop) : Prop where
  visit_eq : ∀ s, visit s = (rc, insertAll s insertions)
  rc_ok : rc = .ok ↔ insertions ≠ [] ∨ passedOver
  inserts : insertions ≠ [] ↔ loadable
  error : rc ≠ .ok → IsLoadError env root rc

section

variable (cx : MetadataContext) (role : ProviderRole) (blacklistedEntityIds : List String)
  (flags : LoadMetadataFlags) {root : XmlNode}

theorem isLoadError_checkDescriptor {env : Env} {path : List Nat} {check : Bool}
    {keysMngr : Option KeysMngr} (h : checkDescriptor env root path check keysMngr ≠ .ok) :
    IsLoadError env root (checkDescriptor env root path check keysMngr) := by
  unfold checkDescriptor at h ⊢
  cases keysMngr with
  | none => contradiction
  | some keysMngr =>
    dsimp only at h ⊢
    split_ifs at h ⊢
    · exact .inr (.inr ⟨path, keysMngr, rfl⟩)
    · contradiction

theorem loadMetadataEntity_outcome {path : List Nat} {entity : XmlNode}
    (keysMngr : Option KeysMngr) (hat : root.at? path = some entity)
    (hdescriptor : entity.isElementNode "EntityDescriptor" saml2MetadataHref = true) :
    ∃ rc, ∃ insertions : List (Insertion cx role root),
      VisitOutcome
        (fun s => loadMetadataEntity cx role blacklistedEntityIds flags root path keysMngr s entity)
        cx.toEnv rc insertions (WithoutDescriptor role path keysMngr entity)
        (Loadable cx role blacklistedEntityIds flags root path keysMngr entity) := by
  unfold WithoutDescriptor Loadable
  cases hrole : hasDescriptorFor role entity with
  | false =>
    refine ⟨.ok, [], fun s => ?_, by simp, by simp, fun h => absurd rfl h⟩
    rw [loadMetadataEntity, hrole]
    rfl
  | true =>
    by_cases hcheck : checkDescriptor cx.toEnv root path flags.checkEntityDescriptorSignature
        keysMngr = .ok
    · cases hloaded : cx.newFromXmlnode role entity with
      | none =>
        refine ⟨.server .noProviderLoaded, [], fun s => ?_, by simp, by simp, fun _ => .inl rfl⟩
        rw [loadMetadataEntity, hrole, hcheck, hloaded]
        rfl
      | some loaded =>
        by_cases hlisted : loaded.entityId ∈ blacklistedEntityIds
        · refine ⟨.server .noProviderLoaded, [], fun s => ?_, by simp, by simp [hlisted],
            fun _ => .inl rfl⟩
          rw [loadMetadataEntity, hrole, hcheck, hloaded]
          exact if_pos hlisted
        · refine ⟨.ok, [⟨path, entity, hat, hdescriptor, loaded, hloaded⟩], fun s => ?_, by simp,
            by simp [hcheck, hlisted], fun h => absurd rfl h⟩
          rw [loadMetadataEntity, hrole, hcheck, hloaded]
          exact if_neg hlisted
    · refine ⟨_, [], fun s => ?_, by simpa using hcheck, by simp [hcheck],
        isLoadError_checkDescriptor⟩
      rw [loadMetadataEntity, hrole]
      split
      · contradiction
      · split
        · rename_i hok
          exact absurd hok hcheck
        · rfl

mutual

theorem loadMetadataChild_outcome (path : List Nat) (keysMngr : Option KeysMngr) (node : XmlNode)
    (hat : root.at? path = some node) :
    ∃ rc, ∃ insertions : List (Insertion cx role root),
      VisitOutcome
        (fun s => loadMetadataChild cx role blacklistedEntityIds flags root path keysMngr s node)
        cx.toEnv rc insertions
        (AnyDescriptor (WithoutDescriptor role) cx.toEnv flags root path keysMngr node)
        (AnyDescriptor (Loadable cx role blacklistedEntityIds flags root) cx.toEnv flags root path
          keysMngr node) := by
  cases node with
  | element ns name attrs children =>
    unfold AnyDescriptor
    by_cases hentity : (XmlNode.element ns name attrs children).isElementNode "EntityDescriptor"
        saml2MetadataHref = true
    · obtain ⟨rc, insertions, h⟩ := loadMetadataEntity_outcome cx role blacklistedEntityIds flags
        keysMngr hat hentity
      refine ⟨rc, insertions, fun s => ?_, ?_, ?_, h.error⟩
      · rw [← h.visit_eq, loadMetadataChild]
        exact if_pos hentity
      · simpa only [if_pos hentity] using h.rc_ok
      · simpa only [if_pos hentity] using h.inserts
    · by_cases hentities : (XmlNode.element ns name attrs children).isElementNode
          "EntitiesDescriptor" saml2MetadataHref = true
      · simp only [hentity, hentities, if_true, Bool.false_eq_true, if_false]
        by_cases hcheck : checkDescriptor cx.toEnv root path flags.checkEntitiesDescriptorSignature
            keysMngr = .ok
        · obtain ⟨atLeastOne, insertions, hvisit, hany, hloaded⟩ :=
            loadMetadataChildren_outcome path (inheritKeysMngr flags keysMngr) 0 children
              (fun j child hchild => by simp [XmlNode.at?_append, hat, XmlNode.children, hchild])
          refine ⟨if atLeastOne then .ok else .server .noProviderLoaded, insertions, fun s => ?_,
            ?_, by simpa [hcheck] using hloaded, fun hrc => ?_⟩
          · rw [loadMetadataChild]
            dsimp only
            rw [if_neg hentity, if_pos hentities, hcheck]
            dsimp only
            rw [hvisit]
          · cases atLeastOne <;> simpa [hcheck] using hany
          · cases atLeastOne with
            | true => exact absurd rfl hrc
            | false => exact .inl rfl
        · refine ⟨checkDescriptor cx.toEnv root path flags.checkEntitiesDescriptorSignature
              keysMngr, [], fun s => ?_, by simp [hcheck], by simp [hcheck],
            isLoadError_checkDescriptor⟩
          rw [loadMetadataChild]
          dsimp only
          rw [if_neg hentity, if_pos hentities]
          split
          · rename_i hok
            exact absurd hok hcheck
          · rfl
      · refine ⟨.server .invalidXml, [], fun s => ?_, by simp [hentity, hentities],
          by simp [hentity, hentities], fun _ => .inr (.inl rfl)⟩
        rw [loadMetadataChild]
        dsimp only
        rw [if_neg hentity, if_neg hentities]
        rfl
  | _ => exact ⟨.server .invalidXml, [], fun _ => rfl, by simp [AnyDescriptor],
      by simp [AnyDescriptor], fun _ => .inr (.inl rfl)⟩

theorem loadMetadataChildren_outcome (path : List Nat) (keysMngr : Option KeysMngr) (i : Nat)
    (children : List XmlNode)
    (hat : ∀ j child, children[j]? = some child → root.at? (path ++ [i + j]) = some child) :
    ∃ atLeastOne, ∃ insertions : List (Insertion cx role root),
      (∀ s, loadMetadataChildren cx role blacklistedEntityIds flags root path keysMngr s i
          children = (atLeastOne, insertAll s insertions)) ∧
      (atLeastOne = true ↔ insertions ≠ [] ∨
        AnyDescriptors (WithoutDescriptor role) cx.toEnv flags root path keysMngr i children) ∧
      (insertions ≠ [] ↔ AnyDescriptors (Loadable cx role blacklistedEntityIds flags root) cx.toEnv
        flags root path keysMngr i children) := by
  cases children with
  | nil => exact ⟨false, [], fun _ => rfl, by simp [AnyDescriptors], by simp [AnyDescriptors]⟩
  | cons child children =>
    have hat' : ∀ j node, children[j]? = some node →
        root.at? (path ++ [i + 1 + j]) = some node := by
      intro j node hnode
      have hj := hat (j + 1) node (by simpa using hnode)
      rwa [show i + 1 + j = i + (j + 1) by omega]
    obtain ⟨atLeastOne, others, hothers, hany, hloaded⟩ :=
      loadMetadataChildren_outcome path keysMngr (i + 1) children hat'
    unfold AnyDescriptors
    cases hchild : child.isElement with
    | false =>
      refine ⟨atLeastOne, others, fun s => ?_, by simpa using hany, by simpa using hloaded⟩
      rw [loadMetadataChildren, hchild, ← hothers]
      rfl
    | true =>
      obtain ⟨rc, first, hfirst⟩ :=
        loadMetadataChild_outcome (path ++ [i]) keysMngr child (hat 0 child rfl)
      refine ⟨rc == .ok || atLeastOne, first ++ others, fun s => ?_, ?_, ?_⟩
      · rw [loadMetadataChildren, hchild, if_pos rfl]
        dsimp only
        rw [hfirst.visit_eq, hothers, insertAll_append]
      · have hrc := hfirst.rc_ok
        simp only [Bool.or_eq_true, beq_iff_eq, ne_eq, List.append_eq_nil_iff, true_and]
          at hrc hany ⊢
        tauto
      · have hinserts := hfirst.inserts
        simp only [ne_eq, List.append_eq_nil_iff, true_and] at hinserts hloaded ⊢
        tauto

end

/-- The loading returns a code, inserts providers, and lists them, whatever list was there before:
the code is zero just if there are any, and else it is an error of the visit. -/
def ReportsLoaded (server : Server) (root : XmlNode) (keysMngr : Option KeysMngr) : Prop :=
  ∃ rc, ∃ insertions : List (Insertion cx role root),
    (∀ loadedEntityIds,
      loadMetadata cx server role root blacklistedEntityIds loadedEntityIds keysMngr flags =
        (rc,
          { server with
            providers := insertions.foldl (fun table i => table.insert i.entityId i.provider)
              server.providers },
          loadedEntityIds.map fun _ => insertions.map (·.entityId))) ∧
    (rc = .ok ↔ insertions ≠ []) ∧ (rc ≠ .ok → IsLoadError cx.toEnv root rc)

/-- The loading from the root element. -/
theorem loadMetadata_outcome (server : Server) (root : XmlNode) (keysMngr : Option KeysMngr) :
    ∃ rc, ∃ insertions : List (Insertion cx role root),
      (∀ loadedEntityIds,
        loadMetadata cx server role root blacklistedEntityIds loadedEntityIds keysMngr flags =
          (rc,
            { server with
              providers := insertions.foldl (fun table i => table.insert i.entityId i.provider)
                server.providers },
            loadedEntityIds.map fun _ => insertions.map (·.entityId))) ∧
      (rc = .ok ↔ insertions ≠ [] ∨
        AnyDescriptor (WithoutDescriptor role) cx.toEnv flags root [] keysMngr root) ∧
      (insertions ≠ [] ↔ AnyDescriptor (Loadable cx role blacklistedEntityIds flags root) cx.toEnv
        flags root [] keysMngr root) ∧
      (rc ≠ .ok → IsLoadError cx.toEnv root rc) := by
  obtain ⟨rc, insertions, h⟩ :=
    loadMetadataChild_outcome cx role blacklistedEntityIds flags [] keysMngr root root.at?_nil
  refine ⟨rc, insertions, fun loadedEntityIds => ?_, h.rc_ok, h.inserts, h.error⟩
  unfold loadMetadata
  dsimp only
  rw [h.visit_eq, insertAll_providers, insertAll_loaded]
  cases loadedEntityIds <;> simp

/-- The code is zero just if a provider was inserted, unless an EntityDescriptor was passed over
and no other one was loaded. -/
theorem reportsLoaded_iff (server : Server) (root : XmlNode) (keysMngr : Option KeysMngr) :
    ReportsLoaded cx role blacklistedEntityIds flags server root keysMngr ↔
      (AnyDescriptor (WithoutDescriptor role) cx.toEnv flags root [] keysMngr root →
        AnyDescriptor (Loadable cx role blacklistedEntityIds flags root) cx.toEnv flags root []
          keysMngr root) := by
  obtain ⟨rc, insertions, hresult, hrc, hinserts, herror⟩ :=
    loadMetadata_outcome cx role blacklistedEntityIds flags server root keysMngr
  constructor
  · rintro ⟨rc', insertions', hresult', hrc', -⟩ hpassed
    have hsame := (hresult (some [])).symm.trans (hresult' (some []))
    obtain rfl : rc = rc' := congrArg Prod.fst hsame
    -- the list that is returned tells how many providers were inserted
    have hids : insertions.map (·.entityId) = insertions'.map (·.entityId) := by
      simpa using congrArg (·.2.2) hsame
    have hne : insertions' ≠ [] := hrc'.mp (hrc.mpr (.inr hpassed))
    refine hinserts.mp fun hnil => hne ?_
    rw [hnil] at hids
    exact List.map_eq_nil_iff.mp hids.symm
  · intro himp
    exact ⟨rc, insertions, hresult, hrc.trans ⟨fun h => h.elim id (hinserts.mpr ∘ himp), .inl⟩,
      herror⟩

end

/-- An EntityDescriptor without a descriptor for any role. -/
def emptyDescriptor : XmlNode :=
  .element (some saml2MetadataHref) "EntityDescriptor" [{ name := "entityID", value := "a" }] []

/-- No provider can be made from a descriptor. -/
def noProviderContext : MetadataContext := { Env.refusing with newFromXmlnode := fun _ _ => none }

/-- The loading of a descriptor that has nothing for the role asked for is reported as a success. -/
theorem not_reportsLoaded :
    ¬ ∀ (cx : MetadataContext) (role : ProviderRole) (blacklistedEntityIds : List String)
        (flags : LoadMetadataFlags) (server : Server) (root : XmlNode)
        (keysMngr : Option KeysMngr),
      ReportsLoaded cx role blacklistedEntityIds flags server root keysMngr := by
  intro hall
  let server : Server := { provider := { providerId := none } }
  obtain ⟨rc, insertions, hresult, hrc, -⟩ :=
    hall noProviderContext .idp [] allFlags server emptyDescriptor none
  have hload : loadMetadata noProviderContext server .idp emptyDescriptor [] (some []) none
      allFlags = (.ok, server, some []) := by rfl
  have hsame := hload.symm.trans (hresult (some []))
  have hids : [] = insertions.map (·.entityId) := by simpa using congrArg (·.2.2) hsame
  exact hrc.mp (congrArg Prod.fst hsame).symm (List.map_eq_nil_iff.mp hids.symm)

end Saml20

end Lasso
