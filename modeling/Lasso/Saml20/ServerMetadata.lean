import Mathlib.Data.List.Basic
import Lasso.Server
import Lasso.Xml.Signature

/-!
# Loading the metadata of a federation

The providers of a federation come as a tree of EntitiesDescriptor and EntityDescriptor elements,
each of which may be signed. A signature that verifies is good for all that lies below it, since the
keys manager is not passed on any further; a signature that does not ends the visit of its element.

## Main definitions

* `Saml20.loadMetadataChild` — the visit of one element.
* `Saml20.loadMetadata`, `Server.loadMetadata` — the functions of the library.
* `Saml20.Insertion` — one insertion of a provider, with the descriptor it comes from.

## Main results

* `Saml20.loadMetadata_trusted` — what is inserted, and what is returned.
* `Server.loadMetadata_lookup` — where the providers of a server come from.
-/

namespace Lasso

/-- `LassoServerLoadMetadataFlag`: a set of bits, `DEFAULT` is the empty one. -/
structure LoadMetadataFlags where
  checkEntitiesDescriptorSignature : Bool := false
  checkEntityDescriptorSignature : Bool := false
  inheritSignature : Bool := false
deriving DecidableEq

/-- The default policy is to check the signatures of both elements, and to inherit them. -/
def LoadMetadataFlags.resolve (flags : LoadMetadataFlags) : LoadMetadataFlags :=
  if flags = {} then ⟨true, true, true⟩ else flags

/-- A provider made from its descriptor, under the entity ID that is written there. -/
structure LoadedProvider (entity : XmlNode) where
  provider : Provider
  entityId : String
  providerId_eq : provider.providerId = some entityId
  getProp_eq : entity.getProp "entityID" = some entityId

/-- The environment, with the function that makes a provider from its descriptor. -/
structure MetadataContext extends Env where
  /-- `lasso_provider_new_from_xmlnode` -/
  newFromXmlnode : ProviderRole → (entity : XmlNode) → Option (LoadedProvider entity)

/-- The table of providers and, if it was asked for, the list of the loaded ones, last one first. -/
structure LoadState where
  providers : AList (fun _ : String => Provider)
  loaded : Option (List String)

/-- Insert a provider. -/
def LoadState.insert (s : LoadState) (entityId : String) (p : Provider) : LoadState where
  providers := s.providers.insert entityId p
  loaded := s.loaded.map (entityId :: ·)

namespace Saml20

/-- `lasso_verify_signature` as it is called for a descriptor. -/
def verifyDescriptor (env : Env) (root : XmlNode) (path : List Nat) (keysMngr : KeysMngr) : Rc :=
  (verifySignature env (NodeRef.at? root path) (some "ID") (some keysMngr) none
    { emptyUri := true }).1

/-- The check of a signature, if it is to be checked and there is a keys manager. -/
def checkDescriptor (env : Env) (root : XmlNode) (path : List Nat) (check : Bool) :
    Option KeysMngr → Rc
  | some keysMngr => if check then verifyDescriptor env root path keysMngr else .ok
  | none => .ok

/-- `_lasso_test_sp_descriptor` and `_lasso_test_idp_descriptor`, for the role that asks for one. -/
def hasDescriptorFor (role : ProviderRole) (entity : XmlNode) : Bool :=
  match role with
  | .idp => (entity.findChild "IDPSSODescriptor" saml2MetadataHref).isSome
  | .sp => (entity.findChild "SPSSODescriptor" saml2MetadataHref).isSome
  | _ => true

section

variable (cx : MetadataContext) (role : ProviderRole) (blacklistedEntityIds : List String)
  (flags : LoadMetadataFlags) (root : XmlNode)

/-- `lasso_saml20_server_load_metadata_entity` -/
def loadMetadataEntity (path : List Nat) (keysMngr : Option KeysMngr) (s : LoadState)
    (entity : XmlNode) : Rc × LoadState :=
  if !hasDescriptorFor role entity then (.ok, s)
  else
    match checkDescriptor cx.toEnv root path flags.checkEntityDescriptorSignature keysMngr with
    | .ok =>
      match cx.newFromXmlnode role entity with
      | some loaded =>
        if loaded.entityId ∈ blacklistedEntityIds then (.server .noProviderLoaded, s)
        else (.ok, s.insert loaded.entityId loaded.provider)
      | none => (.server .noProviderLoaded, s)
    | rc => (rc, s)

/-- What is left of the keys manager below an EntitiesDescriptor whose signature was checked. -/
def inheritKeysMngr (keysMngr : Option KeysMngr) : Option KeysMngr :=
  if flags.checkEntitiesDescriptorSignature && flags.inheritSignature then none else keysMngr

mutual

/-- `lasso_saml20_server_load_metadata_child`, with the body of
`lasso_saml20_server_load_metadata_entities` -/
def loadMetadataChild (path : List Nat) (keysMngr : Option KeysMngr) (s : LoadState) :
    XmlNode → Rc × LoadState
  | .element ns name attrs children =>
    let child := XmlNode.element ns name attrs children
    if child.isElementNode "EntityDescriptor" saml2MetadataHref then
      loadMetadataEntity cx role blacklistedEntityIds flags root path keysMngr s child
    else if child.isElementNode "EntitiesDescriptor" saml2MetadataHref then
      match checkDescriptor cx.toEnv root path flags.checkEntitiesDescriptorSignature keysMngr with
      | .ok =>
        let (atLeastOne, s) :=
          loadMetadataChildren path (inheritKeysMngr flags keysMngr) s 0 children
        (if atLeastOne then .ok else .server .noProviderLoaded, s)
      | rc => (rc, s)
    else (.server .invalidXml, s)
  | _ => (.server .invalidXml, s)

/-- The loop over the children from position `i` on: whether one of them was loaded. -/
def loadMetadataChildren (path : List Nat) (keysMngr : Option KeysMngr) (s : LoadState)
    (i : Nat) : List XmlNode → Bool × LoadState
  | [] => (false, s)
  | child :: children =>
    if child.isElement then
      let (rc, s) := loadMetadataChild (path ++ [i]) keysMngr s child
      let (atLeastOne, s) := loadMetadataChildren path keysMngr s (i + 1) children
      (rc == .ok || atLeastOne, s)
    else loadMetadataChildren path keysMngr s (i + 1) children

end

end

/-- `lasso_saml20_server_load_metadata`: the code, the server, and the list returned through the
last parameter, if there is one. -/
def loadMetadata (cx : MetadataContext) (server : Server) (role : ProviderRole) (root : XmlNode)
    (blacklistedEntityIds : List String) (loadedEntityIds : Option (List String))
    (keysMngr : Option KeysMngr) (flags : LoadMetadataFlags) :
    Rc × Server × Option (List String) :=
  let (rc, s) := loadMetadataChild cx role blacklistedEntityIds flags root [] keysMngr
    { providers := server.providers, loaded := loadedEntityIds.map fun _ => [] } root
  (rc, { server with providers := s.providers }, s.loaded.map List.reverse)

end Saml20

/-- `lasso_server_load_metadata`, given the root element of the federation file; for a root element
without a namespace the source does not return. -/
def Server.loadMetadata (cx : MetadataContext) (server : Server) (role : ProviderRole)
    (federation : Option XmlNode) (trustedRoots : Option String)
    (blacklistedEntityIds : List String) (loadedEntityIds : Option (List String))
    (flags : LoadMetadataFlags) : Rc × Server × Option (List String) :=
  if role ≠ .sp ∧ role ≠ .idp then (.param .badTypeOrNullObj, server, loadedEntityIds)
  else
    let keysMngr := trustedRoots.bind cx.loadCerts
    if trustedRoots.isSome ∧ keysMngr.isNone then
      (.ds .caCertChainLoadFailed, server, loadedEntityIds)
    else
      match federation with
      | none => (.server .invalidXml, server, loadedEntityIds)
      | some root =>
        match root.ns with
        | none => (.undefined, server, loadedEntityIds)
        | some ns =>
          if ns = saml2MetadataHref then
            Saml20.loadMetadata cx server role root blacklistedEntityIds loadedEntityIds keysMngr
              flags.resolve
          else (.unimplemented, server, loadedEntityIds)

namespace Saml20

/-! ## Insertions -/

variable {cx : MetadataContext} {role : ProviderRole} {root : XmlNode} {keysMngr : KeysMngr}
  {blacklistedEntityIds : List String}

/-- The insertion of a provider: its descriptor, where it stands, and what was made of it. -/
structure Insertion (cx : MetadataContext) (role : ProviderRole) (root : XmlNode) where
  path : List Nat
  entity : XmlNode
  isAt : root.at? path = some entity
  isDescriptor : entity.isElementNode "EntityDescriptor" saml2MetadataHref = true
  loaded : LoadedProvider entity
  isLoaded : cx.newFromXmlnode role entity = some loaded

namespace Insertion

def entityId (i : Insertion cx role root) : String := i.loaded.entityId

def provider (i : Insertion cx role root) : Provider := i.loaded.provider

end Insertion

/-- The state after insertions. -/
def insertAll (s : LoadState) (insertions : List (Insertion cx role root)) : LoadState :=
  insertions.foldl (fun s i => s.insert i.entityId i.provider) s

theorem insertAll_append (s : LoadState) (is js : List (Insertion cx role root)) :
    insertAll s (is ++ js) = insertAll (insertAll s is) js := List.foldl_append

theorem insertAll_providers (s : LoadState) (insertions : List (Insertion cx role root)) :
    (insertAll s insertions).providers =
      insertions.foldl (fun table i => table.insert i.entityId i.provider) s.providers := by
  induction insertions generalizing s with
  | nil => rfl
  | cons i is ih => exact ih (s.insert i.entityId i.provider)

/-- The list grows at its head, so that the last insertion comes first. -/
theorem insertAll_loaded (s : LoadState) (insertions : List (Insertion cx role root)) :
    (insertAll s insertions).loaded =
      s.loaded.map ((insertions.map (·.entityId)).reverse ++ ·) := by
  induction insertions generalizing s with
  | nil => simp [insertAll]
  | cons i is ih =>
    have hcons : insertAll s (i :: is) = insertAll (s.insert i.entityId i.provider) is := rfl
    rw [hcons, ih]
    cases hloaded : s.loaded <;> simp [LoadState.insert, hloaded]

/-- The element at a position lies under an EntitiesDescriptor that verifies. -/
def UnderVerified (env : Env) (root : XmlNode) (keysMngr : KeysMngr) (path : List Nat) : Prop :=
  ∃ above entities, above <+: path ∧ above ≠ path ∧ root.at? above = some entities ∧
    entities.isElementNode "EntitiesDescriptor" saml2MetadataHref = true ∧
    verifyDescriptor env root above keysMngr = .ok

/-- The element at a position verifies, or lies under an EntitiesDescriptor that does. -/
def TrustedDescriptor (env : Env) (root : XmlNode) (keysMngr : KeysMngr) (path : List Nat) : Prop :=
  verifyDescriptor env root path keysMngr = .ok ∨ UnderVerified env root keysMngr path

theorem UnderVerified.append {env : Env} {path : List Nat}
    (h : UnderVerified env root keysMngr path) (below : List Nat) :
    UnderVerified env root keysMngr (path ++ below) := by
  obtain ⟨above, entities, hprefix, hne, hrest⟩ := h
  refine ⟨above, entities, hprefix.trans (List.prefix_append path below), ?_, hrest⟩
  rintro rfl
  have hlength := hprefix.length_le
  rw [List.length_append] at hlength
  obtain rfl : below = [] := List.length_eq_zero_iff.mp (by omega)
  exact hne (List.append_nil path)

/-- Insertions in document order, all of them trusted and none of them blacklisted. -/
structure Visit (keysMngr : KeysMngr) (blacklistedEntityIds : List String)
    (insertions : List (Insertion cx role root)) : Prop where
  ordered : (insertions.map (·.path)).Pairwise (· < ·)
  trusted : ∀ i ∈ insertions, TrustedDescriptor cx.toEnv root keysMngr i.path
  allowed : ∀ i ∈ insertions, i.entityId ∉ blacklistedEntityIds

theorem Visit.nil : Visit keysMngr blacklistedEntityIds ([] : List (Insertion cx role root)) :=
  ⟨.nil, by simp, by simp⟩

theorem Visit.append {is js : List (Insertion cx role root)}
    (hi : Visit keysMngr blacklistedEntityIds is) (hj : Visit keysMngr blacklistedEntityIds js)
    (h : ∀ i ∈ is, ∀ j ∈ js, i.path < j.path) :
    Visit keysMngr blacklistedEntityIds (is ++ js) where
  ordered := by
    rw [List.map_append, List.pairwise_append]
    refine ⟨hi.ordered, hj.ordered, ?_⟩
    simpa using h
  trusted i hmem := (List.mem_append.mp hmem).elim (hi.trusted i) (hj.trusted i)
  allowed i hmem := (List.mem_append.mp hmem).elim (hi.allowed i) (hj.allowed i)

/-- The policy that checks everything. -/
def allFlags : LoadMetadataFlags := ⟨true, true, true⟩

/-- What the keys manager stands for in the visit of a position: it is the given one, or an element
above has been verified with that one. -/
def Carries (env : Env) (root : XmlNode) (keysMngr : KeysMngr) (path : List Nat)
    (passed : Option KeysMngr) : Prop :=
  passed = some keysMngr ∨ passed = none ∧ UnderVerified env root keysMngr path

/-- A descriptor whose check passes is trusted. -/
theorem Carries.trusted {env : Env} {path : List Nat} {passed : Option KeysMngr}
    (h : Carries env root keysMngr path passed)
    (hcheck : checkDescriptor env root path true passed = .ok) :
    TrustedDescriptor env root keysMngr path := by
  rcases h with rfl | ⟨-, hunder⟩
  · exact .inl hcheck
  · exact .inr hunder

/-- Below an EntitiesDescriptor whose check passes nothing is checked any more. -/
theorem Carries.below {env : Env} {path : List Nat} {passed : Option KeysMngr} {node : XmlNode}
    (h : Carries env root keysMngr path passed)
    (hcheck : checkDescriptor env root path true passed = .ok)
    (hat : root.at? path = some node)
    (hentities : node.isElementNode "EntitiesDescriptor" saml2MetadataHref = true) (i : Nat) :
    UnderVerified env root keysMngr (path ++ [i]) := by
  rcases h with rfl | ⟨-, hunder⟩
  · exact ⟨path, node, List.prefix_append path [i], by simp, hat, hentities, hcheck⟩
  · exact hunder.append [i]

theorem loadMetadataEntity_visit {path : List Nat} {passed : Option KeysMngr} {entity : XmlNode}
    (hat : root.at? path = some entity)
    (hdescriptor : entity.isElementNode "EntityDescriptor" saml2MetadataHref = true)
    (hcarries : Carries cx.toEnv root keysMngr path passed) (s : LoadState) :
    ∃ insertions : List (Insertion cx role root),
      (loadMetadataEntity cx role blacklistedEntityIds allFlags root path passed s entity).2 =
          insertAll s insertions ∧
        Visit keysMngr blacklistedEntityIds insertions ∧ ∀ i ∈ insertions, path <+: i.path := by
  unfold loadMetadataEntity
  split_ifs
  · exact ⟨[], rfl, .nil, by simp⟩
  · split
    · rename_i hcheck
      split
      · rename_i loaded hloaded
        split_ifs with hblacklisted
        · exact ⟨[], rfl, .nil, by simp⟩
        · refine ⟨[⟨path, entity, hat, hdescriptor, loaded, hloaded⟩], rfl, ⟨?_, ?_, ?_⟩, ?_⟩
          · exact List.pairwise_singleton _ _
          · simpa using hcarries.trusted hcheck
          · simpa [Insertion.entityId] using hblacklisted
          · simp
      · exact ⟨[], rfl, .nil, by simp⟩
    · exact ⟨[], rfl, .nil, by simp⟩

mutual

theorem loadMetadataChild_visit (path : List Nat) (passed : Option KeysMngr) (s : LoadState)
    (node : XmlNode) (hat : root.at? path = some node)
    (hcarries : Carries cx.toEnv root keysMngr path passed) :
    ∃ insertions : List (Insertion cx role root),
      (loadMetadataChild cx role blacklistedEntityIds allFlags root path passed s node).2 =
          insertAll s insertions ∧
        Visit keysMngr blacklistedEntityIds insertions ∧
          ∀ i ∈ insertions, path <+: i.path := by
  cases node with
  | element ns name attrs children =>
    unfold loadMetadataChild
    dsimp only
    by_cases hentity : (XmlNode.element ns name attrs children).isElementNode "EntityDescriptor"
        saml2MetadataHref = true
    · rw [if_pos hentity]
      exact loadMetadataEntity_visit hat hentity hcarries s
    · rw [if_neg hentity]
      split
      · rename_i hentities
        split
        · rename_i hcheck
          obtain ⟨insertions, hstate, hvisit, hpath⟩ :=
            loadMetadataChildren_visit path s 0 children
              (fun j child hchild => by simp [XmlNode.at?_append, hat, XmlNode.children, hchild])
              (hcarries.below hcheck hat hentities)
          have hnone : inheritKeysMngr allFlags passed = none := rfl
          refine ⟨insertions, ?_, hvisit, fun i hi => ?_⟩
          · rw [hnone]
            exact hstate
          · obtain ⟨j, -, below, hbelow⟩ := hpath i hi
            exact hbelow ▸ List.prefix_append path (j :: below)
        · exact ⟨[], rfl, .nil, by simp⟩
      · exact ⟨[], rfl, .nil, by simp⟩
  | _ => exact ⟨[], rfl, .nil, by simp⟩

theorem loadMetadataChildren_visit (path : List Nat) (s : LoadState) (i : Nat)
    (children : List XmlNode)
    (hat : ∀ j child, children[j]? = some child → root.at? (path ++ [i + j]) = some child)
    (hunder : ∀ j, UnderVerified cx.toEnv root keysMngr (path ++ [j])) :
    ∃ insertions : List (Insertion cx role root),
      (loadMetadataChildren cx role blacklistedEntityIds allFlags root path none s i
          children).2 = insertAll s insertions ∧
        Visit keysMngr blacklistedEntityIds insertions ∧
          ∀ ins ∈ insertions, ∃ j, i ≤ j ∧ ∃ below, ins.path = path ++ j :: below := by
  cases children with
  | nil => exact ⟨[], rfl, .nil, by simp⟩
  | cons child children =>
    have hat' : ∀ j node, children[j]? = some node →
        root.at? (path ++ [i + 1 + j]) = some node := by
      intro j node hnode
      have hj := hat (j + 1) node (by simpa using hnode)
      rwa [show i + 1 + j = i + (j + 1) by omega]
    unfold loadMetadataChildren
    split
    · obtain ⟨first, hfirst, hvisit, hpath⟩ := loadMetadataChild_visit (path ++ [i]) none s child
        (hat 0 child rfl) (.inr ⟨rfl, hunder i⟩)
      obtain ⟨others, hothers, hvisit', hpath'⟩ := loadMetadataChildren_visit path
        (insertAll s first) (i + 1) children hat' hunder
      -- the insertions of the first child come before those of the others
      have hbefore : ∀ a ∈ first, ∀ b ∈ others, a.path < b.path := by
        intro a ha b hb
        obtain ⟨below, hbelow⟩ := hpath a ha
        obtain ⟨j, hj, below', hbelow'⟩ := hpath' b hb
        rw [← hbelow, hbelow', List.append_assoc]
        apply List.append_left_lt
        exact List.cons_lt_cons_iff.mpr (.inl (by omega))
      refine ⟨first ++ others, ?_, hvisit.append hvisit' hbefore, fun ins hins => ?_⟩
      · dsimp only
        rw [hfirst, hothers, insertAll_append]
      · rcases List.mem_append.mp hins with hmem | hmem
        · obtain ⟨below, hbelow⟩ := hpath ins hmem
          exact ⟨i, le_rfl, below, by simp [← hbelow]⟩
        · obtain ⟨j, hj, hbelow⟩ := hpath' ins hmem
          exact ⟨j, by omega, hbelow⟩
    · obtain ⟨others, hothers, hvisit, hpath⟩ := loadMetadataChildren_visit path s (i + 1) children
        hat' hunder
      refine ⟨others, hothers, hvisit, fun ins hins => ?_⟩
      obtain ⟨j, hj, hbelow⟩ := hpath ins hins
      exact ⟨j, by omega, hbelow⟩

end

/-- A visit from the root: the state is that of the server after insertions. -/
theorem loadMetadata_visit (cx : MetadataContext) (server : Server) (role : ProviderRole)
    (root : XmlNode) (blacklistedEntityIds : List String)
    (loadedEntityIds : Option (List String)) (keysMngr : KeysMngr) :
    ∃ insertions : List (Insertion cx role root),
      (loadMetadata cx server role root blacklistedEntityIds loadedEntityIds (some keysMngr)
          allFlags).2 =
        ({ server with
            providers := insertions.foldl (fun table i => table.insert i.entityId i.provider)
              server.providers },
          loadedEntityIds.map fun _ => insertions.map (·.entityId)) ∧
      Visit keysMngr blacklistedEntityIds insertions := by
  set start : LoadState :=
    { providers := server.providers, loaded := loadedEntityIds.map fun _ => [] } with hstart
  obtain ⟨insertions, hstate, hvisit, -⟩ :
      ∃ insertions : List (Insertion cx role root),
        (loadMetadataChild cx role blacklistedEntityIds allFlags root [] (some keysMngr) start
            root).2 = insertAll start insertions ∧
          Visit keysMngr blacklistedEntityIds insertions ∧ ∀ i ∈ insertions, [] <+: i.path :=
    loadMetadataChild_visit [] _ _ root root.at?_nil (.inl rfl)
  refine ⟨insertions, ?_, hvisit⟩
  unfold loadMetadata
  dsimp only
  rw [← hstart, hstate, insertAll_providers, insertAll_loaded]
  cases loadedEntityIds <;> simp [hstart]

/-- With the default flags and a keys manager, every provider that is inserted comes from an
EntityDescriptor that verifies or lies under an EntitiesDescriptor that does, none of them is
blacklisted, and the list returned has their entity IDs in the order of the document. -/
theorem loadMetadata_trusted (cx : MetadataContext) (server : Server) (role : ProviderRole)
    (root : XmlNode) (blacklistedEntityIds loadedEntityIds : List String) (keysMngr : KeysMngr) :
    ∃ insertions : List (Insertion cx role root),
      let result := loadMetadata cx server role root blacklistedEntityIds (some loadedEntityIds)
        (some keysMngr) (LoadMetadataFlags.resolve {})
      result.2.1 = { server with
        providers := insertions.foldl (fun table i => table.insert i.entityId i.provider)
          server.providers } ∧
      result.2.2 = some (insertions.map (·.entityId)) ∧
      (insertions.map (·.path)).Pairwise (· < ·) ∧
      ∀ i ∈ insertions,
        TrustedDescriptor cx.toEnv root keysMngr i.path ∧ i.entityId ∉ blacklistedEntityIds := by
  obtain ⟨insertions, hresult, hvisit⟩ := loadMetadata_visit cx server role root
    blacklistedEntityIds (some loadedEntityIds) keysMngr
  have hflags : LoadMetadataFlags.resolve {} = allFlags := rfl
  refine ⟨insertions, ?_, ?_, hvisit.ordered, fun i hi => ⟨hvisit.trusted i hi, ?_⟩⟩
  · rw [hflags, hresult]
  · rw [hflags, hresult]
    rfl
  · exact hvisit.allowed i hi

theorem mem_foldl_insert {insertions : List (Insertion cx role root)}
    {table : AList fun _ : String => Provider} {id : String} {p : Provider}
    (h : (insertions.foldl (fun table i => table.insert i.entityId i.provider) table).lookup id =
      some p) :
    table.lookup id = some p ∨ ∃ i ∈ insertions, i.entityId = id ∧ i.provider = p := by
  induction insertions generalizing table with
  | nil => exact .inl h
  | cons i is ih =>
    rcases ih h with htable | ⟨j, hj, hfound⟩
    · by_cases hid : id = i.entityId
      · subst hid
        rw [AList.lookup_insert] at htable
        exact .inr ⟨i, List.mem_cons_self, rfl, Option.some.inj htable⟩
      · rw [AList.lookup_insert_ne hid] at htable
        exact .inl htable
    · exact .inr ⟨j, List.mem_cons_of_mem i hj, hfound⟩

end Saml20

open Saml20 in
/-- A provider that a server has after a federation was loaded with trusted roots and the default
flags was there before, or has a trusted descriptor and is not blacklisted. -/
theorem Server.loadMetadata_lookup {cx : MetadataContext} {server : Server} {role : ProviderRole}
    {federation : Option XmlNode} {trustedRoots : String} {blacklistedEntityIds : List String}
    {loadedEntityIds : Option (List String)} {id : String} {p : Provider}
    (h : (server.loadMetadata cx role federation (some trustedRoots) blacklistedEntityIds
      loadedEntityIds {}).2.1.providers.lookup id = some p) :
    server.providers.lookup id = some p ∨
      ∃ root ∈ federation, ∃ keysMngr ∈ cx.loadCerts trustedRoots,
        ∃ i : Insertion cx role root, i.entityId = id ∧ i.provider = p ∧
          TrustedDescriptor cx.toEnv root keysMngr i.path ∧ id ∉ blacklistedEntityIds := by
  unfold Server.loadMetadata at h
  dsimp only [Option.bind_some, Option.isSome_some] at h
  split_ifs at h with hrole hcerts
  · exact .inl h
  · exact .inl h
  · obtain ⟨keysMngr, hkeysMngr⟩ : ∃ keysMngr, cx.loadCerts trustedRoots = some keysMngr := by
      simpa [Option.isNone_iff_eq_none, Option.ne_none_iff_exists'] using hcerts
    split at h
    · exact .inl h
    · rename_i root
      split at h
      · exact .inl h
      · split_ifs at h
        · rw [hkeysMngr] at h
          obtain ⟨insertions, hresult, hvisit⟩ := loadMetadata_visit cx server role root
            blacklistedEntityIds loadedEntityIds keysMngr
          have hflags : LoadMetadataFlags.resolve {} = allFlags := rfl
          rw [hflags, hresult] at h
          rcases mem_foldl_insert h with hbefore | ⟨i, hi, rfl, rfl⟩
          · exact .inl hbefore
          · exact .inr ⟨root, rfl, keysMngr, hkeysMngr, i, rfl, rfl, hvisit.trusted i hi,
              hvisit.allowed i hi⟩
        · exact .inl h

end Lasso
