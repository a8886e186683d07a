import Lasso.Library.Tables
import Lasso.Provider.Basic

/-!
# The metadata table of a provider

The values read from the metadata of a provider stand in one table, under keys that are put together
of the role and a name. The prefix of a role has no space, so that a key tells both, whatever stands
in the name.

## Main definitions

* `Provider.addMetadataValueForRole`, `Provider.getMetadataKeysForRole` — the functions of
  `provider.c`.
* `Provider.addMetadataValues` — a sequence of calls.

## Main results

* `Provider.metadata_of_calls` — the values and the names that are found for a role.
-/

namespace Lasso

/-- The key of a name, for the prefix of a role. -/
def metadataSymbol (rolePrefix name : String) : String := rolePrefix ++ " " ++ name

/-- The name behind the prefix of a role, if the key has that prefix. -/
def nameBehind (rolePrefix key : String) : Option String :=
  let start := (rolePrefix ++ " ").toList
  if start.isPrefixOf key.toList then some (String.ofList (key.toList.drop start.length)) else none

namespace Provider

/-- `_lasso_provider_add_metadata_value_for_role`: a list that is found is extended in its place. -/
def addMetadataValueForRole (p : Provider) (role : ProviderRole) (name value : String) : Provider :=
  match role.metadataHead, p.getMetadataListForRole role name with
  | none, _ => p
  | some head, [] =>
    { p with descriptors := p.descriptors.insert (metadataSymbol head name) [value] }
  | some head, first :: others =>
    { p with
      descriptors := p.descriptors.replace (metadataSymbol head name)
        (first :: others ++ [value]) }

/-- `lasso_provider_get_metadata_keys_for_role`, for the order in which `g_hash_table_foreach`
visits the keys -/
def getMetadataKeysForRole (foreachOrder : List String → List String) (p : Provider)
    (role : ProviderRole) : List String :=
  match role.metadataHead with
  | none => []
  | some head => (foreachOrder p.descriptors.keys).filterMap (nameBehind head)

end Provider

/-- A call of `_lasso_provider_add_metadata_value_for_role` -/
structure MetadataValue where
  role : ProviderRole
  name : String
  value : String

namespace Provider

/-- The provider after a sequence of calls. -/
def addMetadataValues (p : Provider) (calls : List MetadataValue) : Provider :=
  calls.foldl (fun p call => p.addMetadataValueForRole call.role call.name call.value) p

/-! ## Keys -/

theorem space_notMem_metadataHead {role : ProviderRole} {head : String}
    (h : role.metadataHead = some head) : ' ' ∉ head.toList := by
  cases role <;> cases h <;> decide

theorem metadataHead_injective {role role' : ProviderRole} {head : String}
    (h : role.metadataHead = some head) (h' : role'.metadataHead = some head) : role = role' := by
  cases role <;> cases role' <;> cases h <;> first | rfl | (revert h'; decide)

theorem toList_metadataSymbol (head name : String) :
    (metadataSymbol head name).toList = head.toList ++ ' ' :: name.toList := by
  simp [metadataSymbol]

/-- A key tells the prefix and the name. -/
theorem metadataSymbol_inj {role role' : ProviderRole} {head head' name name' : String}
    (h : role.metadataHead = some head) (h' : role'.metadataHead = some head') :
    metadataSymbol head name = metadataSymbol head' name' ↔ role = role' ∧ name = name' := by
  constructor
  · intro heq
    have hlist : head.toList ++ ' ' :: name.toList = head'.toList ++ ' ' :: name'.toList := by
      rw [← toList_metadataSymbol, heq, toList_metadataSymbol]
    have hcut (role : ProviderRole) (head name : String) (h : role.metadataHead = some head) :
        (head.toList ++ ' ' :: name.toList).takeWhile (· ≠ ' ') = head.toList := by
      rw [List.takeWhile_append_of_pos fun c hc => by
        simpa using fun hspace : c = ' ' => space_notMem_metadataHead h (hspace ▸ hc)]
      simp
    have hhead : head = head' := String.toList_inj.mp (by
      rw [← hcut role head name h, hlist, hcut role' head' name' h'])
    subst hhead
    exact ⟨metadataHead_injective h h', String.toList_inj.mp (by simpa using hlist)⟩
  · rintro ⟨rfl, rfl⟩
    rw [Option.some.inj (h.symm.trans h')]

theorem nameBehind_eq_some {head key name : String} :
    nameBehind head key = some name ↔ key = metadataSymbol head name := by
  have hstart : (head ++ " ").toList = head.toList ++ [' '] := String.toList_append
  unfold nameBehind
  dsimp only
  rw [hstart]
  constructor
  · intro h
    split_ifs at h with hprefix
    obtain ⟨rest, hrest⟩ := List.isPrefixOf_iff_prefix.mp hprefix
    rw [← hrest, List.drop_left] at h
    apply String.toList_inj.mp
    rw [toList_metadataSymbol, ← hrest, ← Option.some.inj h, String.toList_ofList,
      List.append_assoc, List.singleton_append]
  · rintro rfl
    have hkey : (metadataSymbol head name).toList = (head.toList ++ [' ']) ++ name.toList := by
      rw [toList_metadataSymbol, List.append_assoc, List.singleton_append]
    rw [hkey, if_pos (List.isPrefixOf_iff_prefix.mpr (List.prefix_append _ _)), List.drop_left,
      String.ofList_toList]

/-! ## One call -/

variable {p : Provider} {role role' : ProviderRole} {head name name' value : String}

theorem getMetadataListForRole_eq (p : Provider) (h : role.metadataHead = some head)
    (name : String) : p.getMetadataListForRole role name =
      (p.descriptors.lookup (metadataSymbol head name)).getD [] := by
  rw [getMetadataListForRole, h]
  rfl

/-- What a call puts into the table. -/
theorem lookup_addMetadataValueForRole (h : role.metadataHead = some head) (key : String) :
    (p.addMetadataValueForRole role name value).descriptors.lookup key =
      if key = metadataSymbol head name then some (p.getMetadataListForRole role name ++ [value])
      else p.descriptors.lookup key := by
  have hlist := p.getMetadataListForRole_eq h name
  unfold addMetadataValueForRole
  rw [h]
  split
  · contradiction
  · rename_i head' hhead hempty
    obtain rfl := Option.some.inj hhead
    rw [hempty]
    split_ifs with hkey
    · rw [hkey, AList.lookup_insert]
      rfl
    · exact AList.lookup_insert_ne hkey
  · rename_i head' first others hhead hfound
    obtain rfl := Option.some.inj hhead
    rw [hfound] at hlist ⊢
    -- the list is not empty, so that it stands in the table
    cases hlookup : p.descriptors.lookup (metadataSymbol head name) with
    | none => simp [hlookup] at hlist
    | some values => rw [Tables.lookup_replace, hlookup, Option.map_some]

theorem addMetadataValueForRole_of_none (h : role.metadataHead = none) :
    p.addMetadataValueForRole role name value = p := by
  unfold addMetadataValueForRole
  rw [h]

/-- A call adds its value to the list of its role and name, and to no other one. -/
theorem getMetadataListForRole_add (h : role'.metadataHead = some head) :
    (p.addMetadataValueForRole role name value).getMetadataListForRole role' name' =
      p.getMetadataListForRole role' name' ++
        if role = role' ∧ name = name' then [value] else [] := by
  cases hrole : role.metadataHead with
  | none =>
    have hne : role ≠ role' := by
      rintro rfl
      simp [hrole] at h
    rw [addMetadataValueForRole_of_none hrole, if_neg fun hsame => hne hsame.1, List.append_nil]
  | some rolePrefix =>
    rw [getMetadataListForRole_eq _ h, lookup_addMetadataValueForRole hrole]
    by_cases hsame : role' = role ∧ name' = name
    · obtain ⟨rfl, rfl⟩ := hsame
      rw [if_pos ((metadataSymbol_inj h hrole).mpr ⟨rfl, rfl⟩), if_pos ⟨rfl, rfl⟩]
      rfl
    · rw [if_neg fun hkey => hsame ((metadataSymbol_inj h hrole).mp hkey),
        if_neg fun hsame' => hsame ⟨hsame'.1.symm, hsame'.2.symm⟩, List.append_nil,
        ← getMetadataListForRole_eq _ h]

/-- The table has no empty lists. -/
def Filled (p : Provider) : Prop := ∀ key, p.descriptors.lookup key ≠ some []

theorem Filled.add (hfilled : p.Filled) : (p.addMetadataValueForRole role name value).Filled := by
  intro key
  cases hrole : role.metadataHead with
  | none =>
    rw [addMetadataValueForRole_of_none hrole]
    exact hfilled key
  | some rolePrefix =>
    rw [lookup_addMetadataValueForRole hrole]
    split_ifs
    · simp
    · exact hfilled key

/-! ## A sequence of calls -/

/-- The values that a sequence of calls adds for a role and a name. -/
def valuesFor (calls : List MetadataValue) (role : ProviderRole) (name : String) : List String :=
  (calls.filter fun call => call.role = role ∧ call.name = name).map (·.value)

theorem getMetadataListForRole_calls (calls : List MetadataValue)
    (h : role.metadataHead = some head) (name : String) :
    (p.addMetadataValues calls).getMetadataListForRole role name =
      p.getMetadataListForRole role name ++ valuesFor calls role name := by
  induction calls generalizing p with
  | nil => exact (List.append_nil _).symm
  | cons call calls ih =>
    rw [addMetadataValues, List.foldl_cons]
    refine ih.trans ?_
    rw [getMetadataListForRole_add h, List.append_assoc]
    congr 1
    unfold valuesFor
    by_cases hcall : call.role = role ∧ call.name = name <;> simp [hcall]

theorem Filled.calls (hfilled : p.Filled) (calls : List MetadataValue) :
    (p.addMetadataValues calls).Filled := by
  induction calls generalizing p with
  | nil => exact hfilled
  | cons call calls ih => exact ih hfilled.add

theorem mem_getMetadataKeysForRole {foreachOrder : List String → List String}
    (horder : ∀ keys, (foreachOrder keys).Perm keys) (hfilled : p.Filled)
    (h : role.metadataHead = some head) (name : String) :
    name ∈ p.getMetadataKeysForRole foreachOrder role ↔
      p.getMetadataListForRole role name ≠ [] := by
  have hfound : name ∈ p.getMetadataKeysForRole foreachOrder role ↔
      metadataSymbol head name ∈ p.descriptors := by
    rw [getMetadataKeysForRole, h]
    simp only [List.mem_filterMap, (horder _).mem_iff, nameBehind_eq_some, exists_eq_right]
    exact AList.mem_keys
  rw [hfound, p.getMetadataListForRole_eq h, ← AList.lookup_isSome]
  cases hlookup : p.descriptors.lookup (metadataSymbol head name) with
  | none => simp
  | some values =>
    have hne : values ≠ [] := fun hempty => hfilled _ (hempty ▸ hlookup)
    simp [hne]

theorem nodup_getMetadataKeysForRole {foreachOrder : List String → List String}
    (horder : ∀ keys, (foreachOrder keys).Perm keys) (p : Provider) (role : ProviderRole) :
    (p.getMetadataKeysForRole foreachOrder role).Nodup := by
  unfold getMetadataKeysForRole
  split
  · exact .nil
  · rename_i head _
    refine List.Nodup.filterMap (fun key key' name hkey hkey' => ?_)
      ((horder _).nodup_iff.mpr p.descriptors.keys_nodup)
    rw [nameBehind_eq_some.mp hkey, nameBehind_eq_some.mp hkey']

/-- After any sequence of calls on a provider without metadata: the values found for a role and a
name are those that were added for them, in this order, and the names listed for a role are those
with a value, each once. -/
theorem metadata_of_calls {foreachOrder : List String → List String}
    (horder : ∀ keys, (foreachOrder keys).Perm keys) (p : Provider) (hnew : p.descriptors = ∅)
    (calls : List MetadataValue) (role : ProviderRole) (hrole : role.metadataHead.isSome) :
    (∀ name, (p.addMetadataValues calls).getMetadataListForRole role name =
      valuesFor calls role name) ∧
    ((p.addMetadataValues calls).getMetadataKeysForRole foreachOrder role).Nodup ∧
    ∀ name, name ∈ (p.addMetadataValues calls).getMetadataKeysForRole foreachOrder role ↔
      ∃ call ∈ calls, call.role = role ∧ call.name = name := by
  obtain ⟨head, hhead⟩ := Option.isSome_iff_exists.mp hrole
  have hstart (name : String) : p.getMetadataListForRole role name = [] := by
    rw [p.getMetadataListForRole_eq hhead, hnew, AList.lookup_empty]
    rfl
  have hfilled : p.Filled := by
    intro key
    rw [hnew, AList.lookup_empty]
    simp
  have hvalues (name : String) : (p.addMetadataValues calls).getMetadataListForRole role name =
      valuesFor calls role name := by
    rw [getMetadataListForRole_calls calls hhead, hstart, List.nil_append]
  refine ⟨hvalues, nodup_getMetadataKeysForRole horder _ _, fun name => ?_⟩
  rw [mem_getMetadataKeysForRole horder (hfilled.calls calls) hhead, hvalues, valuesFor, ne_eq,
    List.map_eq_nil_iff, List.filter_eq_nil_iff]
  simp

/-- A name that looks like a key of another role stays with its own role. -/
theorem metadata_of_calls_spaced :
    (addMetadataValues { providerId := none } [⟨.sp, "idp name", "a"⟩, ⟨.idp, "name", "b"⟩,
      ⟨.sp, "idp name", "c"⟩]).getMetadataListForRole .sp "idp name" = ["a", "c"] :=
  (@metadata_of_calls id (fun _ => .refl _) { providerId := none } rfl
    [⟨.sp, "idp name", "a"⟩, ⟨.idp, "name", "b"⟩, ⟨.sp, "idp name", "c"⟩] .sp rfl).1 "idp name"

end Provider

end Lasso
