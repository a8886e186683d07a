import Mathlib.Data.List.AList
import Mathlib.Data.List.Induction

/-!
# Tables that are written out and read back

A table is listed entry by entry in some order of its keys (`entriesIn`), and a list of entries is
put into a table one after the other (`insertEntries`). Together they give the same lookups again.
A value that is changed in its place is replaced (`AList.replace`).
-/

namespace Tables

variable {α β : Type*} [DecidableEq α] {t : AList fun _ : α => β} {order : List α}
  {entries : List (α × β)}

/-- The entries of a table, with the keys in the given order. -/
def entriesIn (order : List α) (t : AList fun _ : α => β) : List (α × β) :=
  order.filterMap fun key => (t.lookup key).map fun value => (key, value)

/-- The table after the entries were inserted one after the other. -/
def insertEntries (t : AList fun _ : α => β) (entries : List (α × β)) : AList fun _ : α => β :=
  entries.foldl (fun t entry => t.insert entry.1 entry.2) t

theorem mem_entriesIn {key : α} {value : β} :
    (key, value) ∈ entriesIn order t ↔ key ∈ order ∧ t.lookup key = some value := by
  simp [entriesIn, Option.map_eq_some_iff]

theorem map_fst_entriesIn (h : ∀ key ∈ order, key ∈ t) :
    (entriesIn order t).map Prod.fst = order := by
  induction order with
  | nil => rfl
  | cons key order ih =>
    obtain ⟨value, hvalue⟩ := Option.isSome_iff_exists.mp
      (AList.lookup_isSome.mpr (h key List.mem_cons_self))
    have hrest := ih fun key hkey => h key (List.mem_cons_of_mem _ hkey)
    rw [entriesIn, List.filterMap_cons, hvalue]
    exact congrArg (key :: ·) hrest

/-- An entry that is inserted is found, unless a later one has the same key. -/
theorem lookup_insertEntries_of_mem (hnodup : (entries.map Prod.fst).Nodup) {key : α} {value : β}
    (h : (key, value) ∈ entries) : (insertEntries t entries).lookup key = some value := by
  induction entries using List.reverseRecOn with
  | nil => cases h
  | append_singleton entries entry ih =>
    rw [List.map_append, List.nodup_append] at hnodup
    rw [insertEntries, List.foldl_append, List.foldl_cons, List.foldl_nil]
    rcases List.mem_append.mp h with hmem | hlast
    · have hne : key ≠ entry.1 := hnodup.2.2 key (List.mem_map.mpr ⟨_, hmem, rfl⟩) entry.1
        (by simp)
      rw [AList.lookup_insert_ne hne]
      exact ih hnodup.1 hmem
    · obtain rfl := List.mem_singleton.mp hlast
      exact AList.lookup_insert _

theorem lookup_insertEntries_of_notMem {key : α} (h : key ∉ entries.map Prod.fst) :
    (insertEntries t entries).lookup key = t.lookup key := by
  induction entries generalizing t with
  | nil => rfl
  | cons entry entries ih =>
    obtain ⟨hne, hrest⟩ := not_or.mp (List.mem_cons.not.mp h)
    rw [insertEntries, List.foldl_cons]
    exact (ih hrest).trans (AList.lookup_insert_ne hne)

/-- The last entry of a key counts. -/
theorem lookup_insertEntries (t : AList fun _ : α => β) (entries : List (α × β)) (key : α) :
    (insertEntries t entries).lookup key = (entries.reverse.lookup key).or (t.lookup key) := by
  induction entries using List.reverseRecOn with
  | nil => rfl
  | append_singleton entries entry ih =>
    rw [insertEntries, List.foldl_append, List.foldl_cons, List.foldl_nil, List.reverse_append,
      List.reverse_singleton, List.singleton_append, List.lookup_cons]
    by_cases hkey : key = entry.1
    · rw [hkey, AList.lookup_insert, beq_self_eq_true]
      rfl
    · rw [AList.lookup_insert_ne hkey, beq_eq_false_iff_ne.mpr hkey]
      exact ih

/-- A table of entries among which a key has one value has these entries. -/
theorem lookup_insertEntries_empty
    (h : ∀ key value value', (key, value) ∈ entries → (key, value') ∈ entries → value = value')
    {key : α} {value : β} :
    (insertEntries ∅ entries).lookup key = some value ↔ (key, value) ∈ entries := by
  have hmem : ∀ found, entries.reverse.lookup key = some found → (key, found) ∈ entries := by
    intro found hfound
    obtain ⟨before, after, hentries, -⟩ := List.lookup_eq_some_iff.mp hfound
    rw [← List.mem_reverse, hentries]
    exact List.mem_append_right _ List.mem_cons_self
  rw [lookup_insertEntries, AList.lookup_empty, Option.or_none]
  refine ⟨hmem value, fun hvalue => ?_⟩
  have hsome : (entries.reverse.lookup key).isSome :=
    List.lookup_isSome_iff.mpr ⟨_, List.mem_reverse.mpr hvalue, beq_self_eq_true key⟩
  obtain ⟨found, hfound⟩ := Option.isSome_iff_exists.mp hsome
  rw [hfound, h key found value (hmem found hfound) hvalue]

/-- A table that is written out, and read back with other values for its keys. -/
theorem lookup_insertEntries_map_entriesIn {γ : Type*} (f : β → γ) (h : order.Perm t.keys)
    (key : α) :
    (insertEntries ∅ ((entriesIn order t).map fun entry => (entry.1, f entry.2))).lookup key =
      (t.lookup key).map f := by
  have hkeys : ((entriesIn order t).map fun entry => (entry.1, f entry.2)).map Prod.fst =
      order := by
    rw [List.map_map]
    exact map_fst_entriesIn fun key hkey => h.mem_iff.mp hkey
  cases hvalue : t.lookup key with
  | some value =>
    have hmem : key ∈ t := AList.lookup_isSome.mp (by simp [hvalue])
    apply lookup_insertEntries_of_mem
    · rw [hkeys]
      exact h.nodup_iff.mpr t.keys_nodup
    · exact List.mem_map.mpr
        ⟨(key, value), mem_entriesIn.mpr ⟨h.mem_iff.mpr hmem, hvalue⟩, rfl⟩
  | none =>
    rw [lookup_insertEntries_of_notMem]
    · exact AList.lookup_empty key
    · rw [hkeys, h.mem_iff]
      exact AList.lookup_eq_none.mp hvalue

/-- A table that is written out and read back has the same entries. -/
theorem lookup_insertEntries_entriesIn (h : order.Perm t.keys) (key : α) :
    (insertEntries ∅ (entriesIn order t)).lookup key = t.lookup key := by
  simpa using lookup_insertEntries_map_entriesIn id h key

/-! ## Replacing a value -/

theorem dlookup_kreplace (key key' : α) (value : β) (entries : List (Sigma fun _ : α => β)) :
    (List.kreplace key value entries).dlookup key' =
      if key' = key then (entries.dlookup key).map fun _ => value else entries.dlookup key' := by
  induction entries with
  | nil => simp [List.kreplace]
  | cons entry entries ih =>
    obtain ⟨first, old⟩ := entry
    by_cases hfirst : key = first
    · subst hfirst
      have hhead : List.kreplace key value (⟨key, old⟩ :: entries) = ⟨key, value⟩ :: entries := by
        rw [List.kreplace, List.lookmap_cons_some _ _ (by simp; rfl)]
      by_cases hkey : key' = key
      · subst hkey
        simp [hhead]
      · have hne : key' ≠ (⟨key, value⟩ : Sigma fun _ : α => β).1 := hkey
        have hne' : key' ≠ (⟨key, old⟩ : Sigma fun _ : α => β).1 := hkey
        rw [hhead, if_neg hkey, List.dlookup_cons_ne _ _ hne, List.dlookup_cons_ne _ _ hne']
    · have hhead : List.kreplace key value (⟨first, old⟩ :: entries) =
          ⟨first, old⟩ :: List.kreplace key value entries := by
        rw [List.kreplace, List.lookmap_cons_none _ _ (by simp [hfirst])]
      have hne : key ≠ (⟨first, old⟩ : Sigma fun _ : α => β).1 := hfirst
      by_cases hkey' : key' = first
      · subst hkey'
        simp [hhead, Ne.symm hfirst]
      · have hne' : key' ≠ (⟨first, old⟩ : Sigma fun _ : α => β).1 := hkey'
        rw [hhead, List.dlookup_cons_ne _ _ hne', List.dlookup_cons_ne _ _ hne,
          List.dlookup_cons_ne _ _ hne', ih]

/-- A value that is replaced is found, and every other one as before. -/
theorem lookup_replace (t : AList fun _ : α => β) (key key' : α) (value : β) :
    (t.replace key value).lookup key' =
      if key' = key then (t.lookup key).map fun _ => value else t.lookup key' :=
  dlookup_kreplace key key' value t.entries

end Tables
