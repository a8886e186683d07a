import Mathlib.Data.List.Basic
import Mathlib.Data.List.Nodup

/-!
# Scopes

A scope is the list of the bindings that are visible at a place, the innermost first, so that a
binding shadows the ones behind it. Bindings of the inner part of a scope are left out
(`lookup_filter_append_iff`), and bindings are added behind those there are, unless their key is
bound already (`declare`).
-/

namespace Scopes

variable {κ ν : Type*} [BEq κ] [LawfulBEq κ] {inner outer outer' added : List (κ × ν)} {k : κ} {v : ν}
  {keep : κ × ν → Bool}

/-! ## Leaving bindings out -/

theorem lookup_eq_none_iff_notMem : outer.lookup k = none ↔ ∀ w, (k, w) ∉ outer := by
  rw [List.lookup_eq_none_iff]
  constructor
  · intro h w hmem
    simpa using h _ hmem
  · rintro h ⟨k', w⟩ hmem
    simp only [bne_iff_ne, ne_eq]
    rintro rfl
    exact h w hmem

theorem mem_of_lookup_eq_some (h : outer.lookup k = some v) : (k, v) ∈ outer := by
  obtain ⟨front, back, rfl, -⟩ := List.lookup_eq_some_iff.mp h
  simp

theorem lookup_cons_of_ne {k' : κ} {w : ν} (h : k ≠ k') :
    ((k', w) :: outer).lookup k = outer.lookup k := by
  rw [List.lookup_cons, beq_eq_false_iff_ne.mpr h]

/-- A key whose bindings all stay is found as before. -/
theorem lookup_filter_of_forall (h : ∀ w, (k, w) ∈ inner → keep (k, w) = true) :
    (inner.filter keep).lookup k = inner.lookup k := by
  induction inner with
  | nil => rfl
  | cons binding inner ih =>
    obtain ⟨k', w⟩ := binding
    have hrest := ih fun w hmem => h w (List.mem_cons_of_mem _ hmem)
    by_cases hk : k = k'
    · subst hk
      simp [h w List.mem_cons_self]
    · rw [List.filter_cons, lookup_cons_of_ne hk]
      split_ifs
      · rw [lookup_cons_of_ne hk, hrest]
      · exact hrest

/-- The binding that is found stays the one that is found, if it is not left out. -/
theorem lookup_filter_of_keep (h : inner.lookup k = some v) (hkeep : keep (k, v) = true) :
    (inner.filter keep).lookup k = some v := by
  induction inner with
  | nil => cases h
  | cons binding inner ih =>
    obtain ⟨k', w⟩ := binding
    by_cases hk : k = k'
    · subst hk
      obtain rfl : w = v := by simpa using h
      simp [hkeep]
    · rw [lookup_cons_of_ne hk] at h
      rw [List.filter_cons]
      split_ifs
      · rw [lookup_cons_of_ne hk, ih h]
      · exact ih h

/-- Of the inner bindings of a key those are left out that say the same as the outer scope. The key
still means the same, unless the outer scope would, and another inner binding comes in between. -/
theorem lookup_filter_append_iff (h : (inner ++ outer).lookup k = some v)
    (houter : ∀ v, outer.lookup k = some v → outer'.lookup k = some v)
    (hkeep : ∀ w, (k, w) ∈ inner → (keep (k, w) = false ↔ outer'.lookup k = some w)) :
    (inner.filter keep ++ outer').lookup k = some v ↔
      (outer'.lookup k = some v → ∀ w, (k, w) ∈ inner → w = v) := by
  rw [List.lookup_append] at h ⊢
  by_cases hsame : outer'.lookup k = some v
  · rw [hsame]
    constructor
    · intro hlookup _ w hmem
      by_contra hne
      have hstays : keep (k, w) = true := by
        rw [← Bool.not_eq_false, hkeep w hmem, hsame]
        simpa using fun h => hne h.symm
      cases hinner : (inner.filter keep).lookup k with
      | none =>
        exact lookup_eq_none_iff_notMem.mp hinner w (List.mem_filter.mpr ⟨hmem, hstays⟩)
      | some w' =>
        obtain rfl : w' = v := by simpa [hinner] using hlookup
        obtain ⟨hmem', hstays'⟩ := List.mem_filter.mp (mem_of_lookup_eq_some hinner)
        rw [(hkeep w' hmem').mpr hsame] at hstays'
        cases hstays'
    · intro hall
      have hnone : (inner.filter keep).lookup k = none := by
        refine lookup_eq_none_iff_notMem.mpr fun w hmem => ?_
        obtain ⟨hmem, hstays⟩ := List.mem_filter.mp hmem
        obtain rfl := hall rfl w hmem
        rw [(hkeep w hmem).mpr hsame] at hstays
        cases hstays
      rw [hnone, Option.none_or]
  · refine iff_of_true ?_ fun hsame' => absurd hsame' hsame
    cases hinner : inner.lookup k with
    | none =>
      rw [hinner, Option.none_or] at h
      exact absurd (houter v h) hsame
    | some w =>
      obtain rfl : w = v := by simpa [hinner] using h
      have hstays : keep (k, w) = true := by
        rw [← Bool.not_eq_false, hkeep w (mem_of_lookup_eq_some hinner)]
        exact hsame
      rw [lookup_filter_of_keep hinner hstays, Option.some_or]

/-! ## Adding bindings -/

/-- The binding is added as the outermost one, unless its key is bound already. -/
def declare (scope : List (κ × ν)) (binding : κ × ν) : List (κ × ν) :=
  if scope.any (·.1 == binding.1) then scope else scope ++ [binding]

theorem lookup_declare_append (scope : List (κ × ν)) (binding : κ × ν) (k : κ) :
    (declare scope binding ++ added).lookup k = (scope ++ binding :: added).lookup k := by
  unfold declare
  split_ifs with hbound
  · obtain ⟨⟨k', w⟩, hmem, hkey⟩ := List.any_eq_true.mp hbound
    obtain ⟨k'', v⟩ := binding
    obtain rfl : k' = k'' := by simpa using hkey
    rw [List.lookup_append, List.lookup_append]
    by_cases hk : k = k'
    · subst hk
      cases hscope : scope.lookup k with
      | none => exact absurd hmem (lookup_eq_none_iff_notMem.mp hscope w)
      | some v => rfl
    · rw [lookup_cons_of_ne hk]
  · simp

/-- The first binding of a key counts, whether it was there or was added. -/
theorem lookup_foldl_declare (scope : List (κ × ν)) (added : List (κ × ν)) (k : κ) :
    (added.foldl declare scope).lookup k = (scope ++ added).lookup k := by
  induction added generalizing scope with
  | nil => simp
  | cons binding added ih => rw [List.foldl_cons, ih, lookup_declare_append]

theorem nodup_declare {binding : κ × ν} (h : (outer.map Prod.fst).Nodup) :
    ((declare outer binding).map Prod.fst).Nodup := by
  unfold declare
  split_ifs with hbound
  · exact h
  · rw [List.map_append, List.nodup_append]
    refine ⟨h, by simp, ?_⟩
    simp only [List.any_eq_true, beq_iff_eq, not_exists, not_and] at hbound
    rintro key hkey _ hlast rfl
    obtain ⟨bound, hmem, rfl⟩ := List.mem_map.mp hkey
    exact hbound bound hmem (by simpa using hlast)

theorem lookup_eq_some_iff_mem (h : (outer.map Prod.fst).Nodup) :
    outer.lookup k = some v ↔ (k, v) ∈ outer := by
  refine ⟨mem_of_lookup_eq_some, fun hmem => ?_⟩
  induction outer with
  | nil => cases hmem
  | cons binding outer ih =>
    obtain ⟨k', w⟩ := binding
    obtain ⟨hfirst, hrest⟩ := List.nodup_cons.mp h
    rcases List.mem_cons.mp hmem with heq | htail
    · cases heq
      simp
    · have hne : k ≠ k' := by
        rintro rfl
        exact hfirst (List.mem_map.mpr ⟨_, htail, rfl⟩)
      rw [lookup_cons_of_ne hne]
      exact ih hrest htail

end Scopes
