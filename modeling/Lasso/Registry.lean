import Lasso.ErrorCode
import Lasso.Library.Run
import Lasso.Strings
import Lasso.Xml.NodeClass
import Mathlib.Data.List.AList

/-!
# The registry of class names

A registry maps a qualified name to its name in another namespace, by an entry for the name or by a
function for the two namespaces. `registry.c` looks at the functions first.

## Main definitions

* `LassoRegistry.getMapping` — the lookup.
* `LassoRegistry.addDirectMapping`, `LassoRegistry.addFunctionalMapping` — the registrations.
* `LassoRegistry.Compatible` — a registration that contradicts no entry.

## Main results

* `LassoRegistry.keepsLookups_iff` — a registration keeps the lookups if and only if it is
  compatible.
* `LassoRegistry.getMapping_stays` — runs of compatible registrations.
-/

namespace Lasso

/-- `LassoRegistryTranslationFunction`. The name may be a null pointer. -/
abbrev TranslationFunction := String → Option String → String → Option String

/-- `LassoRegistry`. Quarks are told apart like their strings, so the keys that the records are
compared by are taken as strings; a function may be a null pointer. -/
structure LassoRegistry where
  functionalMapping : AList (fun _ : String × String => Option TranslationFunction) := ∅
  directMapping : AList (fun _ : String × String × String => String) := ∅

namespace LassoRegistry

/-! ## Lookups -/

/-- `lasso_registry_get_translation_function` -/
def getTranslationFunction (registry : LassoRegistry) (fromNamespace toNamespace : String) :
    Option TranslationFunction :=
  (registry.functionalMapping.lookup (fromNamespace, toNamespace)).join

/-- `lasso_registry_get_functional_mapping` -/
def getFunctionalMapping (registry : LassoRegistry) (fromNamespace : String)
    (fromName : Option String) (toNamespace : String) : Option String :=
  (registry.getTranslationFunction fromNamespace toNamespace).bind fun translationFunction =>
    translationFunction fromNamespace fromName toNamespace

/-- `lasso_registry_get_direct_mapping` -/
def getDirectMapping (registry : LassoRegistry) (fromNamespace : String)
    (fromName : Option String) (toNamespace : String) : Option String :=
  fromName.bind fun fromName => registry.directMapping.lookup (fromNamespace, fromName, toNamespace)

/-- `lasso_registry_get_mapping` -/
def getMapping (registry : LassoRegistry) (fromNamespace fromName toNamespace : Option String) :
    Option String :=
  match fromNamespace, toNamespace with
  | some fromNamespace, some toNamespace =>
    (registry.getFunctionalMapping fromNamespace fromName toNamespace).or
      (registry.getDirectMapping fromNamespace fromName toNamespace)
  | _, _ => none

/-! ## Registrations -/

/-- `lasso_registry_add_direct_mapping` -/
def addDirectMapping (registry : LassoRegistry)
    (fromNamespace fromName toNamespace toName : Option String) : Rc × LassoRegistry :=
  match fromNamespace, fromName, toNamespace, toName with
  | some fromNamespace, some fromName, some toNamespace, some toName =>
    if (registry.getMapping fromNamespace fromName toNamespace).isSome then
      (.registry .keyExists, registry)
    else
      (.ok, { registry with
        directMapping := registry.directMapping.insert (fromNamespace, fromName, toNamespace)
          toName })
  | _, _, _, _ => (.param .invalidValue, registry)

/-- `lasso_registry_add_functional_mapping`. The record is key and value of its entry. Where one
with a null pointer is in the table, `g_hash_table_insert` keeps the old key and frees the old
value, which is the same record: no registry is left then. -/
def addFunctionalMapping (registry : LassoRegistry) (fromNamespace toNamespace : Option String)
    (translationFunction : Option TranslationFunction) : Option (Rc × LassoRegistry) :=
  match fromNamespace, toNamespace with
  | some fromNamespace, some toNamespace =>
    match registry.functionalMapping.lookup (fromNamespace, toNamespace) with
    | some (some _) => some (.registry .keyExists, registry)
    | some none => none
    | none => some (.ok, { registry with
        functionalMapping := registry.functionalMapping.insert (fromNamespace, toNamespace)
          translationFunction })
  | _, _ => some (.param .invalidValue, registry)

/-- A call that registers a mapping. -/
inductive Registration where
  | direct (fromNamespace fromName toNamespace toName : Option String)
  | functional (fromNamespace toNamespace : Option String)
      (translationFunction : Option TranslationFunction)

/-- The call on a registry. -/
def register (registry : LassoRegistry) : Registration → Option (Rc × LassoRegistry)
  | .direct fromNamespace fromName toNamespace toName =>
    some (registry.addDirectMapping fromNamespace fromName toNamespace toName)
  | .functional fromNamespace toNamespace translationFunction =>
    registry.addFunctionalMapping fromNamespace toNamespace translationFunction

/-- The registry after a call that leaves one. -/
def after (registry : LassoRegistry) (registration : Registration) : LassoRegistry :=
  ((registry.register registration).map Prod.snd).getD registry

/-! ## What a registration keeps -/

/-- Every lookup that gives a value in the first registry gives it in the second one. -/
def Keeps (before after : LassoRegistry) : Prop :=
  ∀ fromNamespace fromName toNamespace value,
    before.getMapping fromNamespace fromName toNamespace = some value →
      after.getMapping fromNamespace fromName toNamespace = some value

/-- A registration leaves a registry, with the lookups that there were. -/
def KeepsLookups (registry : LassoRegistry) (registration : Registration) : Prop :=
  ∃ rc after, registry.register registration = some (rc, after) ∧ registry.Keeps after

/-- A new function gives no other name than an entry does, and it does not come in the place of a
null pointer. -/
def Compatible (registry : LassoRegistry) : Registration → Prop
  | .functional (some fromNamespace) (some toNamespace) translationFunction =>
    match registry.functionalMapping.lookup (fromNamespace, toNamespace) with
    | some registered => registered.isSome
    | none => ∀ fromName value,
      registry.directMapping.lookup (fromNamespace, fromName, toNamespace) = some value →
        ∀ translated ∈ translationFunction.bind (· fromNamespace fromName toNamespace),
          translated = value
  | _ => True

section

variable {registry : LassoRegistry}

theorem Keeps.refl (registry : LassoRegistry) : registry.Keeps registry := fun _ _ _ _ h => h

theorem Keeps.trans {r s t : LassoRegistry} (hrs : r.Keeps s) (hst : s.Keeps t) : r.Keeps t :=
  fun a n b v h => hst a n b v (hrs a n b v h)

theorem getFunctionalMapping_insert_self (a b : String) (name : Option String)
    (f : Option TranslationFunction) :
    getFunctionalMapping { registry with
        functionalMapping := registry.functionalMapping.insert (a, b) f } a name b =
      f.bind (· a name b) := by
  simp [getFunctionalMapping, getTranslationFunction]

theorem getFunctionalMapping_insert_ne {a b a' b' : String} (hne : (a', b') ≠ (a, b))
    (name : Option String) (f : Option TranslationFunction) :
    getFunctionalMapping { registry with
        functionalMapping := registry.functionalMapping.insert (a, b) f } a' name b' =
      registry.getFunctionalMapping a' name b' := by
  simp [getFunctionalMapping, getTranslationFunction, AList.lookup_insert_ne hne]

/-- An entry is added for a name without a value only. -/
theorem keeps_addDirectMapping (a n b v : Option String) :
    registry.Keeps (registry.addDirectMapping a n b v).2 := by
  unfold addDirectMapping
  split
  · rename_i a n b v
    split_ifs with hsome
    · exact .refl registry
    · intro a' n' b' value hvalue
      cases a' with
      | none => cases hvalue
      | some a' =>
        cases b' with
        | none => cases hvalue
        | some b' =>
          by_cases hkey : (a', n', b') = (a, some n, b)
          · obtain ⟨rfl, rfl, rfl⟩ := by simpa using hkey
            exact absurd (Option.isSome_of_eq_some hvalue) hsome
          · rw [getMapping] at hvalue ⊢
            cases n' with
            | none => exact hvalue
            | some n' =>
              have hne : (a', n', b') ≠ (a, n, b) := by simpa using hkey
              simpa [getDirectMapping, AList.lookup_insert_ne hne, getFunctionalMapping,
                getTranslationFunction] using hvalue
  · exact .refl registry

/-- A function for namespaces without one keeps the lookups if and only if it agrees with the
entries. -/
theorem keeps_insert_iff {a b : String} {f : Option TranslationFunction}
    (hnone : registry.functionalMapping.lookup (a, b) = none) :
    registry.Keeps { registry with
        functionalMapping := registry.functionalMapping.insert (a, b) f } ↔
      ∀ name value, registry.directMapping.lookup (a, name, b) = some value →
        ∀ translated ∈ f.bind (· a name b), translated = value := by
  have hbefore (name : Option String) : registry.getFunctionalMapping a name b = none := by
    simp [getFunctionalMapping, getTranslationFunction, hnone]
  constructor
  · intro h name value hvalue translated htranslated
    have hkept := h (some a) (some name) (some b) value (by
      simp [getMapping, hbefore, getDirectMapping, hvalue])
    simp only [getMapping, getFunctionalMapping_insert_self] at hkept
    rw [Option.mem_def.mp htranslated] at hkept
    simpa using hkept
  · intro h a' n' b' value hvalue
    cases a' with
    | none => cases hvalue
    | some a' =>
      cases b' with
      | none => cases hvalue
      | some b' =>
        simp only [getMapping] at hvalue ⊢
        by_cases hkey : (a', b') = (a, b)
        · obtain ⟨rfl, rfl⟩ := Prod.mk.inj hkey
          rw [hbefore, Option.none_or] at hvalue
          rw [getFunctionalMapping_insert_self]
          cases n' with
          | none => cases hvalue
          | some name =>
            cases htranslated : f.bind (· a' (some name) b') with
            | none => exact hvalue
            | some translated =>
              rw [h name value hvalue translated htranslated]
              rfl
        · rw [getFunctionalMapping_insert_ne hkey]
          exact hvalue

/-- A registration keeps the lookups if and only if it contradicts no entry. -/
theorem keepsLookups_iff (registry : LassoRegistry) (registration : Registration) :
    registry.KeepsLookups registration ↔ registry.Compatible registration := by
  have hkeeps {rc : Rc} {result : LassoRegistry}
      (hresult : registry.register registration = some (rc, result)) :
      registry.KeepsLookups registration ↔ registry.Keeps result := by
    constructor
    · rintro ⟨rc', result', hresult', h⟩
      cases hresult.symm.trans hresult'
      exact h
    · exact fun h => ⟨rc, result, hresult, h⟩
  cases registration with
  | direct a n b v =>
    rw [hkeeps rfl]
    exact iff_of_true (keeps_addDirectMapping a n b v) trivial
  | functional a b f =>
    cases a with
    | none =>
      rw [hkeeps rfl]
      exact iff_of_true (.refl registry) trivial
    | some a =>
      cases b with
      | none =>
        rw [hkeeps rfl]
        exact iff_of_true (.refl registry) trivial
      | some b =>
        cases hlookup : registry.functionalMapping.lookup (a, b) with
        | none =>
          have hregister : registry.register (.functional (some a) (some b) f) =
              some (.ok, { registry with
                functionalMapping := registry.functionalMapping.insert (a, b) f }) := by
            simp [register, addFunctionalMapping, hlookup]
          rw [hkeeps hregister, keeps_insert_iff hlookup]
          simp [Compatible, hlookup]
        | some registered =>
          cases registered with
          | none =>
            refine iff_of_false ?_ (by simp [Compatible, hlookup])
            rintro ⟨rc, result, hresult, -⟩
            simp [register, addFunctionalMapping, hlookup] at hresult
          | some registered =>
            have hregister : registry.register (.functional (some a) (some b) f) =
                some (.registry .keyExists, registry) := by
              simp [register, addFunctionalMapping, hlookup]
            rw [hkeeps hregister]
            exact iff_of_true (.refl registry) (by simp [Compatible, hlookup])

/-- A registration that finds its key leaves the registry as it is. -/
theorem register_keyExists {registration : Registration} {after : LassoRegistry}
    (h : registry.register registration = some (.registry .keyExists, after)) :
    after = registry := by
  cases registration with
  | direct a n b v =>
    simp only [register, addDirectMapping, Option.some.injEq] at h
    split at h
    · split_ifs at h
      · exact (Prod.mk.inj h).2.symm
      · cases (Prod.mk.inj h).1
    · cases (Prod.mk.inj h).1
  | functional a b f =>
    simp only [register, addFunctionalMapping] at h
    split at h
    · split at h
      · exact (Prod.mk.inj (Option.some.inj h)).2.symm
      · cases h
      · cases (Prod.mk.inj (Option.some.inj h)).1
    · cases (Prod.mk.inj (Option.some.inj h)).1

/-! ## Runs -/

theorem keeps_after {registration : Registration} (h : registry.Compatible registration) :
    registry.Keeps (registry.after registration) := by
  obtain ⟨rc, result, hresult, hkeeps⟩ := (keepsLookups_iff registry registration).mpr h
  have hafter : registry.after registration = result := by simp [after, hresult]
  rw [hafter]
  exact hkeeps

theorem keeps_of_reaches {later : LassoRegistry}
    (h : Run.Reaches after Compatible (· = registry) later) : registry.Keeps later := by
  refine h.invariant ?_ ?_
  · rintro _ rfl
    exact .refl _
  · exact fun _ _ hkeeps hcompatible => hkeeps.trans (keeps_after hcompatible)

/-- After any compatible registrations, every lookup gives the value that it gave before them, and
one that finds its key changes no lookup. -/
theorem getMapping_stays {later : LassoRegistry}
    (h : Run.Reaches after Compatible (· = registry) later) :
    (∀ fromNamespace fromName toNamespace value,
      registry.getMapping fromNamespace fromName toNamespace = some value →
        later.getMapping fromNamespace fromName toNamespace = some value) ∧
    ∀ registration result,
      later.register registration = some (.registry .keyExists, result) →
        ∀ fromNamespace fromName toNamespace,
          result.getMapping fromNamespace fromName toNamespace =
            later.getMapping fromNamespace fromName toNamespace := by
  refine ⟨keeps_of_reaches h, ?_⟩
  intro registration result hresult fromNamespace fromName toNamespace
  rw [register_keyExists hresult]

end

/-! ## A name that changes -/

/-- The registry with a class for the name `test` of the namespace `coin`. -/
def coinRegistry : LassoRegistry :=
  after {} (.direct (some "coin") (some "test") (some lassoHref) (some "LassoTestClass"))

/-- A function that puts a prefix before every name. -/
def coinTranslation : TranslationFunction :=
  fun _ name _ => name.map ("Lasso" ++ ·)

theorem coinRegistry_stays :
    let later := coinRegistry.after
      (.functional (some "coin") (some "other") (some coinTranslation))
    later.getMapping (some "coin") (some "test") (some lassoHref) = some "LassoTestClass" := by
  have h : Run.Reaches after Compatible (· = coinRegistry) (coinRegistry.after
      (.functional (some "coin") (some "other") (some coinTranslation))) := by
    refine .next _ (.start rfl) ?_
    intro name value hvalue
    have hnone : coinRegistry.directMapping.lookup ("coin", name, "other") = none :=
      AList.lookup_insert_ne (by simp [lassoHref])
    cases hnone.symm.trans hvalue
  exact (getMapping_stays h).1 (some "coin") (some "test") (some lassoHref) "LassoTestClass" rfl

/-- A function that is registered after an entry hides it. -/
theorem coinRegistry_overridden :
    coinRegistry.getMapping (some "coin") (some "test") (some lassoHref) =
        some "LassoTestClass" ∧
      ∃ later, coinRegistry.register
          (.functional (some "coin") (some lassoHref) (some coinTranslation)) =
            some (.ok, later) ∧
        later.getMapping (some "coin") (some "test") (some lassoHref) = some "Lassotest" :=
  ⟨rfl, _, rfl, rfl⟩

end LassoRegistry

/-! ## The mapping of the parser -/

/-- The registry of the parser with this registry of names. -/
def Registry.withNames (R : Registry) (names : LassoRegistry) : Registry :=
  { R with mapping := fun href name => names.getMapping (some href) (some name) (some lassoHref) }

/-- An element that passes the name check of a class passes it after further registrations. -/
theorem LassoNodeClass.nameMismatch_withNames {R : Registry} {names later : LassoRegistry}
    (h : Run.Reaches LassoRegistry.after LassoRegistry.Compatible (· = names) later)
    {cls : LassoNodeClass} {node : XmlNode}
    (hpasses : cls.nameMismatch (R.withNames names) node = false) :
    cls.nameMismatch (R.withNames later) node = false := by
  rw [nameMismatch_eq_false] at hpasses ⊢
  refine hpasses.imp_right ?_
  rintro ⟨href, name, hhref, hname, hmapping⟩
  refine ⟨href, name, hhref, hname, ?_⟩
  exact LassoRegistry.keeps_of_reaches h (some href) (some name) (some lassoHref) cls.name hmapping

end Lasso
