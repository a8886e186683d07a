import Mathlib.Data.List.Nodup

/-!
# Records as lists of named values

A record is written as the values of those of its fields that are set, each under the name of the
field, and read by assigning one value after the other. The list of fields is the only description
of the record that writing and reading have in common.

## Main results

* `foldl_assign_values` — what a record becomes when it reads what another one has written.
-/

namespace NamedFields

variable {σ ν β α : Type*}

/-- A part of a record that is written and read under a name. -/
structure Field (σ ν β : Type*) where
  name : ν
  get : σ → Option β
  set : β → σ → σ

namespace Field

/-- Take the part over from one record into another, if it is set. -/
def carry (field : Field σ ν β) (source target : σ) : σ :=
  (field.get source).elim target (field.set · target)

/-- A part of a record with the text that stands for it, if there is one. -/
def coded (name : ν) (encode : α → Option β) (decode : β → α) (get : σ → α) (put : α → σ → σ) :
    Field σ ν β where
  name
  get s := encode (get s)
  set value := put (decode value)

/-- The part is taken over if its text stands for it, and if a part without a text is there
before. -/
theorem carry_coded {name : ν} {encode : α → Option β} {decode : β → α} {get : σ → α}
    {put : α → σ → σ} {source target : σ}
    (hcode : ∀ value ∈ encode (get source), decode value = get source)
    (hmissing : encode (get source) = none → put (get source) target = target) :
    (coded name encode decode get put).carry source target = put (get source) target := by
  have hcarry : (coded name encode decode get put).carry source target =
      (encode (get source)).elim target fun value => put (decode value) target := rfl
  cases hencode : encode (get source) with
  | none => rw [hcarry, hencode, Option.elim_none, hmissing hencode]
  | some value => rw [hcarry, hencode, Option.elim_some, hcode value hencode]

end Field

variable {fields : List (Field σ ν β)}

/-- The values of the fields that are set. -/
def values (fields : List (Field σ ν β)) (s : σ) : List (ν × β) :=
  fields.filterMap fun field => (field.get s).map (field.name, ·)

/-- What holds of the value of every field that is set holds of all values. -/
theorem forall_mem_values {P : β → Prop} {s : σ}
    (h : ∀ field ∈ fields, ∀ value ∈ field.get s, P value) :
    ∀ part ∈ values fields s, P part.2 := by
  intro part hpart
  obtain ⟨field, hfield, hget⟩ := List.mem_filterMap.mp hpart
  obtain ⟨value, hvalue, rfl⟩ := Option.map_eq_some_iff.mp hget
  exact h field hfield value hvalue

/-- The first field with the name gets the value. -/
def assign [DecidableEq ν] (fields : List (Field σ ν β)) (target : σ) (part : ν × β) : σ :=
  (fields.find? (·.name = part.1)).elim target (·.set part.2 target)

theorem find?_name [DecidableEq ν] (hnames : (fields.map (·.name)).Nodup) {field : Field σ ν β}
    (hmem : field ∈ fields) : fields.find? (·.name = field.name) = some field := by
  induction fields with
  | nil => cases hmem
  | cons first fields ih =>
    obtain ⟨hfirst, hrest⟩ := List.nodup_cons.mp hnames
    rcases List.mem_cons.mp hmem with rfl | hmem
    · rw [List.find?_cons_of_pos (by simp)]
    · have hne : first.name ≠ field.name := fun heq =>
        hfirst (List.mem_map.mpr ⟨field, hmem, heq.symm⟩)
      rw [List.find?_cons_of_neg (by simpa using hne), ih hrest hmem]

/-- A record that reads what another one has written gets its fields one after the other. -/
theorem foldl_assign_values [DecidableEq ν] (hnames : (fields.map (·.name)).Nodup)
    (source target : σ) :
    (values fields source).foldl (assign fields) target =
      fields.foldl (fun target field => field.carry source target) target := by
  suffices h : ∀ rest : List (Field σ ν β), (∀ field ∈ rest, field ∈ fields) → ∀ target,
      (values rest source).foldl (assign fields) target =
        rest.foldl (fun target field => field.carry source target) target from
    h fields (fun _ => id) target
  intro rest hrest
  induction rest with
  | nil => exact fun _ => rfl
  | cons field rest ih =>
    intro target
    obtain ⟨hfield, hrest⟩ := List.forall_mem_cons.mp hrest
    rw [List.foldl_cons, ← ih hrest, values, List.filterMap_cons, Field.carry]
    cases field.get source with
    | none => rfl
    | some value =>
      rw [Option.map_some, List.foldl_cons, Option.elim_some, assign, find?_name hnames hfield]
      rfl

end NamedFields
