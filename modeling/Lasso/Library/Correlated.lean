import Mathlib.Data.List.Basic

/-!
# Correlated exchanges

Every message of an exchange has an identifier, and a message may refer to another one that it
answers. If no identifier is used twice and every sender answers what was sent, the reference alone
tells which message is answered, on any network that loses, repeats and reorders messages.

## Main definitions

* `Correlated.Message` — a message, and what it answers.
* `Correlated.Consistent` — what was sent so far, the newest first.

## Main results

* `Correlated.Consistent.answers_iff` — a message answers another one if it refers to it.
-/

namespace Correlated

/-- A message with the identifier `id`. What it answers is given by the identifier and the body that
its sender has in hand. -/
structure Message (ι β : Type*) where
  id : ι
  body : β
  answers : Option (ι × β)

variable {ι β : Type*}

namespace Message

/-- The identifier that `m` refers to. -/
def refTo (m : Message ι β) : Option ι := m.answers.map Prod.fst

/-- `m` was made for `k`. -/
def Answers (m k : Message ι β) : Prop := m.answers = some (k.id, k.body)

@[simp] theorem Answers.refTo {m k : Message ι β} (h : m.Answers k) : m.refTo = some k.id := by
  rw [Message.refTo, h, Option.map_some]

end Message

/-- No identifier is used twice, and what is answered was sent before. -/
inductive Consistent : List (Message ι β) → Prop
  | nil : Consistent []
  | cons {sent : List (Message ι β)} {m : Message ι β} (h : Consistent sent)
      (fresh : ∀ k ∈ sent, k.id ≠ m.id)
      (known : ∀ asked ∈ m.answers, ∃ k ∈ sent, asked = (k.id, k.body)) : Consistent (m :: sent)

namespace Consistent

variable {sent : List (Message ι β)} {m k : Message ι β}

/-- A message is determined by its identifier. -/
theorem eq_of_id (h : Consistent sent) (hm : m ∈ sent) (hk : k ∈ sent) (hid : m.id = k.id) :
    m = k := by
  induction h with
  | nil => exact absurd hm List.not_mem_nil
  | cons _ fresh _ ih =>
    rcases List.mem_cons.mp hm with rfl | hm'
    · rcases List.mem_cons.mp hk with rfl | hk'
      · rfl
      · exact absurd hid.symm (fresh k hk')
    · rcases List.mem_cons.mp hk with rfl | hk'
      · exact absurd hid (fresh m hm')
      · exact ih hm' hk'

/-- What a message answers was sent. -/
theorem exists_answered (h : Consistent sent) (hm : m ∈ sent) {asked : ι × β}
    (hasked : m.answers = some asked) : ∃ k ∈ sent, asked = (k.id, k.body) := by
  induction h with
  | nil => exact absurd hm List.not_mem_nil
  | cons _ _ known ih =>
    rcases List.mem_cons.mp hm with rfl | hm
    · obtain ⟨k, hk, heq⟩ := known asked hasked
      exact ⟨k, List.mem_cons_of_mem _ hk, heq⟩
    · obtain ⟨k, hk, heq⟩ := ih hm
      exact ⟨k, List.mem_cons_of_mem _ hk, heq⟩

/-- The reference of a message is enough to know what it was made for. -/
theorem answers_iff (h : Consistent sent) (hm : m ∈ sent) (hk : k ∈ sent) :
    m.Answers k ↔ m.refTo = some k.id := by
  refine ⟨Message.Answers.refTo, fun href => ?_⟩
  obtain ⟨asked, hasked, hid⟩ := Option.map_eq_some_iff.mp href
  obtain ⟨k', hk', rfl⟩ := h.exists_answered hm hasked
  rw [Message.Answers, hasked, h.eq_of_id hk' hk hid]

end Consistent

end Correlated
