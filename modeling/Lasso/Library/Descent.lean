import Mathlib.Logic.Relation

/-!
# Tasks that hand on tasks

A task that is done well just if it meets a condition of its own and all the tasks it hands on are
done well is done well just if the condition holds of every task reached from it. The tasks must get
smaller on the way.
-/

namespace Descent

variable {α : Type*} {handsOn : α → α → Prop} {good own : α → Prop}

/-- What is handed on from a good task is good, however often. -/
theorem good_of_reached (hstep : ∀ a, good a ↔ own a ∧ ∀ b, handsOn a b → good b) {a b : α}
    (ha : good a) (h : Relation.ReflTransGen handsOn a b) : good b := by
  induction h with
  | refl => exact ha
  | tail _ hnext ih => exact ((hstep _).mp ih).2 _ hnext

theorem good_iff_forall_reached (hwf : WellFounded (flip handsOn))
    (hstep : ∀ a, good a ↔ own a ∧ ∀ b, handsOn a b → good b) (a : α) :
    good a ↔ ∀ b, Relation.ReflTransGen handsOn a b → own b := by
  constructor
  · intro ha b h
    exact ((hstep b).mp (good_of_reached hstep ha h)).1
  · intro hown
    induction a using hwf.induction with
    | h a ih =>
      refine (hstep a).mpr ⟨hown a .refl, fun b hb => ih b hb fun c hc => hown c (.head hb hc)⟩

end Descent
