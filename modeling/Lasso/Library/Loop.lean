import Mathlib.Data.Option.Basic

/-!
# Loops that may not end

A loop is given by what one turn does: it goes on with another state or leaves with a result. `run`
takes a number of turns at most, and a loop ends with a result if some number is enough. It does not
end from a state in which every turn leaves an invariant true and goes on.
-/

namespace Loop

variable {σ ρ : Type*}

/-- The result of a loop that leaves within `turns` turns. -/
def run (turn : σ → σ ⊕ ρ) : Nat → σ → Option ρ
  | 0, _ => none
  | turns + 1, s =>
    match turn s with
    | .inl next => run turn turns next
    | .inr result => some result

/-- The loop leaves with this result. -/
def Ends (turn : σ → σ ⊕ ρ) (s : σ) (result : ρ) : Prop := ∃ turns, run turn turns s = some result

variable {turn : σ → σ ⊕ ρ} {s next : σ} {result other : ρ}

theorem run_succ_of_next (h : turn s = .inl next) (turns : Nat) :
    run turn (turns + 1) s = run turn turns next := by simp [run, h]

theorem run_succ_of_leaves (h : turn s = .inr result) (turns : Nat) :
    run turn (turns + 1) s = some result := by simp [run, h]

/-- A loop that goes on ends as it does from the next state. -/
theorem ends_of_next (h : turn s = .inl next) : Ends turn s result ↔ Ends turn next result := by
  constructor
  · rintro ⟨_ | turns, hrun⟩
    · cases hrun
    · exact ⟨turns, run_succ_of_next h turns ▸ hrun⟩
  · rintro ⟨turns, hrun⟩
    exact ⟨turns + 1, (run_succ_of_next h turns).trans hrun⟩

theorem ends_of_leaves (h : turn s = .inr result) : Ends turn s other ↔ other = result := by
  constructor
  · rintro ⟨_ | turns, hrun⟩
    · cases hrun
    · rw [run_succ_of_leaves h] at hrun
      exact (Option.some.inj hrun).symm
  · rintro rfl
    exact ⟨1, run_succ_of_leaves h 0⟩

/-- A loop whose turns keep an invariant and go on does not end. -/
theorem not_ends_of_invariant {inv : σ → Prop}
    (hturn : ∀ s, inv s → ∃ next, turn s = .inl next ∧ inv next) (hs : inv s) :
    ¬ Ends turn s result := by
  rintro ⟨turns, hrun⟩
  induction turns generalizing s with
  | zero => cases hrun
  | succ turns ih =>
    obtain ⟨next, hnext, hinv⟩ := hturn s hs
    exact ih hinv (run_succ_of_next hnext turns ▸ hrun)

/-- A loop does not end from a state that its turn leaves as it is. -/
theorem not_ends_of_fixed (h : turn s = .inl s) : ¬ Ends turn s result := by
  have hturn : ∀ t, t = s → ∃ next, turn t = .inl next ∧ next = s := by
    rintro _ rfl
    exact ⟨_, h, rfl⟩
  exact not_ends_of_invariant hturn rfl

end Loop
