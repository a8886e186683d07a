import Mathlib.Data.List.Induction

/-!
# Runs

The states that a system reaches by events, each of which is allowed in the state it happens in.
An invariant needs to hold at the start and to survive the allowed events only, so that a property
which holds under a condition on the single steps is a property of every run whose steps meet it.
-/

namespace Run

variable {σ ε : Type*}

/-- The states on the runs of `step` that start in an `initial` state and take `allowed` events. -/
inductive Reaches (step : σ → ε → σ) (allowed : σ → ε → Prop) (initial : σ → Prop) : σ → Prop where
  | start {s : σ} (h : initial s) : Reaches step allowed initial s
  | next {s : σ} (e : ε) (h : Reaches step allowed initial s) (hallowed : allowed s e) :
      Reaches step allowed initial (step s e)

namespace Reaches

variable {step : σ → ε → σ} {allowed : σ → ε → Prop} {initial : σ → Prop} {s : σ}

/-- What holds at the start and survives every allowed event holds on the whole run. -/
theorem invariant {inv : σ → Prop} (hstart : ∀ s, initial s → inv s)
    (hnext : ∀ s e, inv s → allowed s e → inv (step s e))
    (h : Reaches step allowed initial s) : inv s := by
  induction h with
  | start h => exact hstart _ h
  | next e _ hallowed ih => exact hnext _ e ih hallowed

/-- Where every event is allowed, a run goes on with any events. -/
theorem foldl (hallowed : ∀ s e, allowed s e) (h : Reaches step allowed initial s)
    (events : List ε) : Reaches step allowed initial (events.foldl step s) := by
  induction events generalizing s with
  | nil => exact h
  | cons e events ih => exact ih (.next e h (hallowed s e))

end Reaches

/-- If a property survives just the events that fit, it holds after every part of a run just when
all its events fit. -/
theorem forall_prefix_iff {step : σ → ε → σ} {P : σ → Prop} {fits : σ → ε → Prop}
    (hstep : ∀ s e, P s → (P (step s e) ↔ fits s e)) {s : σ} (hs : P s) (events : List ε) :
    (∀ before, before <+: events → P (before.foldl step s)) ↔
      ∀ before e, before ++ [e] <+: events → fits (before.foldl step s) e := by
  constructor
  · intro h before e hbegins
    have hbefore := h before ((List.prefix_append before [e]).trans hbegins)
    have hafter := h _ hbegins
    rw [List.foldl_append] at hafter
    exact (hstep _ e hbefore).mp hafter
  · intro h before hbegins
    induction before using List.reverseRecOn with
    | nil => exact hs
    | append_singleton before e ih =>
      rw [List.foldl_append]
      apply (hstep _ e (ih ((List.prefix_append before [e]).trans hbegins))).mpr
      exact h before e hbegins

end Run
