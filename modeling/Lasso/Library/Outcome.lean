import Mathlib.Data.List.Basic

/-!
# Computations that may not come back

A computation in `Except ε` either returns a value or ends in a fault of type `ε`, after which
nothing runs any more. `Returns` says that there is no fault, and the lemmas say when a sequence of
computations returns.
-/

namespace Outcome

universe u v

variable {α β : Type u} {ε : Type v}

/-- The computation comes back. -/
def Returns (x : Except ε α) : Prop := ∃ a, x = .ok a

@[simp] theorem returns_ok (a : α) : Returns (.ok a : Except ε α) := ⟨a, rfl⟩

@[simp] theorem returns_pure (a : α) : Returns (pure a : Except ε α) := ⟨a, rfl⟩

@[simp] theorem not_returns_error (e : ε) : ¬ Returns (.error e : Except ε α) := by
  rintro ⟨a, h⟩
  cases h

theorem ok_bind (a : α) (f : α → Except ε β) : (.ok a : Except ε α) >>= f = f a := rfl

theorem error_bind (e : ε) (f : α → Except ε β) : (.error e : Except ε α) >>= f = .error e := rfl

theorem bind_eq_ok {x : Except ε α} {f : α → Except ε β} {b : β} :
    x >>= f = .ok b ↔ ∃ a, x = .ok a ∧ f a = .ok b := by
  rcases x with e | a <;> simp [bind, Except.bind]

/-- A sequence returns if its first part does and the second does on the first one's value. -/
theorem returns_bind {x : Except ε α} {f : α → Except ε β} :
    Returns (x >>= f) ↔ ∃ a, x = .ok a ∧ Returns (f a) := by
  simp only [Returns, bind_eq_ok]
  constructor
  · rintro ⟨b, a, hx, hf⟩
    exact ⟨a, hx, b, hf⟩
  · rintro ⟨a, hx, b, hf⟩
    exact ⟨b, a, hx, hf⟩

/-- When the second part returns on some value if it does on any, the parts can be judged apart. -/
theorem returns_bind_of_const {x : Except ε α} {f : α → Except ε β} {P : Prop}
    (hf : ∀ a, Returns (f a) ↔ P) : Returns (x >>= f) ↔ Returns x ∧ P := by
  rw [returns_bind]
  simp only [hf, exists_and_right]
  exact Iff.rfl

@[simp] theorem returns_map {x : Except ε α} {f : α → β} : Returns (f <$> x) ↔ Returns x := by
  rcases x with e | a <;> simp [Functor.map, Except.map]

/-- Run `f` on every item and join the lists it gives. -/
def gather (f : α → Except ε (List β)) : List α → Except ε (List β)
  | [] => .ok []
  | a :: as => do
    let bs ← f a
    let rest ← gather f as
    return bs ++ rest

theorem returns_gather {f : α → Except ε (List β)} {as : List α} :
    Returns (gather f as) ↔ ∀ a ∈ as, Returns (f a) := by
  induction as with
  | nil => simp [gather]
  | cons a as ih =>
    have hrest : ∀ bs : List β,
        Returns (gather f as >>= fun rest => pure (bs ++ rest)) ↔ Returns (gather f as) := by
      intro bs
      rw [returns_bind_of_const (P := True) fun _ => by simp, and_true]
    rw [gather, returns_bind_of_const hrest, ih, List.forall_mem_cons]

/-- What is gathered comes from the items, and all of it does. -/
theorem mem_gather {f : α → Except ε (List β)} {as : List α} {bs : List β}
    (h : gather f as = .ok bs) {b : β} :
    b ∈ bs ↔ ∃ a ∈ as, ∃ part, f a = .ok part ∧ b ∈ part := by
  induction as generalizing bs with
  | nil =>
    obtain rfl : bs = [] := (Except.ok.inj h).symm
    simp
  | cons a as ih =>
    rw [gather] at h
    obtain ⟨part, hpart, h⟩ := bind_eq_ok.mp h
    obtain ⟨rest, hrest, h⟩ := bind_eq_ok.mp h
    obtain rfl : part ++ rest = bs := Except.ok.inj h
    simp [hpart, ih hrest]

/-- What is selected from the items gathered comes from the parts one after the other. -/
theorem filterMap_gather {γ : Type*} {f : α → Except ε (List β)} {g : β → Option γ}
    {h : α → List γ} {as : List α} {bs : List β} (hgather : gather f as = .ok bs)
    (hpart : ∀ a ∈ as, ∀ part, f a = .ok part → part.filterMap g = h a) :
    bs.filterMap g = as.flatMap h := by
  induction as generalizing bs with
  | nil =>
    obtain rfl : bs = [] := (Except.ok.inj hgather).symm
    rfl
  | cons a as ih =>
    obtain ⟨part, ha, hgather⟩ := bind_eq_ok.mp hgather
    obtain ⟨rest, hrest, hgather⟩ := bind_eq_ok.mp hgather
    obtain rfl : part ++ rest = bs := Except.ok.inj hgather
    obtain ⟨hhead, htail⟩ := List.forall_mem_cons.mp hpart
    rw [List.filterMap_append, List.flatMap_cons, hhead part ha, ih hrest htail]

theorem gather_map {γ : Type u} (f : α → Except ε (List β)) (g : γ → α) (cs : List γ) :
    gather f (cs.map g) = gather (fun c => f (g c)) cs := by
  induction cs with
  | nil => rfl
  | cons c cs ih => rw [List.map_cons, gather, ih]; rfl

theorem gather_eq_flatMap {f : α → Except ε (List β)} {g : α → List β} {as : List α}
    (h : ∀ a ∈ as, f a = .ok (g a)) : gather f as = .ok (as.flatMap g) := by
  induction as with
  | nil => rfl
  | cons a as ih =>
    obtain ⟨hhead, htail⟩ := List.forall_mem_cons.mp h
    rw [gather, hhead, ih htail]
    rfl

end Outcome
