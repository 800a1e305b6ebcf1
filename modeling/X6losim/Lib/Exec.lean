import Mathlib.Tactic.Common

/-!
# Programs that keep their state when they fail

A program over `EStateM ε σ` either returns a value or stops with a report, and in both
cases leaves a state.  The lemmas here compute such a program applied to a state, and take
apart the result of a sequence of two.
-/

namespace Exec

variable {ε σ α β : Type}

@[simp]
theorem bind_apply (x : EStateM ε σ α) (f : α → EStateM ε σ β) (s : σ) :
  (x >>= f) s = match x s with
    | .ok a t => f a t
    | .error e t => .error e t
  := rfl

@[simp]
theorem pure_apply (a : α) (s : σ) :
  (pure a : EStateM ε σ α) s = .ok a s
  := rfl

@[simp]
theorem get_apply (s : σ) :
  (get : EStateM ε σ σ) s = .ok s s
  := rfl

@[simp]
theorem modify_apply (f : σ → σ) (s : σ) :
  (modify f : EStateM ε σ PUnit) s = .ok ⟨⟩ (f s)
  := rfl

@[simp]
theorem throw_apply (e : ε) (s : σ) :
  (throw e : EStateM ε σ α) s = .error e s
  := rfl

@[simp]
theorem map_apply (f : α → β) (x : EStateM ε σ α) (s : σ) :
  (f <$> x) s = match x s with
    | .ok a t => .ok (f a) t
    | .error e t => .error e t
  := rfl

@[simp]
theorem ite_apply (p : Prop) [Decidable p] (x y : EStateM ε σ α) (s : σ) :
  (if p then x else y) s = if p then x s else y s
  := by
  split <;> rfl

/-- A sequence of two programs returns exactly when both return, the second from the state
the first leaves. -/
theorem bind_eq_ok {x : EStateM ε σ α} {f : α → EStateM ε σ β} {s t : σ} {b : β} :
  (x >>= f) s = .ok b t ↔ ∃ a u, x s = .ok a u ∧ f a u = .ok b t
  := by
  rw [bind_apply]
  cases h : x s with
  | ok a u =>
      constructor
      · intro hf
        use a, u
      · rintro ⟨_, _, ⟨⟩, hf⟩
        apply hf
  | error e u => simp

/-- A sequence of two programs stops exactly when the first stops, or it returns and the
second stops. -/
theorem bind_eq_error {x : EStateM ε σ α} {f : α → EStateM ε σ β} {s t : σ} {e : ε} :
  (x >>= f) s = .error e t ↔
    x s = .error e t ∨ ∃ a u, x s = .ok a u ∧ f a u = .error e t
  := by
  rw [bind_apply]
  cases h : x s with
  | ok a u =>
      constructor
      · intro hf
        right
        use a, u
      · rintro (⟨⟨⟩⟩ | ⟨_, _, ⟨⟩, hf⟩)
        apply hf
  | error e u => simp

/-- A result that does not depend on the state, as a program. -/
def ofExcept (x : Except ε α) : EStateM ε σ α :=
  match x with
  | .ok a => pure a
  | .error e => throw e

@[simp]
theorem ofExcept_ok (a : α) (s : σ) :
  (ofExcept (.ok a) : EStateM ε σ α) s = .ok a s
  := rfl

@[simp]
theorem ofExcept_error (e : ε) (s : σ) :
  (ofExcept (.error e) : EStateM ε σ α) s = .error e s
  := rfl

end Exec
