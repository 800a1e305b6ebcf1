import X6losim.Lib.Exec

/-!
# Frames of programs

A program over `EStateM ε σ` keeps an observation of its state when it leaves it as it was, whether
it returns or stops.  A program keeps what all its parts keep.
-/

namespace Exec

variable {ε σ α β γ : Type} {f : σ → γ}

/-- A program keeps what is observed of its state. -/
structure Keeps (f : σ → γ) (x : EStateM ε σ α) : Prop where
  ok : ∀ {s t : σ} {a : α}, x s = .ok a t → f t = f s
  error : ∀ {s t : σ} {e : ε}, x s = .error e t → f t = f s

namespace Keeps

protected theorem pure (a : α) :
  Keeps f (pure a : EStateM ε σ α)
  where
  ok h := by
    cases h
    rfl
  error h := by cases h

protected theorem throw (e : ε) :
  Keeps f (throw e : EStateM ε σ α)
  where
  ok h := by cases h
  error h := by
    cases h
    rfl

protected theorem get :
  Keeps f (get : EStateM ε σ σ)
  where
  ok h := by
    cases h
    rfl
  error h := by cases h

protected theorem modify {g : σ → σ} (h : ∀ s, f (g s) = f s) :
  Keeps f (modify g : EStateM ε σ PUnit)
  where
  ok hok := by
    cases hok
    apply h
  error herror := by cases herror

/-- A sequence keeps what its programs keep. -/
protected theorem bind {x : EStateM ε σ α} {y : α → EStateM ε σ β} (hx : Keeps f x)
    (hy : ∀ a, Keeps f (y a)) :
  Keeps f (x >>= y)
  where
  ok h := by
    obtain ⟨a, u, hfirst, hsecond⟩ := bind_eq_ok.mp h
    rw [(hy a).ok hsecond, hx.ok hfirst]
  error h := by
    rcases bind_eq_error.mp h with hfirst | ⟨a, u, hfirst, hsecond⟩
    · apply hx.error hfirst
    · rw [(hy a).error hsecond, hx.ok hfirst]

protected theorem ite {p : Prop} [Decidable p] {x y : EStateM ε σ α} (hx : Keeps f x)
    (hy : Keeps f y) :
  Keeps f (if p then x else y)
  := by
  split
  · apply hx
  · apply hy

/-- A program that throws in one case and goes on in the other keeps what it keeps then. -/
protected theorem guard {p : Prop} [Decidable p] {e : ε} {y : α → EStateM ε σ β}
    {x : EStateM ε σ β} (hx : Keeps f x) :
  Keeps f (if p then throw e >>= y else x)
  := by
  apply Keeps.ite _ hx
  constructor
  · intro s t a h
    cases h
  · intro s t e' h
    cases h
    rfl

end Keeps
end Exec
