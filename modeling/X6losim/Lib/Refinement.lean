import X6losim.Lib.Machine

/-!
# Refinement

A specification says what may be done from a state and what is seen of it.  A machine refines it
along a view of its states when every step of the machine that is seen is seen in the view as
something the specification does, which may be nothing.
-/

universe u v w x y

/-- A specification over states `α`: where it begins, and the steps that may be taken, each with
what is seen of it. -/
structure Specification (α : Type x) (ω : Type y) where
  init : α → Prop
  step : α → List ω → α → Prop

namespace Specification

variable {α : Type x} {ω : Type y} {S : Specification α ω} {a b c : α} {seen seen' : List ω}

/-- What is seen while a specification goes from one state to another. -/
inductive Does (S : Specification α ω) : α → List ω → α → Prop where
  | nil (a : α) : Does S a [] a
  | snoc {a b c : α} {seen more : List ω} :
      Does S a seen b → S.step b more c → Does S a (seen ++ more) c

/-- A single step. -/
theorem Does.one (h : S.step a seen b) :
  S.Does a seen b
  := by
  rw [← List.nil_append seen]
  apply Does.snoc (.nil a) h

/-- One thing is done after the other. -/
theorem Does.append (h : S.Does a seen b) (h' : S.Does b seen' c) :
  S.Does a (seen ++ seen') c
  := by
  induction h' with
  | nil =>
      rw [List.append_nil]
      apply h
  | snoc _ hstep ih =>
      rw [← List.append_assoc]
      apply ih.snoc hstep

/-- The rule of invariants: what holds at the start, and is kept by every step, of the states and of
what has been seen so far, holds at the end. -/
theorem Does.invariant {P : List ω → α → Prop} (h : S.Does a seen b) (start : P [] a)
    (preserved : ∀ {seen more : List ω} {b c : α}, P seen b → S.step b more c →
      P (seen ++ more) c) :
  P seen b
  := by
  induction h with
  | nil => apply start
  | snoc _ hstep ih => apply preserved ih hstep

end Specification

namespace Machine

variable {σ : Type u} {ι : Type v} {ε : Type w} {α : Type x} {ω : Type y} {M : Machine σ ι ε}

/-- The state after the first entry of a run: the next one that is left, or the last one. -/
def next : List (σ × ι) → σ → σ
  | [], t => t
  | v :: _, _ => v.1

/-- What is seen of a run, when `look` is what is seen of one step. -/
def seen (look : σ → σ → List ω) : List (σ × ι) → σ → List ω
  | [], _ => []
  | v :: visits, t => look v.1 (next visits t) ++ seen look visits t

/-- What is seen of a run that goes on by a step. -/
theorem seen_snoc (look : σ → σ → List ω) (visits : List (σ × ι)) (t u : σ) (i : ι) :
  seen look (visits ++ [(t, i)]) u = seen look visits t ++ look t u
  := by
  induction visits with
  | nil => simp [seen, next]
  | cons v visits ih =>
      have hnext : next (visits ++ [(t, i)]) u = next visits t := by cases visits <;> rfl
      rw [List.cons_append, seen, seen, ih, hnext, List.append_assoc]

/-- The rule of refinement: when every good step from a state that satisfies the invariant keeps it,
and what is seen of the step is done by the specification, then what is seen of a run all of whose
steps are good is done by the specification. -/
theorem Run.refines {S : Specification α ω} {P : σ → Prop} {Good : σ → ι → Prop} {s t : σ}
    {visits : List (σ × ι)} (view : σ → α) (look : σ → σ → List ω) (run : M.Run s visits t)
    (start : P s) (good : ∀ v ∈ visits, Good v.1 v.2)
    (refined : ∀ {x y : σ} {i : ι}, P x → M.enabled x i → Good x i → M.step x i = .ok y →
      P y ∧ S.Does (view x) (look x y) (view y)) :
  P t ∧ S.Does (view s) (seen look visits t) (view t)
  := by
  induction run with
  | nil => exact ⟨start, .nil _⟩
  | @snoc t u i visits run henabled hstep ih =>
      have hlast := good _ (List.mem_append_right _ (List.mem_singleton_self _))
      obtain ⟨hinv, hdone⟩ := ih (fun v hv => good v (List.mem_append_left _ hv))
      obtain ⟨hinv', hmore⟩ := refined hinv henabled hlast hstep
      rw [seen_snoc]
      exact ⟨hinv', hdone.append hmore⟩

end Machine
