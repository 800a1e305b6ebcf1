import X6losim.Lib.Machine

/-!
# Machines against a clock

A machine is run against a clock when every step of it is taken at some instant, and no step before
the one before it.  What the environment may offer can depend on the clock, and `note` says what is
noted down about the instants of the steps.
-/

universe u v w

/-- A state, the instant it has been reached at, and what has been noted down. -/
structure Clocked (σ : Type u) (β : Type v) where
  state : σ
  now : Int
  notes : β

namespace Machine

variable {σ ι : Type u} {ε : Type v} {β : Type w} {M : Machine σ ι ε}
  {answers : Clocked σ β → ι → Int → Prop} {start : β} {note : σ → ι → σ → Int → β → β}

/-- A machine against a clock. -/
def clocked (M : Machine σ ι ε) (answers : Clocked σ β → ι → Int → Prop) (start : β)
    (note : σ → ι → σ → Int → β → β) : Machine (Clocked σ β) (ι × Int) ε where
  init c := M.init c.state ∧ c.notes = start
  enabled c i := c.now ≤ i.2 ∧ M.enabled c.state i.1 ∧ answers c i.1 i.2
  step c i := (M.step c.state i.1).map (fun s => ⟨s, i.2, note c.state i.1 s i.2 c.notes⟩)

/-- A step against a clock is a step of the machine. -/
theorem clocked_step {c c' : Clocked σ β} {i : ι × Int}
    (hstep : (M.clocked answers start note).step c i = .ok c') :
  M.step c.state i.1 = .ok c'.state ∧ c'.now = i.2 ∧
    c'.notes = note c.state i.1 c'.state i.2 c.notes
  := by
  change (M.step c.state i.1).map _ = .ok c' at hstep
  cases hs : M.step c.state i.1 with
  | error e =>
      rw [hs] at hstep
      cases hstep
  | ok s =>
      rw [hs] at hstep
      cases hstep
      exact ⟨rfl, rfl, rfl⟩

/-- What is reached against a clock is reached without one. -/
theorem Reachable.forget {c : Clocked σ β} (h : (M.clocked answers start note).Reachable c) :
  M.Reachable c.state
  := by
  apply h.invariant (P := fun c => M.Reachable c.state)
  · intro c hinit
    apply Reachable.initial hinit.1
  · intro c c' i hc henabled hstep
    apply hc.step henabled.2.1 (clocked_step hstep).1

/-- A step of the machine taken at an instant. -/
theorem Reachable.at {c : Clocked σ β} {i : ι} {now : Int} {s : σ}
    (h : (M.clocked answers start note).Reachable c) (hnow : c.now ≤ now)
    (henabled : M.enabled c.state i) (hanswers : answers c i now)
    (hstep : M.step c.state i = .ok s) :
  (M.clocked answers start note).Reachable ⟨s, now, note c.state i s now c.notes⟩
  := by
  refine h.step (i := (i, now)) ⟨hnow, henabled, hanswers⟩ ?_
  change (M.step c.state i).map _ = _
  rw [hstep]
  rfl

end Machine
