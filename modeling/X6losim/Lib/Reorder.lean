import Mathlib.Data.List.Perm.Basic
import Mathlib.Tactic.Common

/-!
# Work in any order

A list of items is worked on one after the other, by steps that may be undetermined and need not be
possible.  When two items that follow each other can be exchanged, up to a relation that the other
steps keep, all the items can be worked on in any order.
-/

namespace Reorder

universe u v

variable {σ : Type u} {ε : Type v}

/-- The items of a list are worked on, one after the other. -/
inductive Run (step : σ → ε → σ → Prop) : σ → List ε → σ → Prop where
  | nil (s : σ) : Run step s [] s
  | cons {s t u : σ} {e : ε} {l : List ε} : step s e t → Run step t l u → Run step s (e :: l) u

/-- Two items that follow each other can be exchanged.  `Ok l s` says that `l` can be left to do in
`s`, and `Same l s s'` that `s` and `s'` are the same as far as it matters, also for doing `l`. -/
structure Commutes (step : σ → ε → σ → Prop) (Ok : List ε → σ → Prop)
    (Same : List ε → σ → σ → Prop) : Prop where
  refl (l : List ε) (s : σ) : Same l s s
  trans {l : List ε} {s t u : σ} : Same l s t → Same l t u → Same l s u
  ok_perm {l l' : List ε} {s : σ} : l.Perm l' → Ok l s → Ok l' s
  same_perm {l l' : List ε} {s t : σ} : l.Perm l' → Same l s t → Same l' s t
  ok_step {e : ε} {l : List ε} {s t : σ} : Ok (e :: l) s → step s e t → Ok l t
  same_step {e : ε} {l : List ε} {s s' t : σ} : Ok (e :: l) s → Same (e :: l) s s' →
    step s e t → ∃ t', step s' e t' ∧ Same l t t'
  swap {a b : ε} {l : List ε} {s t u : σ} : Ok (a :: b :: l) s → step s a t → step t b u →
    ∃ t' u', step s b t' ∧ step t' a u' ∧ Same l u u'

namespace Commutes

variable {step : σ → ε → σ → Prop} {Ok : List ε → σ → Prop} {Same : List ε → σ → σ → Prop}
  {l l' : List ε} {s s' t : σ}

/-- The same work does the same to states that are the same. -/
theorem run_same (h : Commutes step Ok Same) (hok : Ok l s) (hsame : Same l s s')
    (hrun : Run step s l t) :
  ∃ t', Run step s' l t' ∧ Same [] t t'
  := by
  induction hrun generalizing s' with
  | nil => exact ⟨s', .nil s', hsame⟩
  | cons hstep _ ih =>
      obtain ⟨t', hstep', hsame'⟩ := h.same_step hok hsame hstep
      obtain ⟨u', hrun', hend⟩ := ih (h.ok_step hok hstep) hsame'
      exact ⟨u', .cons hstep' hrun', hend⟩

/-- The work can be done in any order. -/
theorem run_perm (h : Commutes step Ok Same) (hperm : l.Perm l') (hok : Ok l s)
    (hsame : Same l s s') (hrun : Run step s l t) :
  ∃ t', Run step s' l' t' ∧ Same [] t t'
  := by
  induction hperm generalizing s s' t with
  | nil => apply h.run_same hok hsame hrun
  | cons e _ ih =>
      cases hrun with
      | cons hstep hrun =>
          obtain ⟨u', hstep', hsame'⟩ := h.same_step hok hsame hstep
          obtain ⟨t', hrun', hend⟩ := ih (h.ok_step hok hstep) hsame' hrun
          exact ⟨t', .cons hstep' hrun', hend⟩
  | swap a b l =>
      cases hrun with
      | cons hstep hrun =>
          cases hrun with
          | cons hstep' hrun =>
              obtain ⟨t₁, u₁, ha, hb, hswapped⟩ := h.swap hok hstep hstep'
              have hrest := h.ok_step (h.ok_step hok hstep) hstep'
              obtain ⟨t₂, hrun₂, hend₂⟩ := h.run_same hrest hswapped hrun
              -- The exchanged run starts in the same state; its like starts in the other.
              have hok' := h.ok_perm (.swap a b l) hok
              obtain ⟨t₃, hrun₃, hend₃⟩ := h.run_same hok' (h.same_perm (.swap a b l) hsame)
                (.cons ha (.cons hb hrun₂))
              exact ⟨t₃, hrun₃, h.trans hend₂ hend₃⟩
  | trans hperm _ ih ih' =>
      obtain ⟨t₁, hrun₁, hend₁⟩ := ih hok (h.refl _ s) hrun
      obtain ⟨t₂, hrun₂, hend₂⟩ := ih' (h.ok_perm hperm hok) (h.same_perm hperm hsame) hrun₁
      exact ⟨t₂, hrun₂, h.trans hend₁ hend₂⟩

end Commutes

end Reorder
