import X6losim.Lib.Machine

/-!
# Components of a machine

A machine may hold the state of another one, and its steps may take steps of that one.  The rule
here says when the runs of a machine are, seen from a component of it, runs of the component: every
step has to take a step that the component is enabled for, or to leave it as it is.
-/

universe u v w u' v' w'

namespace Machine

variable {σ : Type u} {ι : Type v} {ε : Type w} {σ' : Type u'} {ι' : Type v'} {ε' : Type w'}
  {M : Machine σ ι ε} {N : Machine σ' ι' ε'}

/-- A component takes a step on an input, or there is no input and it stays as it is. -/
inductive Proceeds (N : Machine σ' ι' ε') : σ' → Option ι' → σ' → Prop where
  | rest (a : σ') : Proceeds N a none a
  | step {a b : σ'} {j : ι'} : N.enabled a j → N.step a j = .ok b → Proceeds N a (some j) b

/-- The entries of a component in those of a run, when `view` is the state of the component and
`input` is what is done to it. -/
def entriesOf (view : σ → σ') (input : σ → ι → Option ι') (visits : List (σ × ι)) :
    List (σ' × ι') :=
  visits.filterMap (fun v => (input v.1 v.2).map (fun j => (view v.1, j)))

/-- What a component takes along on every step it proceeds by holds when it has proceeded. -/
theorem Proceeds.keeps {P : σ' → Prop} {a b : σ'} {o : Option ι'} (h : N.Proceeds a o b) (ha : P a)
    (hstep : ∀ j, o = some j → N.enabled a j → N.step a j = .ok b → P b) :
  P b
  := by
  cases h with
  | rest => apply ha
  | step henabled hb => apply hstep _ rfl henabled hb

/-- The rule of components: when every good step from a state that satisfies the invariant keeps it
and lets the component proceed, a run all of whose steps are good is a run of the component. -/
theorem Run.component {P : σ → Prop} {Good : σ → ι → Prop} {s t : σ} {visits : List (σ × ι)}
    (view : σ → σ') (input : σ → ι → Option ι') (run : M.Run s visits t) (start : P s)
    (good : ∀ v ∈ visits, Good v.1 v.2)
    (proceeds : ∀ {x y : σ} {i : ι}, P x → M.enabled x i → Good x i → M.step x i = .ok y →
      P y ∧ N.Proceeds (view x) (input x i) (view y)) :
  P t ∧ N.Run (view s) (entriesOf view input visits) (view t)
  := by
  induction run with
  | nil => exact ⟨start, .nil _⟩
  | @snoc t u i visits run henabled hstep ih =>
      have hlast := good _ (List.mem_append_right _ (List.mem_singleton_self _))
      obtain ⟨hinv, hrun⟩ := ih (fun v hv => good v (List.mem_append_left _ hv))
      obtain ⟨hinv', hproceeds⟩ := proceeds hinv henabled hlast hstep
      refine ⟨hinv', ?_⟩
      rw [entriesOf, List.filterMap_append, ← entriesOf, ← entriesOf]
      generalize hview : view u = b at hproceeds
      generalize hinput : input t i = o at hproceeds
      cases hproceeds with
      | rest =>
          have hentry : entriesOf view input [(t, i)] = [] := by simp [entriesOf, hinput]
          rw [hentry, List.append_nil]
          apply hrun
      | @step _ j henabled' hstep' =>
          have hentry : entriesOf view input [(t, i)] = [(view t, j)] := by
            simp [entriesOf, hinput]
          rw [hentry]
          apply hrun.snoc henabled' hstep'

end Machine
