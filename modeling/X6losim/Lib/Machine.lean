import Mathlib.Tactic.Common
import Mathlib.Data.List.Infix
import Mathlib.Data.List.Count

/-!
# Machines and their runs

A machine over states `σ` and inputs `ι` takes, on an input it is enabled for, a step that
either reaches a next state or halts with a report in `ε`.  A run remembers every state it
visits together with the input taken there, so a statement about every step of a run, and
one about every state of it, is a statement about the entries of one list.
-/

universe u v w

/-- A machine: its initial states, the inputs its environment may offer in a state, and the
step an input causes, which halts the machine with a report when it fails. -/
structure Machine (σ : Type u) (ι : Type v) (ε : Type w) where
  init : σ → Prop
  enabled : σ → ι → Prop
  step : σ → ι → Except ε σ

namespace Machine

variable {σ : Type u} {ι : Type v} {ε : Type w} {M : Machine σ ι ε}

/-- `M.Run s visits t`: from `s` the machine steps to `t`, and `visits` lists the states it
leaves on the way, each with the input it takes there, in order. -/
inductive Run (M : Machine σ ι ε) : σ → List (σ × ι) → σ → Prop where
  | nil (s : σ) : Run M s [] s
  | snoc {s t u : σ} {i : ι} {visits : List (σ × ι)} :
      Run M s visits t → M.enabled t i → M.step t i = .ok u → Run M s (visits ++ [(t, i)]) u

/-- The machine halts in `s` on an input it is enabled for. -/
def Halts (M : Machine σ ι ε) (s : σ) (i : ι) (e : ε) : Prop :=
  M.enabled s i ∧ M.step s i = .error e

/-- What holds in the start state and is preserved by every step whose entry satisfies
`Good` holds at the end of a run all of whose entries satisfy `Good`. -/
theorem Run.invariant {P : σ → Prop} {Good : σ → ι → Prop} {s t : σ} {visits : List (σ × ι)}
    (run : M.Run s visits t) (start : P s) (good : ∀ v ∈ visits, Good v.1 v.2)
    (preserved : ∀ {x y : σ} {i : ι},
      P x → M.enabled x i → Good x i → M.step x i = .ok y → P y) :
  P t
  := by
  induction run with
  | nil => apply start
  | snoc run henabled hstep ih =>
      have hlast := good _ (List.mem_append_right _ (List.mem_singleton_self _))
      have hbefore := ih (fun v hv => good v (List.mem_append_left _ hv))
      apply preserved hbefore henabled hlast hstep

/-- What holds in the start state and is preserved by every step holds at the end of a run. -/
theorem Run.always {P : σ → Prop} {s t : σ} {visits : List (σ × ι)} (run : M.Run s visits t)
    (start : P s)
    (preserved : ∀ {x y : σ} {i : ι}, P x → M.enabled x i → M.step x i = .ok y → P y) :
  P t
  := by
  induction run with
  | nil => apply start
  | snoc _ henabled hstep ih => apply preserved ih henabled hstep

/-- Every state a run leaves is the end of a run whose entries are a prefix of its own. -/
theorem Run.visited {s t x : σ} {i : ι} {visits : List (σ × ι)}
    (run : M.Run s visits t) (hx : (x, i) ∈ visits) :
  ∃ before, M.Run s before x ∧ before ++ [(x, i)] <+: visits ∧ M.enabled x i
  := by
  induction run with
  | nil => cases hx
  | snoc run henabled hstep ih =>
      rcases List.mem_append.mp hx with hx | hx
      · obtain ⟨before, hrun, hprefix, hen⟩ := ih hx
        use before, hrun, hprefix.trans (List.prefix_append _ _), hen
      · obtain ⟨rfl, rfl⟩ := Prod.mk.inj (List.mem_singleton.mp hx)
        refine ⟨_, run, List.prefix_rfl, henabled⟩

/-- Every entry of a run has a successor, which is visited next or is the state the run ends
in. -/
theorem Run.successor {s t x : σ} {i : ι} {visits : List (σ × ι)}
    (run : M.Run s visits t) (hx : (x, i) ∈ visits) :
  ∃ y, M.step x i = .ok y ∧ ((∃ j, (y, j) ∈ visits) ∨ y = t)
  := by
  induction run with
  | nil => cases hx
  | snoc run henabled hlast ih =>
      rcases List.mem_append.mp hx with hx | hx
      · obtain ⟨y, hstep, ⟨j, hj⟩ | rfl⟩ := ih hx
        · refine ⟨y, hstep, Or.inl ⟨j, ?_⟩⟩
          apply List.mem_append_left _ hj
        · exact ⟨_, hstep, Or.inl ⟨_, List.mem_append_right _ (List.mem_singleton_self _)⟩⟩
      · obtain ⟨rfl, rfl⟩ := Prod.mk.inj (List.mem_singleton.mp hx)
        exact ⟨_, hlast, Or.inr rfl⟩

/-- A run can be taken apart at any of its entries. -/
theorem Run.split {s t x : σ} {i : ι} {before after : List (σ × ι)}
    (run : M.Run s (before ++ (x, i) :: after) t) :
  M.Run s before x ∧ M.enabled x i ∧ ∃ y, M.step x i = .ok y ∧ M.Run y after t
  := by
  induction after using List.reverseRecOn generalizing t with
  | nil =>
      generalize hvisits : before ++ [(x, i)] = visits at run
      cases run with
      | nil => simp at hvisits
      | snoc run henabled hstep =>
          obtain ⟨rfl, hlast⟩ := List.append_inj' hvisits rfl
          obtain ⟨rfl, rfl⟩ := Prod.mk.inj (List.cons.inj hlast).1
          exact ⟨run, henabled, t, hstep, .nil t⟩
  | append_singleton after v ih =>
      generalize hvisits : before ++ (x, i) :: (after ++ [v]) = visits at run
      rw [← List.cons_append, ← List.append_assoc] at hvisits
      cases run with
      | nil => simp at hvisits
      | snoc run henabled hstep =>
          obtain ⟨rfl, hlast⟩ := List.append_inj' hvisits rfl
          obtain ⟨hbefore, hfirst, y, hy, hafter⟩ := ih run
          rw [(List.cons.inj hlast).1]
          exact ⟨hbefore, hfirst, y, hy, hafter.snoc henabled hstep⟩

/-- The state a run starts in is the first it leaves, or the one it ends in. -/
theorem Run.first {s t : σ} {visits : List (σ × ι)} (run : M.Run s visits t) :
  s = t ∨ ∃ i, (s, i) ∈ visits
  := by
  induction run with
  | nil =>
      left
      rfl
  | @snoc t u i visits run _ _ ih =>
      right
      rcases ih with rfl | ⟨j, hj⟩
      · exact ⟨i, List.mem_append_right _ (List.mem_singleton_self _)⟩
      · exact ⟨j, List.mem_append_left _ hj⟩

/-- The rule of a rank: when every good step that counts lowers the rank, and no other good step
raises it, a run has no more entries that count than the rank allows. -/
theorem Run.countP_le {P : σ → Prop} (Good : σ → ι → Prop) (counts : ι → Bool) (rank : σ → Nat)
    {s t : σ} {visits : List (σ × ι)} (run : M.Run s visits t) (start : P s)
    (good : ∀ v ∈ visits, Good v.1 v.2)
    (lowers : ∀ {x y : σ} {i : ι}, P x → M.enabled x i → Good x i → M.step x i = .ok y →
      P y ∧ rank y + (if counts i then 1 else 0) ≤ rank x) :
  P t ∧ visits.countP (fun v => counts v.2) + rank t ≤ rank s
  := by
  induction run with
  | nil => simp [start]
  | @snoc t u i visits run henabled hstep ih =>
      have hlast := good _ (List.mem_append_right _ (List.mem_singleton_self _))
      obtain ⟨ht, hcount⟩ := ih (fun v hv => good v (List.mem_append_left _ hv))
      obtain ⟨hu, hrank⟩ := lowers ht henabled hlast hstep
      have hsingle : [(t, i)].countP (fun v => counts v.2) = if counts i then 1 else 0 :=
        List.countP_singleton ..
      refine ⟨hu, ?_⟩
      rw [List.countP_append, hsingle]
      omega

/-- The states reached from an initial state by a run all of whose entries satisfy `Good`. -/
def Reaches (M : Machine σ ι ε) (Good : σ → ι → Prop) (t : σ) : Prop :=
  ∃ s visits, M.init s ∧ M.Run s visits t ∧ ∀ v ∈ visits, Good v.1 v.2

/-- The invariant rule: what holds initially and is preserved by the good steps holds in
every state reached by good steps. -/
theorem Reaches.invariant {P : σ → Prop} {Good : σ → ι → Prop} {t : σ}
    (reached : M.Reaches Good t) (start : ∀ {s : σ}, M.init s → P s)
    (preserved : ∀ {x y : σ} {i : ι},
      P x → M.enabled x i → Good x i → M.step x i = .ok y → P y) :
  P t
  := by
  obtain ⟨s, visits, hinit, run, good⟩ := reached
  apply run.invariant (start hinit) good preserved

/-- A good step from a reached state reaches its successor. -/
theorem Reaches.step {Good : σ → ι → Prop} {t u : σ} {i : ι}
    (reached : M.Reaches Good t) (henabled : M.enabled t i) (good : Good t i)
    (hstep : M.step t i = .ok u) :
  M.Reaches Good u
  := by
  obtain ⟨s, visits, hinit, run, hgood⟩ := reached
  use s, visits ++ [(t, i)], hinit, run.snoc henabled hstep
  intro v hv
  rcases List.mem_append.mp hv with hv | hv
  · apply hgood v hv
  · obtain rfl := List.mem_singleton.mp hv
    apply good

theorem Reaches.mono {Good Good' : σ → ι → Prop} {t : σ} (reached : M.Reaches Good t)
    (h : ∀ s i, Good s i → Good' s i) :
  M.Reaches Good' t
  := by
  obtain ⟨s, visits, hinit, run, hgood⟩ := reached
  use s, visits, hinit, run
  intro v hv
  apply h _ _ (hgood v hv)

/-- The states reached from an initial state by any run. -/
def Reachable (M : Machine σ ι ε) (t : σ) : Prop := M.Reaches (fun _ _ => True) t

theorem Reachable.initial {s : σ} (hinit : M.init s) :
  M.Reachable s
  := by
  refine ⟨s, [], hinit, .nil s, ?_⟩
  intro v hv
  cases hv

theorem Reachable.step {t u : σ} {i : ι} (reached : M.Reachable t) (henabled : M.enabled t i)
    (hstep : M.step t i = .ok u) :
  M.Reachable u
  := Reaches.step reached henabled trivial hstep

/-- What holds initially and is preserved by every step holds in every reachable state. -/
theorem Reachable.invariant {P : σ → Prop} {t : σ} (reached : M.Reachable t)
    (start : ∀ {s : σ}, M.init s → P s)
    (preserved : ∀ {x y : σ} {i : ι}, P x → M.enabled x i → M.step x i = .ok y → P y) :
  P t
  := by
  obtain ⟨s, visits, hinit, run, -⟩ := reached
  apply run.always (start hinit) preserved

end Machine
