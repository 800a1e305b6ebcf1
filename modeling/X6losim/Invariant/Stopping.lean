import X6losim.Invariant.StateVariable

/-!
# Requests to stop

The main thread stops a medium by an assignment of the state variable, which its thread tests and
assigns as well, without any exclusion.  A request is heeded when the variable keeps it until the
thread exits, and the thread exits after as many steps as its rounds allow.  All requests of a run
are heeded exactly when none comes where the thread is going to assign the variable without another
test.
-/

open Bytes

namespace X6losim

variable {host : ByteOrder} {kind : Kind} {m m' : Medium}

/-- A step of the thread. -/
def Input.isRun : Input → Bool
  | run _ => true
  | _ => false

/-- The thread assigns the state variable another state than the requested one. -/
inductive Overwrites : Sys → Input → Prop where
  | start {m : Medium} {env : Env} : m.state = .stopping → Overwrites ⟨.start, m⟩ (.run env)
  | mark {m : Medium} {env : Env} : m.state = .stopping → m.txList ≠ [] →
      Overwrites ⟨.mark, m⟩ (.run env)
  | resetIdle {m : Medium} {env : Env} : m.state = .stopping →
      Overwrites ⟨.resetIdle, m⟩ (.run env)

/-- The thread is going to assign the state variable without another test: it has not begun, it is
between the test after an idle interval and the assignment for its transmissions, or between the
test after its inner loop and the assignment there. -/
def Sys.InWindow (s : Sys) : Prop :=
  s.pc = .start ∨ s.pc = .mark ∧ s.med.txList ≠ [] ∨ s.pc = .resetIdle

/-- In a run the main thread asks the thread to stop where it is going to assign the state variable,
and the thread goes on. -/
def StopInWindow (visits : List (Sys × Input)) : Prop :=
  ∃ before x after, visits = before ++ (x, .stop) :: after ∧ x.InWindow ∧
    ∃ v ∈ after, v.2.isRun

/-- The request is there, or the thread has exited. -/
def Sys.Stopping (s : Sys) : Prop := s.med.state = .stopping ∨ s.pc = .exited ∨ s.pc = .deleted

/-- The steps the thread may still take at a place: those to the end of the round it is in, with
its loops over events, requests and transmissions, and out of it. -/
def Pc.stepsToExit (m : Medium) : Pc → Nat
  | start => 0
  | outer => 73
  | interval _ => 71
  | epollWait _ _ => 70
  | poll _ evs => evs.length + 5
  | timeLeft _ _ => 5
  | polled _ => 4
  | mark => m.ccaList.length + m.txList.length + 76
  | processCcaList _ => m.ccaList.length + m.txList.length + 75
  | inner => 72
  | txCollisionCheck => m.txList.length + 74
  | processTxList i => m.txList.length - i + 73
  | left => 3
  | resetIdle => 0
  | checkNodeRegistrationTimeout => 3
  | again => 2
  | exiting => 1
  | exited => 0
  | deleted => 0

/-- All requests made in a run are heeded: after each of them the state variable holds it until
the thread has exited, and the thread takes no more steps than it needs for that. -/
def StopHeeded (visits : List (Sys × Input)) (s : Sys) : Prop :=
  ∀ before x after, visits = before ++ (x, .stop) :: after →
    (∀ y, (y = s ∨ ∃ i, (y, i) ∈ after) → y.Stopping) ∧
      after.countP (fun v => v.2.isRun) ≤ x.med.ccaList.length + x.med.txList.length + 76

/-! ### A request that is kept -/

/-- `epoll_wait` has not returned more events than asked for, and nothing but events or its time
being up has been returned by it. -/
def Pc.Returned : Pc → Prop
  | poll _ evs => evs.length ≤ epollMaxEvents
  | timeLeft _ rv => rv ≤ 0
  | _ => True

theorem Pc.Returned.next {s s' : Sys} {i : Input} (h : s.pc.Returned)
    (hnext : Next host kind s i s') :
  s'.pc.Returned
  := by
  cases hnext with
  | move hmove =>
      cases hmove with
      | waited ph waitms rv hrv => apply hrv
      | ready ph waitms evs hreport => apply hreport.length_le
      | ignored ph ev evs => exact le_trans (Nat.le_succ _) h
      | _ => trivial
  | poll => exact le_trans (Nat.le_succ _) h
  | add => apply h
  | stop => apply h
  | _ => trivial

theorem returned_reachable {s : Sys} (h : (medium host kind).Reachable s) :
  s.pc.Returned
  := by
  apply h.invariant (P := fun s => s.pc.Returned)
  · rintro s rfl
    trivial
  · intro s s' i hs henabled hstep
    apply hs.next (next_of_step henabled hstep)

theorem Pc.stepsToExit_le {pc : Pc} (h : pc.Returned) (m : Medium) :
  pc.stepsToExit m ≤ m.ccaList.length + m.txList.length + 76
  := by
  cases pc with
  | poll ph evs =>
      have hmax : evs.length ≤ 64 := h
      simp only [stepsToExit]
      omega
  | _ =>
      simp only [stepsToExit]
      omega

/-- A move of the thread while there is a request brings it nearer to its exit. -/
theorem Move.stepsToExit {env : Env} {pc pc' : Pc} (hmove : Move kind env m pc pc')
    (hstop : m.state = .stopping) (hreturned : pc.Returned) :
  pc'.stepsToExit m + 1 ≤ pc.stepsToExit m
  := by
  cases hmove with
  | outerIdle hidle =>
      rw [hstop] at hidle
      cases hidle
  | ready ph waitms evs hreport =>
      have hmax : evs.length ≤ 64 := hreport.length_le
      simp only [Pc.stepsToExit]
      omega
  | waitAgain ph rv waitms hrv => apply absurd hrv (not_lt_of_ge hreturned)
  | idlePolled hrunning => apply absurd hstop hrunning
  | txPolled hrunning => apply absurd hstop hrunning
  | leftRunning hrunning => apply absurd hstop hrunning
  | againRunning hrunning => apply absurd hstop hrunning
  | waiting i p n hentry hlive =>
      have hi : i < m.txList.length := (List.getElem?_eq_some_iff.mp hentry).1
      simp only [Pc.stepsToExit]
      omega
  | _ =>
      simp only [Pc.stepsToExit, List.length_cons]
      omega

/-- No effect of a sequence changes the state variable. -/
theorem effects_state {effs : List Effect} (heffs : Effects m effs m') :
  m'.state = m.state
  := by
  have hall : ∀ eff ∈ effs, True := fun _ _ => trivial
  apply heffs.invariant (P := fun m' => m'.state = m.state) rfl hall
  intro m₁ eff hstate _ _
  rw [apply_state, hstate]

/-- A step that does not overwrite a request keeps it, and brings the thread nearer to its exit if
it is one of its own. -/
theorem Sys.Stopping.next {s s' : Sys} {i : Input} (h : s.Stopping) (hreturned : s.pc.Returned)
    (hkept : ¬ Overwrites s i) (hnext : Next host kind s i s') :
  s'.Stopping ∧ s'.pc.stepsToExit s'.med + (if i.isRun then 1 else 0) ≤ s.pc.stepsToExit s.med
  := by
  have hstop : s.pc ≠ .exited → s.pc ≠ .deleted → s.med.state = .stopping := by
    intro hexited hdeleted
    rcases h with h | h | h
    · apply h
    · apply absurd h hexited
    · apply absurd h hdeleted
  cases hnext with
  | @move m env pc pc' hmove =>
      have hstate : m.state = .stopping := by
        apply hstop
        · rintro rfl
          cases hmove
        · rintro rfl
          cases hmove
      exact ⟨Or.inl hstate, hmove.stepsToExit hstate hreturned⟩
  | start m env curTime => apply absurd (Overwrites.start (hstop (by simp) (by simp))) hkept
  | interval m env ph =>
      have hstate : m.state = .stopping := hstop (by simp) (by simp)
      exact ⟨Or.inl hstate, by simp [Pc.stepsToExit, Input.isRun]⟩
  | @poll m env ph ev evs p n eff hdata hlive heff hguard =>
      refine ⟨Or.inl ?_, by simp [Pc.stepsToExit, Input.isRun]⟩
      apply (apply_state m eff).trans (hstop (by simp) (by simp))
  | unblocked => exact ⟨Or.inl rfl, by simp [Pc.stepsToExit, Input.isRun]⟩
  | mark hne => apply absurd (Overwrites.mark (hstop (by simp) (by simp)) hne) hkept
  | @answer m env ph p rest hguard =>
      have hstate : m.state = .stopping := hstop (by simp) (by simp)
      refine ⟨Or.inl hstate, ?_⟩
      simp only [Pc.stepsToExit, Effect.apply, hguard.1, List.length_cons, Input.isRun, if_true]
      omega
  | @collide m env hkind hguard =>
      have hstate : m.state = .stopping := hstop (by simp) (by simp)
      exact ⟨Or.inl hstate, by simp [Pc.stepsToExit, Effect.apply, Input.isRun]⟩
  | @conclude m env i p n pkt buf hguard =>
      have hstate : m.state = .stopping := hstop (by simp) (by simp)
      have hi : i < m.txList.length := (List.getElem?_eq_some_iff.mp hguard.1).1
      refine ⟨Or.inl hstate, ?_⟩
      simp only [Pc.stepsToExit, Effect.apply, List.length_eraseIdx, if_pos hi, Input.isRun,
        if_true]
      omega
  | resetIdle m env => apply absurd (Overwrites.resetIdle (hstop (by simp) (by simp))) hkept
  | sweep heffs hexpiry =>
      refine ⟨Or.inl ?_, by simp [Pc.stepsToExit, Input.isRun]⟩
      apply (effects_state heffs).trans (hstop (by simp) (by simp))
  | exiting m env => exact ⟨Or.inr (Or.inl rfl), by simp [Pc.stepsToExit, Input.isRun]⟩
  | @add m env pc p socket hfresh =>
      refine ⟨h, ?_⟩
      cases pc <;> exact le_refl _
  | stop m pc =>
      refine ⟨Or.inl rfl, ?_⟩
      cases pc <;> exact le_refl _
  | delete => exact ⟨Or.inr (Or.inr rfl), by simp [Pc.stepsToExit, Input.isRun]⟩

/-! ### A request that is overwritten -/

theorem Overwrites.landed {s : Sys} {i : Input} (h : Overwrites s i) :
  s.med.state = .stopping ∧ s.InWindow
  := by
  cases h with
  | start hstop => exact ⟨hstop, Or.inl rfl⟩
  | mark hstop hne => exact ⟨hstop, Or.inr (Or.inl ⟨rfl, hne⟩)⟩
  | resetIdle hstop => exact ⟨hstop, Or.inr (Or.inr rfl)⟩

theorem Sys.InWindow.overwrites {s : Sys} {i : Input} (h : s.InWindow)
    (hstop : s.med.state = .stopping) (hrun : i.isRun) :
  Overwrites s i
  := by
  obtain ⟨pc, m⟩ := s
  cases i with
  | run env =>
      rcases h with rfl | ⟨rfl, hne⟩ | rfl
      · apply Overwrites.start hstop
      · apply Overwrites.mark hstop hne
      · apply Overwrites.resetIdle hstop
  | _ => cases hrun

/-- What the main thread does while the thread of a medium takes no step changes neither its place
nor its transmissions. -/
theorem Sys.InWindow.next {s s' : Sys} {i : Input} (h : s.InWindow) (hmain : ¬ i.isRun)
    (hnext : Next host kind s i s') :
  s'.InWindow ∧ (s.med.state = .stopping → s'.med.state = .stopping)
  := by
  cases hnext with
  | add => exact ⟨h, id⟩
  | stop => exact ⟨h, fun _ => rfl⟩
  | delete => simp [InWindow] at h
  | _ => simp [Input.isRun] at hmain

/-- The thread comes to where it is going to assign the state variable only when it has found no
request. -/
theorem Sys.InWindow.not_stopping {s s' : Sys} {env : Env} (h : s'.InWindow)
    (hnext : Next host kind s (.run env) s') :
  s'.med.state ≠ .stopping
  := by
  cases hnext with
  | move hmove =>
      cases hmove with
      | idlePolled hrunning => apply hrunning
      | leftRunning hrunning => apply hrunning
      | _ => simp [InWindow] at h
  | _ => simp [InWindow] at h

/-- Where the thread is going to assign the state variable while it holds a request, the request has
come there. -/
theorem stop_landed {visits : List (Sys × Input)} {s : Sys}
    (run : (medium host kind).Run ⟨.start, Medium.new⟩ visits s) (hstop : s.med.state = .stopping)
    (hwindow : s.InWindow) :
  ∃ before x after, visits = before ++ (x, .stop) :: after ∧ x.InWindow
  := by
  induction run with
  | nil => cases hstop
  | @snoc s s' i visits run henabled hstep ih =>
      have hearlier : s.med.state = .stopping → s.InWindow →
          ∃ before x after, visits ++ [(s, i)] = before ++ (x, .stop) :: after ∧ x.InWindow := by
        intro hstop hwindow
        obtain ⟨before, x, after, rfl, hx⟩ := ih hstop hwindow
        exact ⟨before, x, after ++ [(s, i)], by simp, hx⟩
      have hnext := next_of_step henabled hstep
      cases i with
      | run env => apply absurd hstop (hwindow.not_stopping hnext)
      | addNode env p socket =>
          cases hnext with
          | add => exact hearlier hstop hwindow
      | stop =>
          cases hnext with
          | stop => exact ⟨visits, _, [], rfl, hwindow⟩
      | deleteMedium env =>
          cases hnext with
          | delete => simp [Sys.InWindow] at hwindow

/-- What has been overwritten is not there any more. -/
theorem Overwrites.not_stopping {s s' : Sys} {i : Input} (h : Overwrites s i)
    (hnext : Next host kind s i s') :
  ¬ s'.Stopping
  := by
  have hgone : ∀ {pc : Pc} {m : Medium}, m.state ≠ .stopping → pc ≠ .exited → pc ≠ .deleted →
      ¬ Sys.Stopping ⟨pc, m⟩ := by
    rintro pc m hstate hexited hdeleted (h | h | h)
    · apply hstate h
    · apply hexited h
    · apply hdeleted h
  cases h with
  | start =>
      cases hnext with
      | move hmove => cases hmove
      | start => exact hgone (by simp) (by simp) (by simp)
  | mark _ hne =>
      cases hnext with
      | move hmove =>
          cases hmove with
          | noMark hnil => apply absurd hnil hne
      | mark => exact hgone (by simp) (by simp) (by simp)
  | resetIdle =>
      cases hnext with
      | move hmove => cases hmove
      | resetIdle => exact hgone (by simp) (by simp) (by simp)

/-! ### Runs -/

/-- As long as the request is not overwritten it is there, and the steps of the thread are
bounded. -/
theorem Sys.Stopping.run {visits : List (Sys × Input)} {s s' : Sys} (h : s.Stopping)
    (hreturned : s.pc.Returned) (run : (medium host kind).Run s visits s')
    (hkept : ∀ v ∈ visits, ¬ Overwrites v.1 v.2) :
  (s'.Stopping ∧ s'.pc.Returned) ∧
    visits.countP (fun v => v.2.isRun) + s'.pc.stepsToExit s'.med ≤ s.pc.stepsToExit s.med
  := by
  apply run.countP_le (P := fun s => s.Stopping ∧ s.pc.Returned)
    (fun s i => ¬ Overwrites s i) Input.isRun (fun s => s.pc.stepsToExit s.med)
    ⟨h, hreturned⟩ hkept
  intro x y i ⟨hx, hreturned⟩ henabled hgood hstep
  have hnext := next_of_step henabled hstep
  obtain ⟨hy, hle⟩ := hx.next hreturned hgood hnext
  exact ⟨⟨hy, hreturned.next hnext⟩, hle⟩

/-- All requests of a run are heeded exactly when the thread overwrites none. -/
theorem stopHeeded_iff_not_overwrites {visits : List (Sys × Input)} {s : Sys}
    (run : (medium host kind).Run ⟨.start, Medium.new⟩ visits s) :
  StopHeeded visits s ↔ ∀ v ∈ visits, ¬ Overwrites v.1 v.2
  := by
  constructor
  · rintro hheeded ⟨x, i⟩ hv hoverwrites
    obtain ⟨before, hbefore, ⟨after, hvisits⟩, -⟩ := run.visited hv
    obtain ⟨hstop, hwindow⟩ := hoverwrites.landed
    obtain ⟨before', z, between, rfl, -⟩ := stop_landed hbefore hstop hwindow
    have hsplit : visits = before' ++ (z, .stop) :: (between ++ (x, i) :: after) := by
      rw [← hvisits]
      simp
    have hkept := (hheeded _ _ _ hsplit).1
    have hrun : (medium host kind).Run ⟨.start, Medium.new⟩
        ((before' ++ (z, .stop) :: between) ++ (x, i) :: after) s := by
      rw [List.append_cons, hvisits]
      apply run
    obtain ⟨-, henabled, y, hstep, hafter⟩ := hrun.split
    apply hoverwrites.not_stopping (next_of_step henabled hstep)
    apply hkept
    rcases hafter.first with rfl | ⟨j, hj⟩
    · left
      rfl
    · right
      exact ⟨j, List.mem_append_right _ (List.mem_cons_of_mem _ hj)⟩
  · rintro hnone before x after rfl
    obtain ⟨hbefore, henabled, y, hstep, hafter⟩ := run.split
    have hgood : ∀ v ∈ after, ¬ Overwrites v.1 v.2 := by
      intro v hv
      apply hnone v (List.mem_append_right _ (List.mem_cons_of_mem _ hv))
    have hx : (medium host kind).Reachable x := ⟨_, before, rfl, hbefore, fun _ _ => trivial⟩
    have hy : y.Stopping ∧ y.pc.Returned := by
      have hreturned := returned_reachable (hx.step henabled hstep)
      cases hstep
      exact ⟨Or.inl rfl, hreturned⟩
    have hlists : y.pc.stepsToExit y.med ≤ x.med.ccaList.length + x.med.txList.length + 76 := by
      have hle := Pc.stepsToExit_le hy.2 y.med
      cases hstep
      apply hle
    constructor
    · rintro z (rfl | ⟨i, hz⟩)
      · apply (hy.1.run hy.2 hafter hgood).1.1
      · obtain ⟨between, hrun, hsub, -⟩ := hafter.visited hz
        apply (hy.1.run hy.2 hrun _).1.1
        intro v hv
        apply hgood v (hsub.subset (List.mem_append_left _ hv))
    · have hcount := (hy.1.run hy.2 hafter hgood).2
      omega

/-- A request that has come where the thread is going to assign the state variable is there until
the thread goes on, and overwritten then. -/
theorem Sys.InWindow.run {s t : Sys} {visits : List (Sys × Input)} (h : s.InWindow)
    (hstop : s.med.state = .stopping) (run : (medium host kind).Run s visits t) :
  (t.InWindow ∧ t.med.state = .stopping ∧ ∀ v ∈ visits, ¬ v.2.isRun) ∨
    ∃ v ∈ visits, Overwrites v.1 v.2
  := by
  induction run with
  | nil => exact Or.inl ⟨h, hstop, by simp⟩
  | @snoc t u i visits run henabled hstep ih =>
      rcases ih with ⟨ht, hstate, hnone⟩ | ⟨v, hv, hoverwrites⟩
      · by_cases hrun : i.isRun
        · right
          exact ⟨(t, i), List.mem_append_right _ (List.mem_singleton_self _),
            ht.overwrites hstate hrun⟩
        · left
          obtain ⟨hu, hkept⟩ := ht.next hrun (next_of_step henabled hstep)
          refine ⟨hu, hkept hstate, ?_⟩
          intro v hv
          rcases List.mem_append.mp hv with hv | hv
          · apply hnone v hv
          · obtain rfl := List.mem_singleton.mp hv
            apply hrun
      · right
        exact ⟨v, List.mem_append_left _ hv, hoverwrites⟩

/-- All requests to stop made in a run are heeded exactly when none of them comes before the thread
has begun, between the test after an idle interval and the assignment for its transmissions, or
between the test after the inner loop and the assignment there, and the thread goes on. -/
theorem stop_heeded_iff {visits : List (Sys × Input)} {s : Sys}
    (run : (medium host kind).Run ⟨.start, Medium.new⟩ visits s) :
  StopHeeded visits s ↔ ¬ StopInWindow visits
  := by
  rw [stopHeeded_iff_not_overwrites run]
  constructor
  · rintro hnone ⟨before, x, after, rfl, hx, v, hv, hrun⟩
    obtain ⟨-, henabled, y, hstep, hafter⟩ := run.split
    have hy : y.InWindow ∧ y.med.state = .stopping := by
      cases hstep
      exact ⟨hx, rfl⟩
    rcases hy.1.run hy.2 hafter with ⟨-, -, hnever⟩ | ⟨v', hv', hoverwrites⟩
    · apply hnever v hv hrun
    · apply hnone v' _ hoverwrites
      exact List.mem_append_right _ (List.mem_cons_of_mem _ hv')
  · rintro hnone ⟨x, i⟩ hv hoverwrites
    apply hnone
    obtain ⟨before, hbefore, ⟨after, hvisits⟩, -⟩ := run.visited hv
    obtain ⟨hstop, hwindow⟩ := hoverwrites.landed
    obtain ⟨before', z, between, rfl, hz⟩ := stop_landed hbefore hstop hwindow
    refine ⟨before', z, between ++ (x, i) :: after, ?_, hz, (x, i), ?_, ?_⟩
    · rw [← hvisits]
      simp
    · simp
    · cases hoverwrites <;> rfl

/-- The medium is stopped before its thread has begun, and the thread begins. -/
theorem run_stop_start (host : ByteOrder) (kind : Kind) :
  (medium host kind).Run ⟨.start, Medium.new⟩
    [(⟨.start, Medium.new⟩, .stop), (⟨.start, { Medium.new with state := .stopping }⟩, .run .calm)]
    ⟨.outer, { Medium.new with state := .idle }⟩
  := by
  have hstop : (medium host kind).Run ⟨.start, Medium.new⟩ [(⟨.start, Medium.new⟩, .stop)]
      ⟨.start, { Medium.new with state := .stopping }⟩ :=
    Machine.Run.nil _ |>.snoc (by simp [medium, Sys.Enabled]) rfl
  exact hstop.snoc trivial rfl

/-- The request is lost. -/
theorem stop_before_start :
  ∃ visits s, (medium .little .powerline).Run ⟨.start, Medium.new⟩ visits s ∧
    ¬ StopHeeded visits s
  := by
  refine ⟨_, _, run_stop_start .little .powerline, ?_⟩
  intro hheeded
  rcases (hheeded [] _ _ rfl).1 _ (Or.inl rfl) with h | h | h
  all_goals cases h

/-- The medium is stopped when its thread has begun, and the thread exits. -/
theorem run_stop_outer (host : ByteOrder) (kind : Kind) :
  ∃ visits s, (medium host kind).Run ⟨.start, Medium.new⟩ visits s ∧
    (∃ x, (x, .stop) ∈ visits) ∧ s.pc = .exited ∧ ¬ StopInWindow visits
  := by
  have hbegun : (medium host kind).Run ⟨.start, Medium.new⟩ [(⟨.start, Medium.new⟩, .run .calm)]
      ⟨.outer, { Medium.new with state := .idle, curTime := ⟨0, 0⟩ }⟩ :=
    Machine.Run.nil _ |>.snoc trivial rfl
  have hstop := hbegun.snoc (i := .stop) (by simp [medium, Sys.Enabled]) rfl
  have hinner := hstop.snoc (i := .run .calm) (by trivial) rfl
  have hleft := hinner.snoc (i := .run .calm) (by trivial) rfl
  have hagain := hleft.snoc (i := .run .calm) (by trivial) rfl
  have hexiting := hagain.snoc (i := .run .calm) (by trivial) rfl
  have hexited := hexiting.snoc (i := .run .calm) (by trivial) rfl
  refine ⟨_, _, hexited, ⟨⟨.outer, { Medium.new with state := .idle, curTime := ⟨0, 0⟩ }⟩, ?_⟩,
    rfl, ?_⟩
  · simp
  · rintro ⟨before, x, after, hvisits, hwindow, -⟩
    have hx : (x, Input.stop) ∈ before ++ (x, .stop) :: after := by simp
    rw [← hvisits] at hx
    simp at hx
    rw [hx] at hwindow
    simp [Sys.InWindow] at hwindow

/-- In the first run the request comes before the thread has begun, and is lost; in the second it
comes afterwards, and is heeded. -/
theorem stop_heeded_outer :
  (∃ visits s, (medium .little .powerline).Run ⟨.start, Medium.new⟩ visits s ∧
    StopInWindow visits ∧ ¬ StopHeeded visits s) ∧
  ∃ visits s, (medium .little .powerline).Run ⟨.start, Medium.new⟩ visits s ∧
    (∃ x, (x, .stop) ∈ visits) ∧ s.pc = .exited ∧ StopHeeded visits s
  := by
  constructor
  · have run := run_stop_start .little .powerline
    have hwindow : StopInWindow
        [(⟨.start, Medium.new⟩, .stop),
          (⟨.start, { Medium.new with state := .stopping }⟩, .run .calm)] :=
      ⟨[], _, _, rfl, Or.inl rfl, _, List.mem_singleton_self _, rfl⟩
    exact ⟨_, _, run, hwindow, fun hheeded => (stop_heeded_iff run).mp hheeded hwindow⟩
  · obtain ⟨visits, s, run, hstop, hexited, hwindow⟩ := run_stop_outer .little .powerline
    exact ⟨visits, s, run, hstop, hexited, (stop_heeded_iff run).mpr hwindow⟩

end X6losim
