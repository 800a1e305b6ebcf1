import X6losim.Invariant.Components
import X6losim.Invariant.Stopping

/-!
# Requests to stop the program

A signal sets the stop flag and writes a byte to the unblock pipe.  The main thread and the threads
of the media read both in their own time, and each of them stops only when it has been told so.
-/

open Bytes

namespace X6losim

variable {host : ByteOrder} {kind : Kind} {s s' : Program}

/-! ### The threads of the media -/

/-- The thread of a medium has been told to stop, or it has stopped. -/
def Sys.Told (x : Sys) : Prop :=
  x.med.state = .stopping ∨ x.pc = .exiting ∨ x.pc = .exited ∨ x.pc = .deleted

/-- The unblock pipe is among the events that a thread still has to process. -/
def Pc.SeesUnblocker : Pc → Prop
  | poll _ evs => ∃ ev ∈ evs, ev.data = .unblocker
  | _ => False

/-- After an event of a node the thread goes on to the next. -/
theorem processPollerEvent_goOn {ev : PollEvent} {env : Env} {goOn : Bool} {m m' : Medium}
    (hne : ev.data ≠ .unblocker) (hok : processPollerEvent host env ev m = .ok goOn m') :
  goOn = true
  := by
  cases hdata : ev.data with
  | unblocker => apply absurd hdata hne
  | node p =>
      by_cases hrdhup : ev.rdhup
      · rw [processPollerEvent_closed hdata hrdhup] at hok
        split at hok
        · cases hok
          rfl
        · cases hok
      · by_cases hinput : ev.input
        · rw [processPollerEvent_input hdata hrdhup hinput] at hok
          split at hok
          · cases hok
            rfl
          · cases hok
        · rw [processPollerEvent, if_neg hrdhup, if_neg hinput] at hok
          cases hok
          rfl
  | null =>
      rw [processPollerEvent, hdata] at hok
      split at hok
      · cases hok
      · split at hok
        · cases hok
        · cases hok
          rfl

/-- What a thread does in the loop over the events when the next event is one of a node. -/
theorem poll_node {x x' : Sys} {env : Env} {ph : Phase} {ev : PollEvent} {evs : List PollEvent}
    (hpc : x.pc = .poll ph (ev :: evs)) (hne : ev.data ≠ .unblocker)
    (hstep : x.step host kind (.run env) = .ok x') :
  x'.pc = .poll ph evs ∧ x'.med.state = x.med.state
  := by
  cases hev : processPollerEvent host env ev x.med with
  | error e m => simp [Sys.step, stepProg, runStep, hpc, hev] at hstep
  | ok goOn m =>
      obtain rfl := processPollerEvent_goOn hne hev
      simp [Sys.step, stepProg, runStep, hpc, hev] at hstep
      rw [← hstep]
      refine ⟨rfl, ?_⟩
      rcases processPollerEvent_ok hev with ⟨-, rfl⟩ | ⟨⟨⟩, -⟩ | ⟨-, p, n, eff, -, -, -, -, rfl⟩
      · rfl
      · apply apply_state x.med eff

/-- Away from its events a thread is not told to stop by what it does. -/
theorem told_of_next {x x' : Sys} {env : Env} (hnext : Next host kind x (.run env) x')
    (hwait : ∀ ph waitms, x.pc ≠ .epollWait ph waitms) (hpoll : ∀ ph evs, x.pc ≠ .poll ph evs)
    (htold : x'.Told ∨ x'.pc.SeesUnblocker) :
  x.Told
  := by
  cases hnext with
  | move hmove =>
      cases hmove with
      | ready ph waitms => apply absurd rfl (hwait ph waitms)
      | waited ph waitms => apply absurd rfl (hwait ph waitms)
      | ignored ph ev evs => apply absurd rfl (hpoll ph (ev :: evs))
      | processed ph => apply absurd rfl (hpoll ph [])
      | idleStopping hstop => exact Or.inl hstop
      | againStopping hstop => exact Or.inl hstop
      | _ => simpa [Sys.Told, Pc.SeesUnblocker] using htold
  | start => simp [Sys.Told, Pc.SeesUnblocker] at htold
  | interval => simpa [Sys.Told, Pc.SeesUnblocker, Medium.record] using htold
  | poll => apply absurd rfl (hpoll _ _)
  | unblocked => apply absurd rfl (hpoll _ _)
  | mark => simp [Sys.Told, Pc.SeesUnblocker] at htold
  | answer => simpa [Sys.Told, Pc.SeesUnblocker, apply_state] using htold
  | collide => simpa [Sys.Told, Pc.SeesUnblocker, apply_state] using htold
  | conclude => simpa [Sys.Told, Pc.SeesUnblocker, apply_state] using htold
  | resetIdle => simp [Sys.Told, Pc.SeesUnblocker] at htold
  | sweep heffs => simpa [Sys.Told, Pc.SeesUnblocker, effects_state heffs] using htold
  | exiting => exact Or.inr (Or.inl rfl)

/-- A thread is told to stop by the main thread or by the unblock pipe. -/
theorem told_of_run {x x' : Sys} {env : Env} (henabled : x.Enabled (.run env))
    (hstep : x.step host kind (.run env) = .ok x') (htold : x'.Told ∨ x'.pc.SeesUnblocker) :
  x.Told ∨ x.pc.SeesUnblocker ∨
    ∃ evs, env.epollWait = .ready evs ∧ ∃ ev ∈ evs, ev.data = .unblocker
  := by
  cases hpc : x.pc with
  | epollWait ph waitms =>
      cases hwait : env.epollWait with
      | failed => simp [Sys.step, stepProg, runStep, hpc, hwait] at hstep
      | interrupted =>
          simp [Sys.step, stepProg, runStep, hpc, hwait] at hstep
          rw [← hstep] at htold
          left; left
          simpa [Sys.Told, Pc.SeesUnblocker] using htold
      | ready evs =>
          have hevs : x'.med = x.med ∧
              ((∃ rv, x'.pc = .timeLeft ph rv) ∨ x'.pc = .poll ph evs) := by
            cases evs with
            | nil =>
                simp [Sys.step, stepProg, runStep, hpc, hwait] at hstep
                rw [← hstep]
                exact ⟨rfl, Or.inl ⟨0, rfl⟩⟩
            | cons ev evs =>
                simp only [Sys.step, stepProg, runStep, hpc, hwait] at hstep
                split at hstep
                · next hlong =>
                    split at hlong <;> cases hlong
                    cases hstep
                    exact ⟨rfl, Or.inr rfl⟩
                · cases hstep
          obtain ⟨hmed, ⟨rv, hleft⟩ | hpoll⟩ := hevs
          · left; left
            simpa [Sys.Told, Pc.SeesUnblocker, hmed, hleft] using htold
          · simp only [Sys.Told, hmed, hpoll, Pc.SeesUnblocker, reduceCtorEq, or_false] at htold
            rcases htold with hstate | hsees
            · left; left
              apply hstate
            · right; right
              exact ⟨evs, rfl, hsees⟩
  | poll ph evs =>
      cases evs with
      | nil =>
          simp [Sys.step, stepProg, runStep, hpc] at hstep
          rw [← hstep] at htold
          left; left
          simpa [Sys.Told, Pc.SeesUnblocker] using htold
      | cons ev evs =>
          by_cases hdata : ev.data = .unblocker
          · right; left
            exact ⟨ev, List.mem_cons_self .., hdata⟩
          · obtain ⟨hpc', hstate⟩ := poll_node hpc hdata hstep
            simp only [Sys.Told, hstate, hpc', Pc.SeesUnblocker, reduceCtorEq, or_false] at htold
            rcases htold with hstop | ⟨ev', hev', hunblock⟩
            · left; left
              apply hstop
            · right; left
              exact ⟨ev', List.mem_cons_of_mem _ hev', hunblock⟩
  | _ =>
      left
      apply told_of_next (next_of_step henabled hstep) _ _ htold
      · simp [hpc]
      · simp [hpc]

/-! ### The program -/

variable {visits : List (Program × ProgramInput)}

/-- In a run a signal has told the simulator to stop. -/
def Signalled (visits : List (Program × ProgramInput)) : Prop :=
  ∃ x signum, (x, .signal signum) ∈ visits ∧ signum ≠ .sighup ∧ x.pc.hasSimulator

/-- In a run `start` has thrown. -/
def Thrown (visits : List (Program × ProgramInput)) : Prop :=
  ∃ x i text, (x, i) ∈ visits ∧ x.pc = .start (.thrown text)

/-- The main thread has left `start`. -/
def ProgramPc.ending : ProgramPc → Bool
  | stopMedium _ => true
  | waitForExit _ => true
  | deleteMedium _ => true
  | deleted constructed => constructed
  | _ => false

/-- In a run a signal has told the simulator to stop, or `start` has thrown. -/
def Caused (visits : List (Program × ProgramInput)) : Prop := Signalled visits ∨ Thrown visits

/-- A thread has been told to stop, or it is about to see the unblock pipe. -/
def Program.Tells (s : Program) (k : Kind) : Prop :=
  (s.sim.medium k).Told ∨ (s.sim.medium k).pc.SeesUnblocker

/-- What has been signalled is in the stop flag, and in the unblock pipe until the main thread has
read it; and nobody has been told to stop without a signal or an exception. -/
structure Accounts (visits : List (Program × ProgramInput)) (s : Program) : Prop where
  early : (s.pc = .construct ∨ ∃ k, s.pc = .startMedium k) →
    s.sim.stop = false ∧ s.unblock + s.stops = 0
  bytes : 0 < s.unblock + s.stops → s.sim.stop
  waiting : s.sim.stop → (s.pc = .start .setup ∨ s.pc = .start .accepting) →
    0 < s.unblock + s.stops
  signalled : s.sim.stop → Signalled visits
  returned : s.pc = .start .returned → s.sim.stop
  ending : s.pc.ending → Caused visits
  told : ∀ k, s.Tells k → Caused visits

theorem Signalled.append (h : Signalled visits) (more : List (Program × ProgramInput)) :
  Signalled (visits ++ more)
  := by
  obtain ⟨x, signum, hx, hsignal⟩ := h
  exact ⟨x, signum, List.mem_append_left _ hx, hsignal⟩

theorem Caused.append (h : Caused visits) (more : List (Program × ProgramInput)) :
  Caused (visits ++ more)
  := by
  rcases h with h | ⟨x, i, text, hx, hthrown⟩
  · left
    apply h.append
  · right
    exact ⟨x, i, text, List.mem_append_left _ hx, hthrown⟩

namespace Accounts

theorem initial :
  Accounts [] Program.new
  where
  early _ := ⟨rfl, rfl⟩
  bytes h := absurd h (lt_irrefl 0)
  waiting h := by cases h
  signalled h := by cases h
  returned h := by cases h
  ending h := by cases h
  told k h := by
    rcases h with h | h
    · rcases h with h | h | h | h <;> cases h
    · cases h

/-- The main thread or the thread of a medium goes on, and leaves the flag and the pipe as they
are. -/
theorem goOn {i : ProgramInput} (h : Accounts visits s) (hstop : s'.sim.stop = s.sim.stop)
    (hunblock : s'.unblock = s.unblock) (hstops : s'.stops = s.stops)
    (htold : ∀ k, s'.Tells k → s.Tells k ∨ Caused visits)
    (hearly : (s'.pc = .construct ∨ ∃ k, s'.pc = .startMedium k) →
      s.pc = .construct ∨ ∃ k, s.pc = .startMedium k)
    (hwaiting : (s'.pc = .start .setup ∨ s'.pc = .start .accepting) →
      s.pc = .startMedium .wireless ∨ s.pc = .start .setup ∨ s.pc = .start .accepting)
    (hreturned : s'.pc = .start .returned → s.pc = .start .returned)
    (hending : s'.pc.ending → s.pc.ending ∨ Caused (visits ++ [(s, i)])) :
  Accounts (visits ++ [(s, i)]) s'
  where
  early hpc := by
    rw [hstop, hunblock, hstops]
    apply h.early (hearly hpc)
  bytes hbytes := by
    rw [hunblock, hstops] at hbytes
    rw [hstop]
    apply h.bytes hbytes
  waiting hset hpc := by
    rw [hstop] at hset
    rw [hunblock, hstops]
    rcases hwaiting hpc with hstart | hpc
    · have hclear := (h.early (Or.inr ⟨_, hstart⟩)).1
      rw [hset] at hclear
      cases hclear
    · apply h.waiting hset hpc
  signalled hset := by
    rw [hstop] at hset
    apply (h.signalled hset).append
  returned hpc := by
    rw [hstop]
    apply h.returned (hreturned hpc)
  ending hpc := by
    rcases hending hpc with hpc | hcaused
    · apply (h.ending hpc).append
    · apply hcaused
  told k hk := by
    rcases htold k hk with hk | hcaused
    · apply (h.told k hk).append
    · apply hcaused.append

/-- The threads of the media are as they have been. -/
theorem tells_same (hmedium : ∀ k, (s'.sim.medium k).pc = (s.sim.medium k).pc ∧
    (s'.sim.medium k).med.state = (s.sim.medium k).med.state) (k : Kind) (h : s'.Tells k) :
  s.Tells k
  := by
  simpa [Program.Tells, Sys.Told, hmedium k] using h

/-- A round of `start` is left with a cause, and as long as it is not, no byte is read. -/
theorem accepting {env : ProgramEnv} {x : Simulation} (h : Accounts visits s)
    (hselects : s.Selects env.start.accept)
    (hstep : Simulation.step host ⟨.accepting, s.sim⟩ (.main env.start) = .ok x) :
  Accounts (visits ++ [(s, .main env)]) { s with
    pc := .start x.main
    sim := x.sim
    unblock := s.unblock - bytesRead env.start.accept .accepting s.sim }
  := by
  have hsteady := startStep_steady hstep
  have hstop := steady_stop hsteady
  constructor
  · simp
  · intro hbytes
    simp only at hbytes ⊢
    rw [hstop]
    apply h.bytes
    omega
  · intro hset hmain
    simp only [hstop] at hset hmain
    rcases accepting_main hstep with ⟨-, hclear⟩ | ⟨hx, -⟩ | ⟨text, hx⟩
    · rw [hset] at hclear
      cases hclear
    · simp [hx] at hmain
    · simp [hx] at hmain
  · intro hset
    simp only [hstop] at hset
    apply (h.signalled hset).append
  · intro hmain
    simp only [ProgramPc.start.injEq] at hmain
    simp only [hstop]
    rcases accepting_main hstep with ⟨hx, -⟩ | ⟨-, hset | ⟨client, t, hunblock⟩⟩ | ⟨text, hx⟩
    · rw [hx] at hmain
      cases hmain
    · apply hset
    · -- The unblock pipe is reported only when there is a byte in it.
      obtain ⟨hcount, hpipe⟩ := acceptConnections_unblock hunblock
      have hbyte := (hselects.pipe hcount).mp hpipe
      apply h.bytes
      omega
    · rw [hx] at hmain
      cases hmain
  · intro hending
    cases hending
  · intro k hk
    apply (h.told k (tells_same (fun k => steady_medium hsteady k) k hk)).append

/-- What a step of the thread of a medium tells it, it has been told before, or it comes from the
unblock pipe. -/
theorem tells_thread {env : Env} {sys : Sys} {j k : Kind} (h : Accounts visits s)
    (henabled : (s.sim.medium j).Enabled (.run env)) (hpolls : s.Polls env)
    (hstep : (s.sim.medium j).step host j (.run env) = .ok sys)
    (htold : Program.Tells { s with sim := s.sim.thread j sys } k) :
  s.Tells k ∨ Caused visits
  := by
  by_cases hk : k = j
  · subst hk
    simp only [Program.Tells, thread_medium_self] at htold
    rcases told_of_run henabled hstep htold with hsys | hsees | ⟨evs, hevs, ev, hev, hunblock⟩
    · left
      apply Or.inl hsys
    · left
      apply Or.inr hsees
    · right; left
      have hbyte := (hpolls evs hevs ev hev hunblock).2
      apply h.signalled (h.bytes (by omega))
  · left
    simpa [Program.Tells, thread_medium_other _ _ hk] using htold

theorem snoc {i : ProgramInput} (h : Accounts visits s)
    (hnext : ProgramNext host s i s') :
  Accounts (visits ++ [(s, i)]) s'
  := by
  cases hnext with
  | construct readPipe hpc =>
      have hclear := (h.early (Or.inl hpc)).2
      constructor
      · intro _
        exact ⟨rfl, hclear⟩
      · intro hbytes
        apply absurd hbytes
        simp only
        omega
      · simp
      · intro hset
        cases hset
      · simp
      · intro hending
        cases hending
      · rintro k (htold | hsees)
        · simp [Sys.Told, NetworkSimulator.new, Medium.new] at htold
        · cases hsees
  | failed hpc =>
      refine h.goOn rfl rfl rfl (fun k hk => Or.inl hk) ?_ ?_ ?_ ?_
      · simp
      · simp
      · simp
      · simp [ProgramPc.ending]
  | startMedium k hpc =>
      refine h.goOn rfl rfl rfl (fun k hk => Or.inl hk) ?_ ?_ ?_ ?_
      · intro _
        exact Or.inr ⟨k, hpc⟩
      · cases k <;> simp [hpc, ProgramPc.after]
      · cases k <;> simp [hpc, ProgramPc.after]
      · cases k <;> simp [hpc, ProgramPc.after, ProgramPc.ending]
  | setup hpc hsetup =>
      have hsteady := startStep_steady hsetup
      refine h.goOn (steady_stop hsteady) rfl rfl ?_ ?_ ?_ ?_ ?_
      · intro k hk
        left
        apply tells_same (fun k => steady_medium hsteady k) k hk
      · simp
      · intro _
        exact Or.inr (Or.inl hpc)
      · intro hmain
        rcases setup_main hsetup with hx | ⟨text, hx⟩
        · simp [hx] at hmain
        · simp [hx] at hmain
      · intro hending
        cases hending
  | accepting hpc hselects _ _ haccepting => apply h.accepting hselects haccepting
  | leave hpc =>
      refine h.goOn rfl rfl rfl (fun k hk => Or.inl hk) ?_ ?_ ?_ ?_
      · simp
      · simp
      · simp
      · intro _
        right
        rcases hpc with hpc | ⟨text, hpc⟩
        · left
          apply (h.signalled (h.returned hpc)).append
        · right
          exact ⟨_, _, text, List.mem_append_right _ (List.mem_singleton_self _), hpc⟩
  | @stopMedium env j sys hpc =>
      have hending : s.pc.ending := by
        rw [hpc]
        rfl
      refine h.goOn rfl rfl rfl ?_ ?_ ?_ ?_ ?_
      · intro k _
        right
        apply h.ending hending
      · cases j <;> simp [hpc, ProgramPc.after]
      · cases j <;> simp [hpc, ProgramPc.after]
      · cases j <;> simp [hpc, ProgramPc.after]
      · intro _
        left
        apply hending
  | joined j hpc =>
      refine h.goOn rfl rfl rfl (fun k hk => Or.inl hk) ?_ ?_ ?_ ?_
      · cases j <;> simp [hpc, ProgramPc.after]
      · cases j <;> simp [hpc, ProgramPc.after]
      · cases j <;> simp [hpc, ProgramPc.after]
      · intro _
        left
        rw [hpc]
        rfl
  | @deleteMedium env j sys hpc =>
      have hending : s.pc.ending := by
        rw [hpc]
        rfl
      refine h.goOn rfl rfl rfl ?_ ?_ ?_ ?_ ?_
      · intro k _
        right
        apply h.ending hending
      · cases j <;> simp [hpc, ProgramPc.after]
      · cases j <;> simp [hpc, ProgramPc.after]
      · cases j <;> simp [hpc, ProgramPc.after]
      · intro _
        left
        apply hending
  | exit constructed hpc =>
      refine h.goOn rfl rfl rfl (fun k hk => Or.inl hk) ?_ ?_ ?_ ?_
      · simp
      · simp
      · simp
      · simp [ProgramPc.ending]
  | thread hpc hstarted hrun hpolls hstep =>
      refine h.goOn rfl rfl rfl ?_ ?_ ?_ ?_ ?_
      · intro k hk
        apply h.tells_thread hrun hpolls hstep hk
      · exact fun hearly => hearly
      · exact fun hwaiting => Or.inr hwaiting
      · exact fun hreturned => hreturned
      · exact fun hending => Or.inl hending
  | ignored =>
      refine h.goOn rfl rfl rfl (fun k hk => Or.inl hk) ?_ ?_ ?_ ?_
      · exact fun hearly => hearly
      · exact fun hwaiting => Or.inr hwaiting
      · exact fun hreturned => hreturned
      · exact fun hending => Or.inl hending
  | @told signum hne hsimulator =>
      have hnow : Signalled (visits ++ [(s, .signal signum)]) :=
        ⟨s, signum, List.mem_append_right _ (List.mem_singleton_self _), hne, hsimulator⟩
      constructor
      · rintro (hpc | ⟨k, hpc⟩)
        · rw [show s.pc = .construct from hpc] at hsimulator
          cases hsimulator
        · rw [show s.pc = .startMedium k from hpc] at hsimulator
          cases hsimulator
      · exact fun _ => rfl
      · intro _ _
        simp only
        omega
      · exact fun _ => hnow
      · exact fun _ => rfl
      · exact fun _ => Or.inl hnow
      · exact fun _ _ => Or.inl hnow
  | @unblocked written hstops hfull =>
      -- The byte of the call is in the pipe, or the pipe was full.
      have hleft : 0 < s.unblock + (if written then 1 else 0) := by
        cases written with
        | true => simp
        | false => simpa using hfull rfl
      have hset : s.sim.stop := h.bytes (by omega)
      constructor
      · intro hpc
        have hclear := (h.early hpc).2
        omega
      · exact fun _ => hset
      · intro _ _
        simp only
        omega
      · exact fun _ => (h.signalled hset).append _
      · exact fun _ => hset
      · exact fun hending => (h.ending hending).append _
      · exact fun k hk => (h.told k hk).append _

end Accounts

/-! ### The steps that are left -/

/-- A step of the main thread. -/
def ProgramInput.isMain : ProgramInput → Bool
  | main _ => true
  | _ => false

/-- The steps that are left to the main thread when the stop flag is set. -/
def ProgramPc.stepsToExit : ProgramPc → Nat
  | construct => 13
  | startMedium .powerline => 12
  | startMedium .wireless => 11
  | start .setup => 10
  | start .accepting => 9
  | start _ => 8
  | stopMedium .powerline => 7
  | stopMedium .wireless => 6
  | waitForExit .powerline => 5
  | waitForExit .wireless => 4
  | deleteMedium .powerline => 3
  | deleteMedium .wireless => 2
  | deleted _ => 1
  | exited => 0

/-- The simulator has been told to stop. -/
def Program.Stopped (s : Program) : Prop := s.pc ≠ .construct ∧ s.sim.stop

/-- With the stop flag set, every step of the main thread brings it nearer to its exit. -/
theorem Program.Stopped.next {i : ProgramInput} (h : s.Stopped) (hnext : ProgramNext host s i s') :
  s'.Stopped ∧ s'.pc.stepsToExit + (if i.isMain then 1 else 0) ≤ s.pc.stepsToExit
  := by
  obtain ⟨hconstruct, hstop⟩ := h
  cases hnext with
  | construct readPipe hpc => apply absurd hpc hconstruct
  | failed hpc =>
      refine ⟨⟨by simp, hstop⟩, ?_⟩
      rcases hpc with hpc | ⟨k, hpc⟩
      · apply absurd hpc hconstruct
      · cases k <;> simp [hpc, ProgramPc.stepsToExit, ProgramInput.isMain]
  | startMedium k hpc =>
      refine ⟨⟨?_, hstop⟩, ?_⟩
      · cases k <;> simp [hpc, ProgramPc.after]
      · cases k <;> simp [hpc, ProgramPc.after, ProgramPc.stepsToExit, ProgramInput.isMain]
  | setup hpc hsetup =>
      refine ⟨⟨by simp, (steady_stop (startStep_steady hsetup)).trans hstop⟩, ?_⟩
      rcases setup_main hsetup with hx | ⟨text, hx⟩
      · simp [hpc, hx, ProgramPc.stepsToExit, ProgramInput.isMain]
      · simp [hpc, hx, ProgramPc.stepsToExit, ProgramInput.isMain]
  | accepting hpc _ _ _ haccepting =>
      refine ⟨⟨by simp, (steady_stop (startStep_steady haccepting)).trans hstop⟩, ?_⟩
      rcases accepting_main haccepting with ⟨-, hclear⟩ | ⟨hx, -⟩ | ⟨text, hx⟩
      · rw [hstop] at hclear
        cases hclear
      · simp [hpc, hx, ProgramPc.stepsToExit, ProgramInput.isMain]
      · simp [hpc, hx, ProgramPc.stepsToExit, ProgramInput.isMain]
  | leave hpc =>
      refine ⟨⟨by simp, hstop⟩, ?_⟩
      rcases hpc with hpc | ⟨text, hpc⟩
      · simp [hpc, ProgramPc.stepsToExit, ProgramInput.isMain]
      · simp [hpc, ProgramPc.stepsToExit, ProgramInput.isMain]
  | @stopMedium env k sys hpc =>
      refine ⟨⟨?_, hstop⟩, ?_⟩
      · cases k <;> simp [hpc, ProgramPc.after]
      · cases k <;> simp [hpc, ProgramPc.after, ProgramPc.stepsToExit, ProgramInput.isMain]
  | joined k hpc =>
      refine ⟨⟨?_, hstop⟩, ?_⟩
      · cases k <;> simp [hpc, ProgramPc.after]
      · cases k <;> simp [hpc, ProgramPc.after, ProgramPc.stepsToExit, ProgramInput.isMain]
  | @deleteMedium env k sys hpc =>
      refine ⟨⟨?_, hstop⟩, ?_⟩
      · cases k <;> simp [hpc, ProgramPc.after]
      · cases k <;> simp [hpc, ProgramPc.after, ProgramPc.stepsToExit, ProgramInput.isMain]
  | exit constructed hpc =>
      refine ⟨⟨by simp, hstop⟩, ?_⟩
      simp [hpc, ProgramPc.stepsToExit, ProgramInput.isMain]
  | thread => exact ⟨⟨hconstruct, hstop⟩, le_refl _⟩
  | ignored => exact ⟨⟨hconstruct, hstop⟩, le_refl _⟩
  | told => exact ⟨⟨hconstruct, rfl⟩, le_refl _⟩
  | unblocked => exact ⟨⟨hconstruct, hstop⟩, le_refl _⟩

theorem ProgramPc.stepsToExit_le {pc : ProgramPc} (h : pc.hasSimulator) :
  pc.stepsToExit ≤ 10
  := by
  cases pc with
  | start pc => cases pc <;> simp [stepsToExit]
  | stopMedium k => cases k <;> simp [stepsToExit]
  | waitForExit k => cases k <;> simp [stepsToExit]
  | deleteMedium k => cases k <;> simp [stepsToExit]
  | _ => cases h

/-! ### Runs -/

theorem accounts_of_run (run : (program host).Run Program.new visits s) :
  Accounts visits s
  := by
  induction run with
  | nil => apply Accounts.initial
  | snoc run henabled hstep ih => apply ih.snoc (programNext_of_step henabled hstep)

/-- In every run of the program, whatever the order of its steps, `start` returns only after a
signal, and a thread of a medium stops only after a signal or an exception in `start`; and no signal
that is handled when there is a simulator is lost: from then on the main thread takes at most ten
steps, and as long as it is in `start`, there is a byte in the unblock pipe, or a call of
`NetworkSimulator::stop` that still has to write it. -/
theorem signals_end_start (run : (program host).Run Program.new visits s) :
  (s.pc = .start .returned → Signalled visits) ∧
    (∀ k, (s.sim.medium k).Told → Signalled visits ∨ Thrown visits) ∧
    ∀ before x signum after, visits = before ++ (x, .signal signum) :: after →
      signum ≠ .sighup → x.pc.hasSimulator →
      after.countP (fun v => v.2.isMain) ≤ 10 ∧
        ((s.pc = .start .setup ∨ s.pc = .start .accepting) → 0 < s.unblock + s.stops)
  := by
  have haccounts := accounts_of_run run
  refine ⟨fun hpc => haccounts.signalled (haccounts.returned hpc),
    fun k hk => haccounts.told k (Or.inl hk), ?_⟩
  rintro before x signum after rfl hne hsimulator
  obtain ⟨-, henabled, y, hstep, hafter⟩ := run.split
  have hconstruct : x.pc ≠ .construct := by
    intro hpc
    rw [hpc] at hsimulator
    cases hsimulator
  have hy : y.Stopped ∧ y.pc = x.pc := by
    have hnext : ProgramNext host x (.signal signum) y := programNext_of_step henabled hstep
    cases hnext with
    | ignored hignored =>
        rcases hignored with hhup | hnone
        · apply absurd hhup hne
        · rw [hsimulator] at hnone
          cases hnone
    | told => exact ⟨⟨hconstruct, rfl⟩, rfl⟩
  obtain ⟨⟨-, hstop⟩, hcount⟩ := hafter.countP_le (P := Program.Stopped) (fun _ _ => True)
    ProgramInput.isMain (fun z => z.pc.stepsToExit) hy.1 (fun _ _ => trivial)
    (fun hz henabled _ hstep => hz.next (programNext_of_step henabled hstep))
  constructor
  · have hle := ProgramPc.stepsToExit_le hsimulator
    rw [hy.2] at hcount
    omega
  · apply haccounts.waiting hstop

/-- A signal comes while the main thread waits for clients, and a byte is to be written. -/
theorem signals_end_start_listening :
  ∃ visits s, (program .little).Run Program.new visits s ∧ Signalled visits ∧
    s.pc = .start .accepting ∧ 0 < s.unblock + s.stops
  := by
  obtain ⟨visits, run, -⟩ := run_programListening .little
  have henabled : (program .little).enabled Program.listening (.signal .sigint) := by
    intro hpc
    cases hpc
  have hrun := run.snoc henabled rfl
  have hend := (signals_end_start hrun).2.2 visits Program.listening .sigint [] rfl (by simp) rfl
  refine ⟨_, _, hrun, ?_, rfl, hend.2 (Or.inr rfl)⟩
  exact ⟨_, .sigint, List.mem_append_right _ (List.mem_singleton_self _), by simp, rfl⟩

end X6losim
