import X6losim.Invariant.Components

/-!
# The rounds of `start`

`NetworkSimulator::start` counts the rounds in which `acceptConnections` fails, and gives up at the
sixth in a row.  Apart from that it throws only when a server socket is not set up, or when the node
of a client is not added.
-/

open Bytes

namespace X6losim

variable {host : ByteOrder} {startEnv : StartEnv} {s s' : Program}
  {visits : List (Program × ProgramInput)}

/-! ### What the rounds return -/

/-- What `acceptConnections` returns in a step of the program. -/
def Program.status (s : Program) : ProgramInput → Option AcceptStatus
  | .main env =>
      match s.pc, acceptConnections env.start.accept s.sim with
      | .start .accepting, .ok (rv, _) _ => some rv
      | _, _ => none
  | _ => none

/-- What `acceptConnections` has returned in the rounds of a run. -/
def statuses (visits : List (Program × ProgramInput)) : List AcceptStatus :=
  visits.filterMap (fun v => v.1.status v.2)

/-- The rounds at the end of a run that have failed. -/
def errorsInRow (rounds : List AcceptStatus) : Nat :=
  (rounds.reverse.takeWhile (· = .acceptError)).length

theorem errorsInRow_error (rounds : List AcceptStatus) :
  errorsInRow (rounds ++ [.acceptError]) = errorsInRow rounds + 1
  := by
  simp [errorsInRow]

theorem errorsInRow_other {rv : AcceptStatus} (rounds : List AcceptStatus)
    (h : rv ≠ .acceptError) :
  errorsInRow (rounds ++ [rv]) = 0
  := by
  simp [errorsInRow, h]

theorem statuses_snoc {i : ProgramInput} :
  statuses (visits ++ [(s, i)]) = statuses visits ++ (s.status i).toList
  := by
  cases hstatus : s.status i <;> simp [statuses, hstatus]

/-! ### A round -/

section

open Exec

/-- The addition of a client changes the media and the descriptors of their nodes only. -/
theorem addClient_keeps {γ : Type} {f : NetworkSimulator → γ}
    (hsockfd : ∀ s k p fd, f (s.setSockfd k p fd) = f s)
    (hmedium : ∀ s k sys, f (s.setMedium k sys) = f s) (k : Kind) (client : Int) :
  Keeps f (addClient host startEnv k client)
  := by
  apply Keeps.ite
  · apply Keeps.bind
    · apply Keeps.modify
      intro s
      apply hsockfd
    · intro _
      apply Keeps.get.bind
      intro s
      dsimp only
      generalize (s.medium k).step host k
        (.addNode (startEnv.node k).env (startEnv.node k).ptr (startEnv.node k).socket) = result
      cases result with
      | ok sys =>
          apply Keeps.modify
          intro s
          apply hmedium
      | error x =>
          apply Keeps.bind
          · apply Keeps.modify
            intro s
            apply hmedium
          · intro _
            apply Keeps.throw
  · apply Keeps.pure

end

/-- The error count and the server sockets after a round that does not throw. -/
theorem handleAccept_count {t t' : NetworkSimulator} {rv : AcceptStatus} {client : Kind → Int}
    (h : handleAccept host startEnv client rv t = .ok () t') :
  t'.server = t.server ∧
    (rv = .acceptError ∧ t'.errCount = t.errCount + 1 ∧ t.errCount < 5 ∨
      rv ≠ .acceptError ∧ (rv ≠ .acceptUnblock → t'.errCount = 0))
  := by
  cases rv with
  | acceptOk =>
      have hkeeps : ∀ k, Exec.Keeps (fun t : NetworkSimulator => (t.server, t.errCount))
          (addClient host startEnv k (client k)) := by
        intro k
        apply addClient_keeps
        · intro _ _ _ _
          rfl
        · intro _ _ _
          rfl
      obtain ⟨_, t₁, hreset, h⟩ := Exec.bind_eq_ok.mp h
      obtain ⟨_, t₂, hhan, hair⟩ := Exec.bind_eq_ok.mp h
      have hkept := ((hkeeps _).ok hair).trans ((hkeeps _).ok hhan)
      cases hreset
      obtain ⟨hserver, hcount⟩ := Prod.mk.inj hkept
      exact ⟨hserver, Or.inr ⟨by simp, fun _ => hcount⟩⟩
  | acceptTimeout =>
      cases h
      exact ⟨rfl, Or.inr ⟨by simp, fun _ => rfl⟩⟩
  | acceptError =>
      simp only [handleAccept, Exec.bind_apply, Exec.modify_apply, Exec.get_apply,
        Exec.ite_apply] at h
      split at h
      · cases h
      · next hfew =>
          cases h
          refine ⟨rfl, Or.inl ⟨rfl, rfl, ?_⟩⟩
          omega
  | acceptUnblock =>
      cases h
      exact ⟨rfl, Or.inr ⟨by simp, by simp⟩⟩

/-- When a round throws, it is the sixth in a row to fail, or the node of a client is not added. -/
theorem handleAccept_throws {t t' : NetworkSimulator} {rv : AcceptStatus} {o : Kind → Option Fd}
    {text : String}
    (h : handleAccept host startEnv (fun k => toClient (o k)) rv t = .error (.exception text) t') :
  rv = .acceptError ∧ text = "Fatal error in acceptConnections" ∧ 5 ≤ t.errCount ∨
    rv = .acceptOk ∧ ∃ k, o k ≠ none ∧ (startEnv.node k).env.AddThrows
  := by
  cases rv with
  | acceptOk =>
      right
      refine ⟨rfl, ?_⟩
      obtain ⟨_, t₁, -, h⟩ := (Exec.bind_eq_error.mp h).resolve_left (by simp)
      rcases Exec.bind_eq_error.mp h with hhan | ⟨_, t₂, -, hair⟩
      · exact ⟨_, addClient_throws hhan⟩
      · exact ⟨_, addClient_throws hair⟩
  | acceptTimeout => cases h
  | acceptError =>
      left
      simp only [handleAccept, Exec.bind_apply, Exec.modify_apply, Exec.get_apply,
        Exec.ite_apply] at h
      split at h
      · next hmany =>
          cases h
          refine ⟨rfl, rfl, ?_⟩
          omega
      · cases h
  | acceptUnblock => cases h

/-! ### Runs -/

/-- Why `start` has thrown: a server socket could not be set up, six rounds in a row have failed, or
the node of a client was not added. -/
inductive ThrownFor (visits : List (Program × ProgramInput)) (text : String) : Prop where
  | server : text ∈ serverErrors → statuses visits = [] → ThrownFor visits text
  | rounds : text = "Fatal error in acceptConnections" → errorsInRow (statuses visits) = 6 →
      ThrownFor visits text
  | client {s : Program} {i : ProgramInput} : (s, i) ∈ visits → AddFails s i →
      ThrownFor visits text

/-- The error count is the number of the rounds that have failed in a row. -/
structure Counted (visits : List (Program × ProgramInput)) (s : Program) : Prop where
  early : (s.pc = .construct ∨ (∃ k, s.pc = .startMedium k) ∨ s.pc = .start .setup) →
    statuses visits = [] ∧ s.sim.errCount = 0
  pipe : ((∃ k, s.pc = .startMedium k) ∨ ∃ pc, s.pc = .start pc) → 0 ≤ s.sim.readPipe
  server : s.pc = .start .accepting → ∀ k, 0 ≤ s.sim.server k
  count : s.pc = .start .accepting →
    s.sim.errCount = errorsInRow (statuses visits) ∧ s.sim.errCount ≤ 5
  thrown : ∀ text, s.pc = .start (.thrown text) → ThrownFor visits text

theorem statuses_snoc_none {i : ProgramInput} (h : s.status i = none) :
  statuses (visits ++ [(s, i)]) = statuses visits
  := by
  rw [statuses_snoc, h]
  simp

/-- A step that is no round does not change why `start` has thrown. -/
theorem ThrownFor.snoc {text : String} {i : ProgramInput} (h : ThrownFor visits text)
    (hstatus : s.status i = none) :
  ThrownFor (visits ++ [(s, i)]) text
  := by
  cases h with
  | server htext hnone => exact ThrownFor.server htext (by rw [statuses_snoc_none hstatus, hnone])
  | rounds htext hmany => exact ThrownFor.rounds htext (by rw [statuses_snoc_none hstatus, hmany])
  | client hmem hfails => exact ThrownFor.client (by simp [hmem]) hfails

/-- A step that is no round, and leaves `start` where it is. -/
theorem Counted.goOn {i : ProgramInput} (h : Counted visits s) (hstatus : s.status i = none)
    (hpc : s'.pc = s.pc) (hserver : s'.sim.server = s.sim.server)
    (hpipe : s'.sim.readPipe = s.sim.readPipe) (hcount : s'.sim.errCount = s.sim.errCount) :
  Counted (visits ++ [(s, i)]) s'
  where
  early hearly := by
    rw [statuses_snoc_none hstatus, hcount]
    apply h.early
    rw [← hpc]
    apply hearly
  pipe hstart := by
    rw [hpipe]
    apply h.pipe
    rw [← hpc]
    apply hstart
  server haccepting := by
    rw [hserver]
    apply h.server
    rw [← hpc]
    apply haccepting
  count haccepting := by
    rw [statuses_snoc_none hstatus, hcount]
    apply h.count
    rw [← hpc]
    apply haccepting
  thrown text hthrown := by
    apply ThrownFor.snoc _ hstatus
    apply h.thrown
    rw [← hpc]
    apply hthrown

/-- A step out of `start`, or of what comes after it. -/
theorem Counted.leave (hconstruct : s.pc ≠ .construct) (hmedium : ∀ k, s.pc ≠ .startMedium k)
    (hstart : ∀ pc, s.pc ≠ .start pc) :
  Counted visits s
  where
  early hearly := by
    rcases hearly with hpc | ⟨k, hpc⟩ | hpc
    · apply absurd hpc hconstruct
    · apply absurd hpc (hmedium k)
    · apply absurd hpc (hstart _)
  pipe hpipe := by
    rcases hpipe with ⟨k, hpc⟩ | ⟨pc, hpc⟩
    · apply absurd hpc (hmedium k)
    · apply absurd hpc (hstart pc)
  server hpc := absurd hpc (hstart _)
  count hpc := absurd hpc (hstart _)
  thrown _ hpc := absurd hpc (hstart _)

/-- A round of `start`. -/
theorem Counted.round {env : ProgramEnv} {x : Simulation} (h : Counted visits s)
    (hpc : s.pc = .start .accepting) (hnew : s.sim.NewFds env.start.accept)
    (hstep : Simulation.step host ⟨.accepting, s.sim⟩ (.main env.start) = .ok x)
    (hx : s'.pc = .start x.main) (hsim : s'.sim = x.sim) :
  Counted (visits ++ [(s, .main env)]) s'
  := by
  obtain ⟨hcount, hfew⟩ := h.count hpc
  have hpipe : 0 ≤ s.sim.readPipe := h.pipe (Or.inr ⟨_, hpc⟩)
  have hpipe' : 0 ≤ s'.sim.readPipe := by
    rw [hsim, steady_readPipe (startStep_steady hstep)]
    apply hpipe
  rcases accepting_result hstep with ⟨text, haccept, -⟩ | ⟨rv, client, t, haccept, hresult⟩
  · apply absurd haccept (acceptConnections_valid (h.server hpc) hpipe text)
  · have hrounds : statuses (visits ++ [(s, .main env)]) = statuses visits ++ [rv] := by
      rw [statuses_snoc]
      simp [Program.status, hpc, haccept]
    have hkept := (acceptConnections_keeps (f := fun s => (s.server, s.errCount))
      (fun _ _ => rfl) env.start.accept).ok haccept
    obtain ⟨hserver₁, hcount₁⟩ := Prod.mk.inj hkept
    rcases hresult with ⟨text, hthrow, hmain⟩ | ⟨t', hhandle, ⟨-, hrv, rfl⟩ | ⟨-, rfl⟩⟩
    · -- The round throws.
      have hclient : ∃ o : Kind → Option Fd, client = fun k => toClient (o k) := by
        rcases acceptConnections_ok hnew haccept with ⟨-, rfl, -⟩ | ⟨-, rfl, -⟩
        · exact ⟨fun _ => none, rfl⟩
        · exact ⟨_, rfl⟩
      obtain ⟨o, rfl⟩ := hclient
      have hthrown : ThrownFor (visits ++ [(s, .main env)]) text := by
        rcases handleAccept_throws hthrow with ⟨rfl, htext, hmany⟩ | ⟨rfl, k, hsome, hthrows⟩
        · apply ThrownFor.rounds htext
          rw [hrounds, errorsInRow_error]
          omega
        · have hgets : s.sim.Gets env.start.accept k := ⟨_, t, haccept, by simpa using hsome⟩
          rcases mediumInput_accepting (k := k) hpc with ⟨-, hinput⟩ | ⟨hnone, -⟩
          · exact ThrownFor.client (by simp) ⟨k, _, _, _, hinput, hthrows⟩
          · apply absurd hgets hnone
      rw [hmain] at hx
      constructor
      · simp [hx]
      · intro _
        apply hpipe'
      · simp [hx]
      · simp [hx]
      · intro text' htext'
        rw [hx] at htext'
        cases htext'
        apply hthrown
    · -- The loop goes on.
      obtain ⟨hserver₂, hcount₂⟩ := handleAccept_count hhandle
      constructor
      · simp [hx]
      · intro _
        apply hpipe'
      · intro _ k
        simp only [hsim, hserver₂, hserver₁]
        apply h.server hpc
      · intro _
        rw [hrounds, hsim]
        rcases hcount₂ with ⟨rfl, hcount₂, hfew₂⟩ | ⟨hother, hcount₂⟩
        · rw [errorsInRow_error, hcount₂]
          omega
        · rw [errorsInRow_other _ hother, hcount₂ hrv]
          simp
      · simp [hx]
    · -- `start` returns.
      constructor
      · simp [hx]
      · intro _
        apply hpipe'
      · simp [hx]
      · simp [hx]
      · simp [hx]

theorem Counted.snoc {i : ProgramInput} (h : Counted visits s) (hnext : ProgramNext host s i s') :
  Counted (visits ++ [(s, i)]) s'
  := by
  cases hnext with
  | construct readPipe hpc =>
      have hstatus : ∀ env, s.status (.main env) = none := by
        intro env
        simp [Program.status, hpc]
      constructor
      · intro _
        rw [statuses_snoc_none (hstatus _)]
        exact ⟨(h.early (Or.inl hpc)).1, rfl⟩
      · intro _
        simp [NetworkSimulator.new]
      · simp
      · simp
      · simp
  | failed hpc => apply Counted.leave <;> simp
  | @startMedium env k hpc =>
      have hstatus : s.status (.main env) = none := by simp [Program.status, hpc]
      obtain ⟨hnone, hcount⟩ := h.early (Or.inr (Or.inl ⟨k, hpc⟩))
      have hpipe := h.pipe (Or.inl ⟨k, hpc⟩)
      constructor
      · intro _
        rw [statuses_snoc_none hstatus]
        exact ⟨hnone, hcount⟩
      · intro _
        apply hpipe
      · cases k <;> simp [hpc, ProgramPc.after]
      · cases k <;> simp [hpc, ProgramPc.after]
      · cases k <;> simp [hpc, ProgramPc.after]
  | @setup env x hpc hsetup =>
      have hstatus : s.status (.main env) = none := by simp [Program.status, hpc]
      obtain ⟨hnone, hcount⟩ := h.early (Or.inr (Or.inr hpc))
      have hpipe : 0 ≤ x.sim.readPipe := by
        rw [steady_readPipe (startStep_steady hsetup)]
        apply h.pipe (Or.inr ⟨_, hpc⟩)
      rcases setup_result hsetup with ⟨hmain, hkept, hserver⟩ | ⟨text, htext, hmain⟩
      · constructor
        · simp [hmain]
        · intro _
          apply hpipe
        · intro _
          apply hserver
        · intro _
          simp [statuses_snoc_none hstatus, hnone, hkept, hcount, errorsInRow]
        · simp [hmain]
      · constructor
        · simp [hmain]
        · intro _
          apply hpipe
        · simp [hmain]
        · simp [hmain]
        · intro text' htext'
          simp only [hmain, ProgramPc.start.injEq, MainPc.thrown.injEq] at htext'
          subst htext'
          exact ThrownFor.server htext (by rw [statuses_snoc_none hstatus, hnone])
  | accepting hpc hselects hnew hfresh haccepting =>
      apply h.round hpc hnew haccepting rfl rfl
  | leave hpc => apply Counted.leave <;> simp
  | @stopMedium env k sys hpc hstop =>
      apply Counted.leave <;> cases k <;> simp [hpc, ProgramPc.after]
  | joined k hpc hexited => apply Counted.leave <;> cases k <;> simp [hpc, ProgramPc.after]
  | @deleteMedium env k sys hpc hreg hhash hdelete =>
      apply Counted.leave <;> cases k <;> simp [hpc, ProgramPc.after]
  | exit constructed hpc => apply Counted.leave <;> simp
  | thread hpc hstarted hrun hpolls hstep => exact h.goOn rfl rfl rfl rfl rfl
  | ignored => exact h.goOn rfl rfl rfl rfl rfl
  | told => exact h.goOn rfl rfl rfl rfl rfl
  | unblocked => exact h.goOn rfl rfl rfl rfl rfl

theorem counted_new :
  Counted [] Program.new
  where
  early _ := ⟨rfl, rfl⟩
  pipe hstart := by
    rcases hstart with ⟨k, hpc⟩ | ⟨pc, hpc⟩
    · cases hpc
    · cases hpc
  server hpc := by cases hpc
  count hpc := by cases hpc
  thrown _ hpc := by cases hpc

/-- In every run, `start` goes on only as long as at most five rounds in a row have failed.  When it
has thrown, a server socket could not be set up, six rounds in a row have failed, or the node of a
client was not added. -/
theorem start_throws (run : (program host).Run Program.new visits s) :
  (s.pc = .start .accepting → errorsInRow (statuses visits) ≤ 5) ∧
    ∀ text, s.pc = .start (.thrown text) → ThrownFor visits text
  := by
  have hcounted : Counted visits s := by
    induction run with
    | nil => apply counted_new
    | snoc run henabled hstep ih => apply ih.snoc (programNext_of_step henabled hstep)
  constructor
  · intro hpc
    obtain ⟨hcount, hfew⟩ := hcounted.count hpc
    rw [← hcount]
    apply hfew
  · apply hcounted.thrown

/-- `select` fails. -/
def ProgramEnv.broken : ProgramEnv :=
  { ProgramEnv.calm with start := StartEnv.servers45 ⟨-1, false, fun _ => false, fun _ => none⟩ }

/-- The program when the last rounds have failed, as many as the error count says. -/
def Program.failing (errCount : Nat) : Program :=
  { Program.listening with sim := { Simulation.listening.sim with errCount } }

theorem enabled_failing (host : ByteOrder) (errCount : Nat) :
  (program host).enabled (Program.failing errCount) (.main .broken)
  := by
  refine ⟨⟨by decide, ?_⟩, ?_, ?_⟩
  · intro hcount
    apply absurd rfl hcount
  · constructor
    · intro k fd haccept
      cases haccept
    · intro fd haccept
      cases haccept
  · intro k
    refine ⟨rfl, ?_⟩
    intro q n hq
    cases hq

theorem run_failing (host : ByteOrder) {errCount : Nat} (h : errCount ≤ 5) :
  ∃ visits, (program host).Run Program.new visits (Program.failing errCount)
  := by
  induction errCount with
  | zero =>
      obtain ⟨visits, run, -⟩ := run_programListening host
      exact ⟨visits, run⟩
  | succ errCount ih =>
      obtain ⟨visits, run⟩ := ih (by omega)
      have hstep : (Program.failing errCount).step host (.main .broken) =
          .ok (Program.failing (errCount + 1)) := by
        have hfew : ¬ 5 < errCount + 1 := by omega
        simp [Program.step, Program.main, Simulation.step, startStep, acceptConnections,
          setupAcceptFdSet, handleAccept, Program.failing, Program.listening, Simulation.listening,
          ProgramEnv.broken, StartEnv.servers45, NetworkSimulator.new, NetworkSimulator.fdMax,
          bytesRead, hfew]
      exact ⟨_, run.snoc (enabled_failing host errCount) hstep⟩

/-- `start` throws in the sixth round that fails. -/
theorem start_throws_sixth :
  ∃ visits s, (program .little).Run Program.new visits s ∧
    s.pc = .start (.thrown "Fatal error in acceptConnections") ∧
    ThrownFor visits "Fatal error in acceptConnections"
  := by
  obtain ⟨visits, run⟩ := run_failing .little (le_refl 5)
  have hrun := run.snoc (enabled_failing .little 5) rfl
  exact ⟨_, _, hrun, rfl, (start_throws hrun).2 _ rfl⟩

end X6losim
