import X6losim.Sim.Accepting

/-!
# The program

`main`, from the construction of the simulator on: the constructor of `NetworkSimulator`, which
starts the threads of the media, then `NetworkSimulator::start`, and the destructor, which stops the
media, waits for their threads and deletes them.  The threads go on meanwhile, and signals come at
any time.
-/

open Bytes

namespace X6losim

/-! ### The constructor of `NetworkSimulator` -/

/-- The clocks `get_highres_clock` asks for. -/
inductive ClockId where
  | realtime
  | monotonic
  | processCputimeId
deriving DecidableEq, Repr

/-- What the system answers when the simulator is constructed. -/
structure ConstructEnv where
  /-- `clock_getres`, or none when it fails. -/
  clockGetres : ClockId → Option Timespec
  /-- The descriptor of the read end of the unblock pipe, or none when the pipe is not made. -/
  pipe : Option Fd
  /-- Whether `epoll_create1` makes the poller of a medium. -/
  epollCreate : Kind → Bool
  /-- Whether `epoll_ctl` adds the unblock pipe to it. -/
  epollCtl : Kind → Bool
  /-- Whether `timer_create` creates the timer of a medium. -/
  timerCreate : Kind → Bool

/-- `get_highres_clock`: the first clock that has a resolution of a nanosecond. -/
def getHighresClock (clockGetres : ClockId → Option Timespec) : Option ClockId :=
  [.realtime, .monotonic, .processCputimeId].find? fun clock =>
    (clockGetres clock).map (fun res => res.tvSec * 1000000000 + res.tvNsec) = some 1

/-- The constructor of `PhysicalMedium_pimpl`, which asks for the unblocker first. -/
def newPhysicalMedium (env : ConstructEnv) (k : Kind) : Except String Fd :=
  match env.pipe with
  | none => .error "ERROR: SocketUnblocker"
  | some readPipe =>
      if env.epollCreate k = false then .error "epoll_create error"
      else if env.epollCtl k = false then
        .error "PhysicalMedium_pimpl: failed to add unblocker to poller"
      else if env.timerCreate k = false then
        .error "PhysicalMedium_pimpl: failed to create timer"
      else .ok readPipe

/-- The constructor of `NetworkSimulator` up to the start of the media, and the descriptor of the
unblock pipe. -/
def newNetworkSimulator (env : ConstructEnv) : Except String Fd := do
  let readPipe ← newPhysicalMedium env .powerline
  let _ ← newPhysicalMedium env .wireless
  if getHighresClock env.clockGetres = none then
    throw "Failed to get high resolution clock"
  return readPipe

/-! ### The main thread -/

/-- The places in `main`. -/
inductive ProgramPc where
  /-- At the construction of the simulator. -/
  | construct
  /-- At the start of the thread of a medium in the constructor. -/
  | startMedium (k : Kind)
  /-- In `NetworkSimulator::start`, or after it has returned or thrown. -/
  | start (pc : MainPc)
  /-- At a call of `PhysicalMedium::stop` in the destructor. -/
  | stopMedium (k : Kind)
  /-- At a call of `PhysicalMedium::waitForExit`. -/
  | waitForExit (k : Kind)
  /-- At the deletion of a medium. -/
  | deleteMedium (k : Kind)
  /-- After the deletion of the simulator, if it has been constructed. -/
  | deleted (constructed : Bool)
  /-- After the exit. -/
  | exited
deriving DecidableEq, Repr

/-- The place after a call in the constructor or the destructor. -/
def ProgramPc.after : ProgramPc → ProgramPc
  | startMedium .powerline => startMedium .wireless
  | startMedium .wireless => start .setup
  | stopMedium .powerline => stopMedium .wireless
  | stopMedium .wireless => waitForExit .powerline
  | waitForExit .powerline => waitForExit .wireless
  | waitForExit .wireless => deleteMedium .powerline
  | deleteMedium .powerline => deleteMedium .wireless
  | deleteMedium .wireless => deleted true
  | pc => pc

/-- The program: the place its main thread is at, the simulator, the threads of the media that have
been started, the bytes in the unblock pipe, and the calls of `NetworkSimulator::stop` that have set
the flag and still have to write their byte. -/
structure Program where
  pc : ProgramPc
  sim : NetworkSimulator
  started : Kind → Bool
  unblock : Nat
  stops : Nat

/-- Why the program ends without an exit: a thread stops, or the simulator is used when it has been
deleted. -/
inductive ProgramStop where
  | main (e : Stop)
  | thread (k : Kind) (e : Stop)
  | noSimulator
deriving DecidableEq, Repr

/-- What the system answers during one step of `main`. -/
structure ProgramEnv where
  construct : ConstructEnv
  /-- Whether `pthread_create` creates the thread of a medium. -/
  pthreadCreate : Bool
  start : StartEnv
  /-- The order in which the maps of a medium are walked. -/
  medium : Env

/-- The bytes that a step of `start` reads from the unblock pipe: `acceptConnections` reads one when
it says that it has been unblocked. -/
def bytesRead (env : AcceptEnv) (pc : MainPc) (s : NetworkSimulator) : Nat :=
  match pc, acceptConnections env s with
  | .accepting, .ok (.acceptUnblock, _) _ => 1
  | _, _ => 0

namespace Program

/-- The destructor of the simulator does something with a medium. -/
def call (host : ByteOrder) (k : Kind) (i : Input) (s : Program) : Except ProgramStop Program :=
  match (s.sim.medium k).step host k i with
  | .ok sys => .ok { s with pc := s.pc.after, sim := s.sim.thread k sys }
  | .error (e, _) => .error (.main e)

/-- One step of `main`.  An exception is caught; when it comes from the constructor, there is no
simulator to delete. -/
def main (host : ByteOrder) (env : ProgramEnv) (s : Program) : Except ProgramStop Program :=
  match s.pc with
  | .construct =>
      match newNetworkSimulator env.construct with
      | .ok readPipe =>
          .ok { s with pc := .startMedium .powerline, sim := NetworkSimulator.new readPipe }
      | .error _ => .ok { s with pc := .deleted false }
  | .startMedium k =>
      if env.pthreadCreate then
        .ok { s with pc := s.pc.after, started := Function.update s.started k true }
      else .ok { s with pc := .deleted false }
  | .start .returned => .ok { s with pc := .stopMedium .powerline }
  | .start (.thrown _) => .ok { s with pc := .stopMedium .powerline }
  | .start pc =>
      match Simulation.step host ⟨pc, s.sim⟩ (.main env.start) with
      | .ok x =>
          .ok { s with
            pc := .start x.main
            sim := x.sim
            unblock := s.unblock - bytesRead env.start.accept pc s.sim }
      | .error (e, _) => .error (.main e)
  | .stopMedium k => s.call host k .stop
  | .waitForExit _ => .ok { s with pc := s.pc.after }
  | .deleteMedium k => s.call host k (.deleteMedium env.medium)
  | .deleted _ => .ok { s with pc := .exited }
  | .exited => .ok s

end Program

/-! ### Signals -/

/-- The signals that are handled. -/
inductive Signal where
  | sigint
  | sigterm
  | sighup
deriving DecidableEq, Repr

/-- The simulator has been constructed and not been deleted. -/
def ProgramPc.hasSimulator : ProgramPc → Bool
  | start _ => true
  | stopMedium _ => true
  | waitForExit _ => true
  | deleteMedium _ => true
  | _ => false

/-- The first half of `NetworkSimulator::stop`, called by `signal_handler` when there is a
simulator.  The pointer to it is set by its construction, and not reset by its deletion. -/
def Program.stop (s : Program) : Except ProgramStop Program :=
  if s.pc.hasSimulator then
    .ok { s with sim := { s.sim with stop := true }, stops := s.stops + 1 }
  else if s.pc = .deleted true then .error .noSimulator
  else .ok s

/-- `signal_handler`. -/
def Program.signalHandler (s : Program) : Signal → Except ProgramStop Program
  | .sigint => s.stop
  | .sigterm => s.stop
  | .sighup => .ok s

/-! ### Steps -/

/-- What is done in one step: the main thread or the thread of a medium goes on, a signal is
handled, or `SocketUnblocker::unblock` ends a call of `NetworkSimulator::stop`, and writes its byte
unless the pipe is full. -/
inductive ProgramInput where
  | main (env : ProgramEnv)
  | thread (k : Kind) (env : Env)
  | signal (signum : Signal)
  | unblock (written : Bool)

/-- One step of the program. -/
def Program.step (host : ByteOrder) (s : Program) : ProgramInput → Except ProgramStop Program
  | .main env => s.main host env
  | .thread k env =>
      match (s.sim.medium k).step host k (.run env) with
      | .ok sys => .ok { s with sim := s.sim.thread k sys }
      | .error (e, _) => .error (.thread k e)
  | .signal signum => s.signalHandler signum
  | .unblock written =>
      .ok { s with stops := s.stops - 1, unblock := s.unblock + if written then 1 else 0 }

/-- What `select` may answer: it fails, or it reports at least one descriptor, the unblock pipe
among them exactly when there is a byte in it. -/
structure Program.Selects (s : Program) (env : AcceptEnv) : Prop where
  some : env.count ≠ 0
  pipe : env.count ≠ -1 → (env.acceptFdSet s.sim.readPipe ↔ 0 < s.unblock)

/-- What `epoll_wait` may answer about the unblock pipe: it is reported only when there is a byte in
it, and never as closed. -/
def Program.Polls (s : Program) (env : Env) : Prop :=
  ∀ evs, env.epollWait = .ready evs → ∀ ev ∈ evs, ev.data = .unblocker →
    ev.rdhup = false ∧ 0 < s.unblock

/-- The steps that may be taken, and the answers the system may give. -/
def Program.Enabled (s : Program) : ProgramInput → Prop
  | .main env =>
      match s.pc with
      | .start .accepting =>
          s.Selects env.start.accept ∧ s.sim.NewFds env.start.accept ∧
            ∀ k, (s.sim.medium k).med.Fresh (env.start.node k).ptr (env.start.node k).socket
      -- `pthread_join` returns when the thread has exited.
      | .waitForExit k => (s.sim.medium k).pc = .exited
      | .deleteMedium k =>
          (s.sim.medium k).med.regListMap.Walk env.medium.regListWalk ∧
            (s.sim.medium k).med.nodeHashMap.Walk env.medium.nodeHashWalk
      | .exited => False
      | _ => True
  | .thread k env =>
      s.pc ≠ .exited ∧ s.started k ∧ (s.sim.medium k).Enabled (.run env) ∧ s.Polls env
  | .signal _ => s.pc ≠ .exited
  | .unblock written => s.pc ≠ .exited ∧ 0 < s.stops ∧ (written = false → 0 < s.unblock)

/-- The program when `main` is about to construct the simulator. -/
def Program.new : Program where
  pc := .construct
  sim := NetworkSimulator.new (-1)
  started := fun _ => false
  unblock := 0
  stops := 0

/-- The program. -/
def program (host : ByteOrder) : Machine Program ProgramInput ProgramStop where
  init s := s = Program.new
  enabled := Program.Enabled
  step := Program.step host

/-! ### What a step does -/

/-- What a step of the program can do. -/
inductive ProgramNext (host : ByteOrder) (s : Program) : ProgramInput → Program → Prop where
  | construct {env : ProgramEnv} (readPipe : Fd) : s.pc = .construct →
      ProgramNext host s (.main env)
        { s with pc := .startMedium .powerline, sim := NetworkSimulator.new readPipe }
  | failed {env : ProgramEnv} : (s.pc = .construct ∨ ∃ k, s.pc = .startMedium k) →
      ProgramNext host s (.main env) { s with pc := .deleted false }
  | startMedium {env : ProgramEnv} (k : Kind) : s.pc = .startMedium k →
      ProgramNext host s (.main env)
        { s with pc := s.pc.after, started := Function.update s.started k true }
  | setup {env : ProgramEnv} {x : Simulation} : s.pc = .start .setup →
      Simulation.step host ⟨.setup, s.sim⟩ (.main env.start) = .ok x →
      ProgramNext host s (.main env) { s with pc := .start x.main, sim := x.sim }
  | accepting {env : ProgramEnv} {x : Simulation} : s.pc = .start .accepting →
      s.Selects env.start.accept → s.sim.NewFds env.start.accept →
      (∀ k, (s.sim.medium k).med.Fresh (env.start.node k).ptr (env.start.node k).socket) →
      Simulation.step host ⟨.accepting, s.sim⟩ (.main env.start) = .ok x →
      ProgramNext host s (.main env) { s with
        pc := .start x.main
        sim := x.sim
        unblock := s.unblock - bytesRead env.start.accept .accepting s.sim }
  | leave {env : ProgramEnv} :
      (s.pc = .start .returned ∨ ∃ text, s.pc = .start (.thrown text)) →
      ProgramNext host s (.main env) { s with pc := .stopMedium .powerline }
  | stopMedium {env : ProgramEnv} {k : Kind} {sys : Sys} : s.pc = .stopMedium k →
      (s.sim.medium k).step host k .stop = .ok sys →
      ProgramNext host s (.main env) { s with pc := s.pc.after, sim := s.sim.thread k sys }
  | joined {env : ProgramEnv} (k : Kind) : s.pc = .waitForExit k →
      (s.sim.medium k).pc = .exited →
      ProgramNext host s (.main env) { s with pc := s.pc.after }
  | deleteMedium {env : ProgramEnv} {k : Kind} {sys : Sys} : s.pc = .deleteMedium k →
      (s.sim.medium k).med.regListMap.Walk env.medium.regListWalk →
      (s.sim.medium k).med.nodeHashMap.Walk env.medium.nodeHashWalk →
      (s.sim.medium k).step host k (.deleteMedium env.medium) = .ok sys →
      ProgramNext host s (.main env) { s with pc := s.pc.after, sim := s.sim.thread k sys }
  | exit {env : ProgramEnv} (constructed : Bool) : s.pc = .deleted constructed →
      ProgramNext host s (.main env) { s with pc := .exited }
  | thread {k : Kind} {env : Env} {sys : Sys} : s.pc ≠ .exited → s.started k →
      (s.sim.medium k).Enabled (.run env) → s.Polls env →
      (s.sim.medium k).step host k (.run env) = .ok sys →
      ProgramNext host s (.thread k env) { s with sim := s.sim.thread k sys }
  | ignored {signum : Signal} : (signum = .sighup ∨ s.pc.hasSimulator = false) →
      ProgramNext host s (.signal signum) s
  | told {signum : Signal} : signum ≠ .sighup → s.pc.hasSimulator →
      ProgramNext host s (.signal signum)
        { s with sim := { s.sim with stop := true }, stops := s.stops + 1 }
  | unblocked {written : Bool} : 0 < s.stops → (written = false → 0 < s.unblock) →
      ProgramNext host s (.unblock written)
        { s with stops := s.stops - 1, unblock := s.unblock + if written then 1 else 0 }

section

variable {host : ByteOrder} {s s' : Program}

/-- What a step of `main` does. -/
theorem programNext_of_main {env : ProgramEnv} (henabled : s.Enabled (.main env))
    (hstep : s.main host env = .ok s') :
  ProgramNext host s (.main env) s'
  := by
  simp only [Program.Enabled] at henabled
  unfold Program.main at hstep
  cases hpc : s.pc with
  | construct =>
      rw [hpc] at hstep
      simp only at hstep
      cases hnew : newNetworkSimulator env.construct with
      | ok readPipe =>
          rw [hnew] at hstep
          cases hstep
          apply ProgramNext.construct readPipe hpc
      | error text =>
          rw [hnew] at hstep
          cases hstep
          apply ProgramNext.failed (Or.inl hpc)
  | startMedium k =>
      rw [hpc] at hstep
      simp only at hstep
      split at hstep
      · cases hstep
        rw [← hpc]
        apply ProgramNext.startMedium k hpc
      · cases hstep
        apply ProgramNext.failed (Or.inr ⟨k, hpc⟩)
  | start pc =>
      cases pc with
      | setup =>
          rw [hpc] at hstep
          simp only at hstep
          cases hsim : Simulation.step host ⟨.setup, s.sim⟩ (.main env.start) with
          | ok x =>
              rw [hsim] at hstep
              cases hstep
              apply ProgramNext.setup hpc hsim
          | error e =>
              rw [hsim] at hstep
              cases hstep
      | accepting =>
          rw [hpc] at hstep henabled
          simp only at hstep
          cases hsim : Simulation.step host ⟨.accepting, s.sim⟩ (.main env.start) with
          | ok x =>
              rw [hsim] at hstep
              cases hstep
              apply ProgramNext.accepting hpc henabled.1 henabled.2.1 henabled.2.2 hsim
          | error e =>
              rw [hsim] at hstep
              cases hstep
      | returned =>
          rw [hpc] at hstep
          cases hstep
          apply ProgramNext.leave (Or.inl hpc)
      | thrown text =>
          rw [hpc] at hstep
          cases hstep
          apply ProgramNext.leave (Or.inr ⟨text, hpc⟩)
  | stopMedium k =>
      rw [hpc] at hstep
      simp only [Program.call] at hstep
      cases hsys : (s.sim.medium k).step host k .stop with
      | ok sys =>
          rw [hsys] at hstep
          cases hstep
          apply ProgramNext.stopMedium hpc hsys
      | error e =>
          rw [hsys] at hstep
          cases hstep
  | waitForExit k =>
      rw [hpc] at hstep henabled
      cases hstep
      rw [← hpc]
      apply ProgramNext.joined k hpc henabled
  | deleteMedium k =>
      rw [hpc] at hstep henabled
      simp only [Program.call] at hstep
      cases hsys : (s.sim.medium k).step host k (.deleteMedium env.medium) with
      | ok sys =>
          rw [hsys] at hstep
          cases hstep
          apply ProgramNext.deleteMedium hpc henabled.1 henabled.2 hsys
      | error e =>
          rw [hsys] at hstep
          cases hstep
  | deleted constructed =>
      rw [hpc] at hstep
      cases hstep
      apply ProgramNext.exit constructed hpc
  | exited =>
      rw [hpc] at henabled
      cases henabled

/-- What a signal does. -/
theorem programNext_of_signal {signum : Signal} (hstep : s.signalHandler signum = .ok s') :
  ProgramNext host s (.signal signum) s'
  := by
  have hstop : signum ≠ .sighup → s.stop = .ok s' → ProgramNext host s (.signal signum) s' := by
    intro hne hstop
    rw [Program.stop] at hstop
    split at hstop
    · next hsimulator =>
        cases hstop
        apply ProgramNext.told hne hsimulator
    · next hnone =>
        split at hstop
        · cases hstop
        · cases hstop
          apply ProgramNext.ignored (Or.inr (by simpa using hnone))
  cases signum with
  | sigint => apply hstop (by simp) hstep
  | sigterm => apply hstop (by simp) hstep
  | sighup =>
      cases hstep
      apply ProgramNext.ignored (Or.inl rfl)

/-- What a step of the program does. -/
theorem programNext_of_step {i : ProgramInput} (henabled : s.Enabled i)
    (hstep : s.step host i = .ok s') :
  ProgramNext host s i s'
  := by
  cases i with
  | main env => apply programNext_of_main henabled hstep
  | thread k env =>
      obtain ⟨hpc, hstarted, hrun, hpolls⟩ := henabled
      simp only [Program.step] at hstep
      cases hsys : (s.sim.medium k).step host k (.run env) with
      | ok sys =>
          rw [hsys] at hstep
          cases hstep
          apply ProgramNext.thread hpc hstarted hrun hpolls hsys
      | error e =>
          rw [hsys] at hstep
          cases hstep
  | signal signum => apply programNext_of_signal hstep
  | unblock written =>
      cases hstep
      apply ProgramNext.unblocked henabled.2.1 henabled.2.2

end

end X6losim
