import X6losim.Lib.Machine
import X6losim.Sim.Loop

/-!
# The runs of a medium

`PhysicalMedium::run` as a machine: `Pc` is the place the thread of the medium is at, and one
step takes it to the next place, reading or writing the state variable at most once.  Between
two steps of it, the main thread may add a node or stop the medium, and delete the medium once
the thread has exited.
-/

open Bytes

namespace X6losim

/-- The two calls of `interval` in `run`. -/
inductive Phase where
  | idle
  | tx
deriving DecidableEq, Repr

/-- The argument of the call of `interval`. -/
def Phase.waitms : Phase → Nat
  | idle => 1000
  | tx => 1

/-- The places in `PhysicalMedium::run`, with the local variables that are used there. -/
inductive Pc where
  /-- On entry. -/
  | start
  /-- At the test for the idle state. -/
  | outer
  /-- At a call of `interval`. -/
  | interval (ph : Phase)
  /-- At the call of `epoll_wait`. -/
  | epollWait (ph : Phase) (waitms : Int)
  /-- In the loop of `processPollerEvents`, with the events not processed yet. -/
  | poll (ph : Phase) (evs : List PollEvent)
  /-- At the call of `timer_gettime`, with what `epoll_wait` has returned. -/
  | timeLeft (ph : Phase) (rv : Int)
  /-- At the test for the stopping state after `interval`. -/
  | polled (ph : Phase)
  /-- At the test of the transmit list after the idle `interval`. -/
  | mark
  /-- In the loop of `processCcaList`. -/
  | processCcaList (ph : Phase)
  /-- At the condition of the inner loop. -/
  | inner
  /-- At the call of `txCollisionCheck`. -/
  | txCollisionCheck
  /-- In the loop of `processTxList`, with the place of the next entry. -/
  | processTxList (i : Nat)
  /-- At the test for the stopping state after the inner loop. -/
  | left
  /-- At the assignment of the idle state after the inner loop. -/
  | resetIdle
  /-- At the call of `checkNodeRegistrationTimeout`. -/
  | checkNodeRegistrationTimeout
  /-- At the condition of the outer loop. -/
  | again
  /-- At the assignment of the stopped state. -/
  | exiting
  /-- After the return. -/
  | exited
  /-- After the medium has been deleted. -/
  | deleted

/-- A medium and the place its thread is at. -/
structure Sys where
  pc : Pc
  med : Medium

/-- What is done in one step, with what the system answers: the thread of the medium goes on,
or the main thread adds a node to the medium, stops it or deletes it. -/
inductive Input where
  | run (env : Env)
  | addNode (env : Env) (p : NodePtr) (socket : UInt64)
  | stop
  | deleteMedium (env : Env)

/-- Assign the state variable. -/
def setState (state : PhysicalMediumState) : Prog Unit := modify (fun m => { m with state })

/-- The call of `timer_settime` in `PhysicalMedium::interval` and what comes before it. -/
def armInterval (env : Env) (waitms : Nat) : Prog Unit := do
  modify (fun m => { m with curTime := timespecAddMs m.curTime waitms })
  record (.interval waitms)
  if env.timerSettime = false then
    throw (.exception "PhysicalMedium::interval: failed to arm timer")

/-- The milliseconds left of an interval, as an `int`. -/
def msLeft (left : Timespec) : Int :=
  (left.tvSec * 1000 + left.tvNsec.tdiv 1000000).bmod (2 ^ 32)

/-- One step of `PhysicalMedium::run` from a place. -/
def runStep (host : ByteOrder) (kind : Kind) (env : Env) : Pc → Prog Pc
  | .start => do
      setState .idle
      match env.clockGettime with
      | none => throw (.exception "clock_gettime: unrecoverable error")
      | some curTime =>
          modify (fun m => { m with curTime })
          return .outer
  | .outer => do
      let m ← get
      if m.state = .idle then return .interval .idle else return .inner
  | .interval ph => do
      armInterval env ph.waitms
      return .epollWait ph ph.waitms
  | .epollWait ph _ =>
      match env.epollWait with
      | .failed => throw (.exception "PhysicalMedium::interval: epoll failure")
      | .interrupted => return .timeLeft ph (-1)
      | .ready [] => return .timeLeft ph 0
      | .ready (ev :: evs) =>
          if epollMaxEvents < (ev :: evs).length then
            throw (.assertion .processPollerEvents)
          else return .poll ph (ev :: evs)
  | .poll ph [] => return .polled ph
  | .poll ph (ev :: evs) => do
      if ← processPollerEvent host env ev then return .poll ph evs else return .polled ph
  | .timeLeft ph rv =>
      match env.timerGettime with
      | none => throw (.exception "PhysicalMedium::interval: failed to get timer")
      | some left =>
          if 0 < rv ∧ 0 < msLeft left then return .epollWait ph (msLeft left)
          else return .polled ph
  | .polled .idle => do
      let m ← get
      if m.state = .stopping then return .exiting else return .mark
  | .polled .tx => do
      let m ← get
      if m.state = .stopping then return .left else return .processCcaList .tx
  | .mark => do
      let m ← get
      if m.txList ≠ [] then
        setState .tx802514Frame
      return .processCcaList .idle
  | .processCcaList ph => do
      let m ← get
      match m.ccaList, ph with
      | [], .idle => return .inner
      | [], .tx => return .txCollisionCheck
      | _ :: _, _ =>
          processCcaEntry
          return .processCcaList ph
  | .inner => do
      let m ← get
      if m.txList = [] then return .left else return .interval .tx
  | .txCollisionCheck => do
      txCollisionCheck kind
      return .processTxList 0
  | .processTxList i => do
      let m ← get
      match m.txList[i]? with
      | none => return .inner
      | some p =>
          let i ← processTxEntry host env i p
          return .processTxList i
  | .left => do
      let m ← get
      if m.state = .stopping then return .again else return .resetIdle
  | .resetIdle => do
      setState .idle
      return .checkNodeRegistrationTimeout
  | .checkNodeRegistrationTimeout => do
      checkNodeRegistrationTimeout env
      return .again
  | .again => do
      let m ← get
      if m.state = .stopping then return .exiting else return .outer
  | .exiting => do
      setState .stopped
      return .exited
  | .exited => return .exited
  | .deleted => return .deleted

/-- The program for one step, and the place it leads to. -/
def stepProg (host : ByteOrder) (kind : Kind) (pc : Pc) : Input → Prog Pc
  | .run env => runStep host kind env pc
  | .addNode env p socket => do
      addNode env p socket
      return pc
  | .stop => do
      setState .stopping
      return pc
  | .deleteMedium env => do
      deleteMedium env
      return .deleted

/-- A pointer and a socket for a new node: both are new. -/
def Medium.Fresh (m : Medium) (p : NodePtr) (socket : UInt64) : Prop :=
  m.nodes p = .unborn ∧ ∀ q n, m.nodes q = .live n → n.socket ≠ socket

/-- A list of events `epoll_wait` may report: at most as many as asked for, each of another
socket that is on the interest list. -/
structure Medium.Reportable (m : Medium) (evs : List PollEvent) : Prop where
  length_le : evs.length ≤ epollMaxEvents
  nodup : (evs.map PollEvent.data).Nodup
  interest : ∀ ev ∈ evs, ev.data = .unblocker ∨ ∃ p ∈ m.interest, ev.data = .node p

/-- The steps that may be taken from a place, and the answers the system may give. -/
def Sys.Enabled (s : Sys) : Input → Prop
  | .run env =>
      match s.pc with
      | .epollWait _ _ => ∀ evs, env.epollWait = .ready evs → s.med.Reportable evs
      | .checkNodeRegistrationTimeout => s.med.regListMap.Walk env.regListWalk
      | .exited => False
      | .deleted => False
      | _ => True
  | .addNode _ p socket => s.pc ≠ .deleted ∧ s.med.Fresh p socket
  | .stop => s.pc ≠ .deleted
  | .deleteMedium env =>
      s.pc = .exited ∧ s.med.regListMap.Walk env.regListWalk ∧
        s.med.nodeHashMap.Walk env.nodeHashWalk

/-- The step of a medium on an input.  When the thread stops, the medium is as it was then. -/
def Sys.step (host : ByteOrder) (kind : Kind) (s : Sys) (i : Input) :
    Except (Stop × Medium) Sys :=
  match stepProg host kind s.pc i s.med with
  | .ok pc med => .ok ⟨pc, med⟩
  | .error e med => .error (e, med)

/-- A medium, its thread and the main thread. -/
def medium (host : ByteOrder) (kind : Kind) : Machine Sys Input (Stop × Medium) where
  init s := s = ⟨.start, Medium.new⟩
  enabled := Sys.Enabled
  step := Sys.step host kind

/-- A place of a medium that has been reached without the medium being stopped. -/
def Running (host : ByteOrder) (kind : Kind) (s : Sys) : Prop :=
  (medium host kind).Reaches (fun s _ => s.med.state ≠ .stopping) s ∧ s.med.state ≠ .stopping

namespace Running

variable {host : ByteOrder} {kind : Kind}

theorem initial :
  Running host kind ⟨.start, Medium.new⟩
  := by
  refine ⟨⟨_, [], rfl, .nil _, ?_⟩, by simp [Medium.new]⟩
  intro v hv
  cases hv

theorem step {s s' : Sys} {i : Input} (h : Running host kind s) (henabled : s.Enabled i)
    (hstep : s.step host kind i = .ok s') (hrunning : s'.med.state ≠ .stopping) :
  Running host kind s'
  := ⟨h.1.step henabled h.2 hstep, hrunning⟩

theorem reachable {s : Sys} (h : Running host kind s) :
  (medium host kind).Reachable s
  := h.1.mono (fun _ _ _ => trivial)

end Running

end X6losim
