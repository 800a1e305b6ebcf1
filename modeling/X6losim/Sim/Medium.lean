import X6losim.Lib.Exec
import X6losim.Lib.PMap
import X6losim.Sim.Node
import X6losim.Wire.ReadMsg

/-!
# The state of a medium

`Medium` is what `PhysicalMedium_pimpl` keeps, together with the nodes its pointers lead to
and a log of what has been done: the messages sent, the packets given to `sendto`, the nodes,
timers and packets created and deleted, and the nodes put on a list or taken off.  Parts of a
thread are programs over it, of type `Prog`.
-/

open Bytes

namespace X6losim

/-- `enum PhysicalMediumState`. -/
inductive PhysicalMediumState where
  | stopped
  | idle
  | tx802514Frame
  | stopping
deriving DecidableEq, Repr

/-- The messages sent to a node. -/
inductive OutMsg where
  | regReq
  | deregCon
  | ccaCon (result : Bool)
  | txDoneInd (result : Int)
deriving DecidableEq, Repr

/-- What a thread of the simulator does, as it is logged. -/
inductive Event where
  | newNode (p : NodePtr)
  | deleteNode (p : NodePtr)
  | timerCreate (p : NodePtr) (t : TimerName)
  | timerDelete (p : NodePtr) (t : TimerName)
  | newPacket (k : PktId)
  | deletePacket (k : PktId)
  | sent (p : NodePtr) (msg : OutMsg)
  | multicast (p : NodePtr) (k : PktId) (buf : List UInt8)
  | interval (waitms : Nat)
  | ccaRequest (p : NodePtr)
  | dataIndication (p : NodePtr) (k : PktId)
  | txEnter (p : NodePtr) (k : Option PktId)
  | txLeave (p : NodePtr)
deriving DecidableEq, Repr

/-- The counters of transmissions. -/
structure TxStats where
  txPktsOk : Nat
  txPktsCollided : Nat
  txPktsFailed : Nat
deriving DecidableEq, Repr

/-- The state of a medium.  The hash maps and lists hold pointers to nodes, and so does the
interest list of the poller, which has the sockets of nodes added to it. -/
structure Medium where
  state : PhysicalMediumState
  curTime : Timespec
  nodeHashMap : PMap UInt64 NodePtr
  regListMap : PMap UInt64 NodePtr
  ccaList : List NodePtr
  txList : List NodePtr
  stats : TxStats
  interest : List NodePtr
  nodes : NodePtr → NodeCell
  nextPkt : PktId
  log : List Event

/-- A medium that has been constructed. -/
def Medium.new : Medium where
  state := .stopped
  curTime := ⟨0, 0⟩
  nodeHashMap := PMap.empty
  regListMap := PMap.empty
  ccaList := []
  txList := []
  stats := ⟨0, 0, 0⟩
  interest := []
  nodes := fun _ => .unborn
  nextPkt := 0
  log := []

/-- What the data of a poll event points to. -/
inductive PollData where
  | unblocker
  | node (p : NodePtr)
  | null
deriving DecidableEq, Repr

/-- An event reported by `epoll_wait`, and what the socket of its node has for `readMsg`. -/
structure PollEvent where
  data : PollData
  rdhup : Bool
  input : Bool
  delivery : Delivery
  unread : List UInt8

/-- What `epoll_wait` comes to: it fails, is interrupted by a signal, or reports events, none
when its time is up. -/
inductive EpollWait where
  | failed
  | interrupted
  | ready (evs : List PollEvent)

/-- What the system answers to the calls made during one step of a thread. -/
structure Env where
  /-- `clock_gettime`, or none when it fails. -/
  clockGettime : Option Timespec
  /-- Whether `timer_settime` arms the timer of the medium. -/
  timerSettime : Bool
  /-- `epoll_wait`. -/
  epollWait : EpollWait
  /-- `timer_gettime` of the timer of the medium. -/
  timerGettime : Option Timespec
  /-- Whether `timer_create` creates the timer of a node. -/
  nodeTimerCreate : Bool
  /-- Whether `timer_settime` arms the timer of a node. -/
  nodeTimerSettime : Bool
  /-- `timer_gettime` of the timer of a node. -/
  nodeTimerGettime : NodePtr → Option Timespec
  /-- What `sendMsg` returns for the registration request. -/
  sendMsg : Int
  /-- Whether `epoll_ctl` adds a socket. -/
  epollCtl : Bool
  /-- The order in which `regListMap` is walked. -/
  regListWalk : List UInt64
  /-- The order in which `nodeHashMap` is walked. -/
  nodeHashWalk : List UInt64

/-- The answers of a system on which no call fails, nothing is reported and no time is up. -/
def Env.calm : Env where
  clockGettime := some ⟨0, 0⟩
  timerSettime := true
  epollWait := .ready []
  timerGettime := some ⟨0, 0⟩
  nodeTimerCreate := true
  nodeTimerSettime := true
  nodeTimerGettime := fun _ => some ⟨1, 0⟩
  sendMsg := Hdr.size
  epollCtl := true
  regListWalk := []
  nodeHashWalk := []

/-- The calls about the timers of nodes, and the sending of registration requests, succeed. -/
structure Env.CallsSucceed (env : Env) : Prop where
  nodeTimerCreate : env.nodeTimerCreate
  nodeTimerSettime : env.nodeTimerSettime
  nodeTimerGettime : ∀ p, env.nodeTimerGettime p ≠ none
  sendMsg : env.sendMsg = Hdr.size

theorem calm_callsSucceed :
  Env.calm.CallsSucceed
  := ⟨rfl, rfl, by simp [Env.calm], rfl⟩

/-- A part of a thread that works on a medium. -/
abbrev Prog := EStateM Stop Medium

/-- The two hash maps of a medium. -/
inductive MapName where
  | regListMap
  | nodeHashMap
deriving DecidableEq, Repr

namespace Medium

/-- A hash map of a medium. -/
def map (m : Medium) : MapName → PMap UInt64 NodePtr
  | .regListMap => m.regListMap
  | .nodeHashMap => m.nodeHashMap

/-- The medium with an entry erased from one of its maps. -/
def eraseKey (m : Medium) (map : MapName) (key : UInt64) : Medium :=
  match map with
  | .regListMap => { m with regListMap := m.regListMap.erase key }
  | .nodeHashMap => { m with nodeHashMap := m.nodeHashMap.erase key }

/-- The medium with a node at a pointer. -/
def putNode (m : Medium) (p : NodePtr) (n : DeviceNode) : Medium :=
  { m with nodes := Function.update m.nodes p (.live n) }

/-- The medium with events added to its log. -/
def record (m : Medium) (es : List Event) : Medium := { m with log := m.log ++ es }

end Medium

/-- Log an event. -/
def record (e : Event) : Prog Unit := modify (fun m => m.record [e])

/-- The node a pointer leads to. -/
def deref (p : NodePtr) : Prog DeviceNode := do
  let m ← get
  match m.nodes p with
  | .live n => return n
  | .unborn => throw (.noObject p)
  | .destroyed => throw (.noObject p)

/-- Change the node a pointer leads to. -/
def assign (p : NodePtr) (n : DeviceNode) : Prog Unit := modify (fun m => m.putNode p n)

/-- The packet a node holds. -/
def derefTxPkt (n : DeviceNode) : Prog NetSimPacket :=
  match n.txPkt with
  | some pkt => return pkt
  | none => throw .nullPointer

/-- Send a message to a node. -/
def send (p : NodePtr) (msg : OutMsg) : Prog Unit := do
  let _ ← deref p
  record (.sent p msg)

/-! ### Timers -/

/-- The common end of the two functions `DeviceNodeTimer::start`. -/
def arm (env : Env) (p : NodePtr) (t : TimerName) (itValue : Timespec) : Prog Unit := do
  let n ← deref p
  assign p (n.setTimer t { n.timer t with itValue })
  if env.nodeTimerCreate = false then
    throw (.exception "DeviceNodeTimer::start: failed to create timer")
  record (.timerCreate p t)
  if env.nodeTimerSettime = false then
    throw (.exception "DeviceNodeTimer::start: failed to arm timer")
  assign p (n.setTimer t ⟨true, itValue⟩)

/-- `DeviceNodeTimer::start()`. -/
def startTimer (env : Env) (p : NodePtr) (t : TimerName) : Prog Unit := do
  let n ← deref p
  if (n.timer t).started then
    throw (.assertion (.timerStart t))
  arm env p t (n.timer t).itValue

/-- `DeviceNodeTimer::start(int ms)`. -/
def startTimerMs (env : Env) (p : NodePtr) (t : TimerName) (ms : Nat) : Prog Unit := do
  let n ← deref p
  if (n.timer t).started then
    throw (.assertion (.timerStart t))
  if ms = 0 then
    arm env p t ⟨0, 1⟩
  else
    arm env p t ⟨ms / 1000, ms % 1000 * 1000000⟩

/-- `DeviceNodeTimer::stop`. -/
def stopTimer (p : NodePtr) (t : TimerName) : Prog Unit := do
  let n ← deref p
  if (n.timer t).started then
    record (.timerDelete p t)
    assign p (n.setTimer t { n.timer t with started := false })

/-- `DeviceNodeTimer::expired`. -/
def timerExpired (env : Env) (p : NodePtr) (t : TimerName) : Prog Bool := do
  let n ← deref p
  if (n.timer t).started = false then
    throw (.assertion (.timerExpired t))
  match env.nodeTimerGettime p with
  | none => throw (.exception "DeviceNodeTimer: failed to get time")
  | some left => return left.tvSec = 0 ∧ left.tvNsec = 0

end X6losim
