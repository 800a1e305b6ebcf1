import X6losim.Invariant.Outbound
import X6losim.NodeSim.Receiving
import X6losim.Sim.Clients

/-!
# Test programs and a medium

A test program makes the calls of its node one after the other, each with the simulator at the other
end of its socket.  `Stage` says how far its conversation with the simulator has come, and a program
is in step when it makes each call at a stage that admits it: it waits for every answer before it
goes on.  `sessions` is the machine of a medium and of programs that are in step, one for each node,
down to the bytes that they exchange.  A run is an `UndisturbedRun` when all data indications fit,
no call of `send` fails, and bytes come as they have been sent together.
-/

open Bytes Writes

namespace X6losim

namespace NodeSim

/-- The calls that a test program makes once it is connected. -/
inductive Call where
  | send (call : SendCall)
  | readMsg
  | mcastRxDataPacket
deriving DecidableEq, Repr

/-- How far the conversation of a test program with the simulator has come, as the program sees
it. -/
inductive Stage where
  /-- It has to be told its number. -/
  | invited
  /-- It has been told its number. -/
  | told
  /-- It has confirmed its registration, and waits for nothing. -/
  | joined
  /-- It waits for the answer to a clear channel assessment. -/
  | assessing
  /-- It waits for its transmission to be done. -/
  | sending
  /-- It waits for its deregistration to be confirmed. -/
  | leaving
  /-- It has been deregistered. -/
  | left
deriving DecidableEq, Repr

/-- The stage after a call, if the call is admitted. -/
def Stage.next : Stage → Call → Option Stage
  | .invited, .readMsg => some .told
  | .told, .send .sendRegCon => some .joined
  | .joined, .send .sendCcaReq => some .assessing
  | .joined, .send (.sendTxDataInd _) => some .sending
  | .joined, .send .sendDeregReq => some .leaving
  | .assessing, .readMsg => some .joined
  | .sending, .readMsg => some .joined
  | .leaving, .readMsg => some .left
  | stage, .mcastRxDataPacket => some stage
  | _, _ => none

/-- A program is in step from a stage on: its calls are admitted one after the other, and it does
not exit while it is transmitting. -/
def InStep : Stage → List Call → Prop
  | stage, [] => stage ≠ .sending
  | stage, call :: calls => ∃ stage', stage.next call = some stage' ∧ InStep stage' calls

/-- A data indication that the simulator takes for what it is, and whose frame the buffer of
`mcastRxDataPacket` has room for. -/
def TxDataInd.Fits (host : ByteOrder) (ind : TxDataInd) : Prop :=
  (SendCall.sendTxDataInd ind).Passes host ∧ DataInd.pktData + ind.psduLen.toNat ≤ 256

instance (host : ByteOrder) (ind : TxDataInd) : Decidable (ind.Fits host) :=
  inferInstanceAs (Decidable (_ ∧ _))

/-- The data indications of a program fit. -/
def Fitting (host : ByteOrder) (program : List Call) : Prop :=
  ∀ ind, .send (.sendTxDataInd ind) ∈ program → TxDataInd.Fits host ind

/-- A test program that is connected: its node, the calls it has still to make, what it has sent
that has not been read, message by message, the number of bytes it has received, and whether it has
exited. -/
structure Proc where
  node : NodeSim
  rest : List Call
  outbox : List (List UInt8)
  received : Nat
  closed : Bool

/-- A program that has just been connected. -/
def Proc.new (node : NodeSim) (program : List Call) : Proc where
  node
  rest := program
  outbox := []
  received := 0
  closed := false

/-- What the system does during a call of a program: what `malloc` holds, how many bytes of a
message `send` accepts, what is there for `recv`, and the datagram that is there for `recv` on the
multicast socket. -/
structure CallEnv where
  memory : Nat → UInt8
  accepted : Nat
  there : List UInt8
  datagram : List UInt8

/-- A program makes its next call.  It does not look at what `send` returns.  After the last call it
exits. -/
def Proc.call (host : ByteOrder) (env : CallEnv) (proc : Proc) : Except Failure Proc :=
  match proc.rest with
  | [] => .ok { proc with closed := true }
  | .send call :: rest =>
      .ok { proc with
        rest
        outbox := proc.outbox ++
          [(call.message host env.memory proc.node.nodeId).take env.accepted] }
  | .readMsg :: rest =>
      match proc.node.readMsg host (some env.there) with
      | .ok (node, _) =>
          .ok { proc with node, rest, received := proc.received + min 128 env.there.length }
      | .error f => .error f
  | .mcastRxDataPacket :: rest =>
      match mcastRxDataPacket host env.memory (.received env.datagram) with
      | .ok _ => .ok { proc with rest }
      | .error f => .error f

/-- What is left of messages when some bytes have been read. -/
def dropBytes : Nat → List (List UInt8) → List (List UInt8)
  | _, [] => []
  | n, msg :: msgs =>
      if n = 0 then msg :: msgs
      else if n < msg.length then msg.drop n :: msgs
      else dropBytes (n - msg.length) msgs

/-- Some of the bytes that a program has sent have been read. -/
def Proc.bytesRead (proc : Proc) (n : Nat) : Proc :=
  { proc with outbox := dropBytes n proc.outbox }

/-- The first message that a program has sent has been read. -/
def Proc.messageRead (proc : Proc) : Proc := { proc with outbox := proc.outbox.tail }

/-- The first message that a program has sent is there whole for both calls of `recv`. -/
def Proc.FirstWhole (proc : Proc) (ev : PollEvent) : Prop :=
  ∃ msg outbox more, proc.outbox = msg :: outbox ∧ ev.unread = msg ++ more ∧
    ev.delivery.Whole msg.length

theorem Proc.bytesRead_message {proc : Proc} {msg : List UInt8} {outbox : List (List UInt8)}
    (houtbox : proc.outbox = msg :: outbox) (hmsg : msg ≠ []) :
  proc.bytesRead msg.length = proc.messageRead
  := by
  have hlength : msg.length ≠ 0 := List.length_eq_zero_iff.not.mpr hmsg
  have hrest : dropBytes 0 outbox = outbox := by cases outbox <;> simp [dropBytes]
  simp [bytesRead, messageRead, houtbox, dropBytes, hlength, hrest]

end NodeSim

/-! ### The machine -/

open NodeSim

/-- A medium, and the test programs at the other ends of the sockets of its nodes. -/
structure Session where
  sys : Sys
  procs : NodePtr → Proc

/-- What is done in one step: a thread of the simulator goes on, or a program makes a call. -/
inductive SessionDeed where
  | thread (i : Input)
  | call (p : NodePtr) (env : CallEnv)

/-- What stops: a thread of the simulator, or a test program. -/
inductive SessionFault where
  | simulator (e : Stop) (m : Medium)
  | program (p : NodePtr) (f : Failure)

/-- How many bytes of the socket of a node a step of a medium reads. -/
def Sys.bytesFrom (host : ByteOrder) (s : Sys) (p : NodePtr) : Nat :=
  match s.pc, s.med.nodes p with
  | .poll _ (ev :: _), .live n =>
      ev.unread.length -
        match readMsgFrame host n.getNodeId ev.delivery ev.unread with
        | .ok _ rest => rest.length
        | .error _ rest => rest.length
  | _, _ => 0

namespace Session

variable (host : ByteOrder) (kind : Kind) (S : Sockets)

/-- What the simulator has sent to a program that the program has not received. -/
def unread (s : Session) (p : NodePtr) : List UInt8 :=
  (contents (S.writes host p s.sys.med.log)).drop (s.procs p).received

/-- The event of a node is reported as it is: its program has exited, or what is there is the
beginning of what the program has sent. -/
structure Reports (s : Session) (ev : PollEvent) (p : NodePtr) : Prop where
  closed : ev.rdhup → (s.procs p).closed
  sent : ev.unread <+: (s.procs p).outbox.flatten

/-- What may be done.  A program waits in `recv` until there is something, or until the simulator
has closed its socket and there is nothing left. -/
def Enabled (s : Session) : SessionDeed → Prop
  | .thread i =>
      s.sys.Enabled i ∧ (∀ env p socket, i = .addNode env p socket → socket = S.nodeId p) ∧
        S.Returns host (s.sys, i) ∧
        ∀ ph ev evs p, s.sys.pc = .poll ph (ev :: evs) → ev.data = .node p → s.Reports ev p
  | .call p env =>
      (s.procs p).closed = false ∧
        (∀ rest, (s.procs p).rest = .readMsg :: rest → env.there <+: s.unread host S p ∧
          (env.there ≠ [] ∨ s.unread host S p = [] ∧ s.sys.med.nodes p = .destroyed)) ∧
        ∀ rest, (s.procs p).rest = .mcastRxDataPacket :: rest →
          ∃ q k, .multicast q k env.datagram ∈ s.sys.med.log

/-- The programs when a step of the medium has been done. -/
def read (s : Session) (i : Input) (p : NodePtr) : Proc :=
  if s.sys.frameFrom i = some p then (s.procs p).bytesRead (s.sys.bytesFrom host p)
  else s.procs p

/-- A step of the medium or of a program. -/
def step (s : Session) : SessionDeed → Except SessionFault Session
  | .thread i =>
      match s.sys.step host kind i with
      | .ok sys => .ok ⟨sys, s.read host i⟩
      | .error (e, m) => .error (.simulator e m)
  | .call p env =>
      match (s.procs p).call host env with
      | .ok proc => .ok { s with procs := Function.update s.procs p proc }
      | .error f => .error (.program p f)

/-- What has been sent together comes together: where the simulator reads from a node, the first
message of its program is there whole; where a program sends a message, the whole of it is accepted;
and where it receives, all that has been sent to it is there. -/
def Whole (s : Session) : SessionDeed → Prop
  | .thread i => ∀ p, s.sys.frameFrom i = some p →
      ∀ ph ev evs, s.sys.pc = .poll ph (ev :: evs) → (s.procs p).FirstWhole ev
  | .call p env =>
      (∀ call rest, (s.procs p).rest = .send call :: rest →
        (call.message host env.memory (s.procs p).node.nodeId).length ≤ env.accepted) ∧
      ∀ rest, (s.procs p).rest = .readMsg :: rest → env.there = s.unread host S p

end Session

/-- A medium and test programs that are in step.  The node at each pointer has its own number, and
what `send` comes to on its socket is given. -/
def sessions (host : ByteOrder) (kind : Kind) (S : Sockets) :
    Machine Session SessionDeed SessionFault where
  init s := s.sys = ⟨.start, Medium.new⟩ ∧ ∀ p, ∃ node program,
    InStep .invited program ∧ s.procs p = Proc.new node program
  enabled := Session.Enabled host S
  step := Session.step host kind

/-- No call of `send` of the simulator fails. -/
def Sockets.NoneFails (S : Sockets) : Prop := ∀ p k, S.outcome p k ≠ .failed

namespace Sockets.NoneFails

variable {host : ByteOrder} {S : Sockets} {p : NodePtr}

/-- What is on the socket of a node are the messages that have been sent to it. -/
theorem contents_writes (h : S.NoneFails) (log : List Event) :
  contents (S.writes host p log)
    = ((sentTo p log).map (OutMsg.bytes host (S.nodeId p))).flatten
  := by
  rw [X6losim.contents_writes, Sockets.sends, sends_written (h p)]

end Sockets.NoneFails

/-- A run of a medium and test programs in step in which nothing disturbs their conversations. -/
structure UndisturbedRun (host : ByteOrder) (kind : Kind) (S : Sockets) (s₀ : Session)
    (visits : List (Session × SessionDeed)) (s : Session) : Prop where
  init : (sessions host kind S).init s₀
  run : (sessions host kind S).Run s₀ visits s
  /-- The data indications of all programs fit. -/
  fitting : ∀ p, Fitting host (s₀.procs p).rest
  /-- No call of `send` of the simulator fails. -/
  noneFails : S.NoneFails
  /-- What has been sent together comes together. -/
  whole : ∀ v ∈ visits, v.1.Whole host S v.2

namespace NodeSim

end NodeSim

end X6losim
