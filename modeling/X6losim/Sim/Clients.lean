import X6losim.Sim.HandlerError
import X6losim.Sim.Run

/-!
# The clients of a medium

At the other end of the socket of a node is a client.  What it sends waits to be read by the medium,
and what the medium sends waits to be received by it.  The clients here keep to the protocol: they
register first and once, and they neither start a transmission, nor deregister, nor close their
socket while one of their transmissions is not done as far as they know.
-/

open Bytes

namespace X6losim

/-- A client, by what it has sent and received.  Its messages are named by their handlers. -/
structure Client where
  /-- The frames it has sent that have not been read. -/
  outbox : List (Handler × List UInt8)
  /-- Whether it has confirmed its registration. -/
  confirmed : Bool
  /-- How many data indications it has sent. -/
  dataInds : Nat
  /-- How many messages it has received. -/
  received : Nat
  closed : Bool
deriving DecidableEq, Repr

/-- The indication that a transmission is done. -/
def OutMsg.isTxDone : OutMsg → Bool
  | .txDoneInd _ => true
  | _ => false

namespace Client

/-- A client that has done nothing. -/
def new : Client where
  outbox := []
  confirmed := false
  dataInds := 0
  received := 0
  closed := false

/-- How many of its transmissions are done, as far as a client knows. -/
def txDones (c : Client) (sent : List OutMsg) : Nat :=
  (sent.take c.received).countP OutMsg.isTxDone

/-- Every data indication of a client has been answered, and the client has received the answer. -/
def Answered (c : Client) (sent : List OutMsg) : Prop := c.dataInds ≤ c.txDones sent

/-- A client that keeps to the protocol may send a message. -/
def MaySend (c : Client) (sent : List OutMsg) : Handler → Prop
  | .handleRegistrationConfirm => c.confirmed = false
  | .handleDeregistrationRequest => c.confirmed ∧ c.Answered sent
  | .handleCcaRequest => c.confirmed
  | .handleDataIndication => c.confirmed ∧ c.Answered sent

/-- A client sends a message. -/
def send (c : Client) (handler : Handler) (frame : List UInt8) : Client :=
  { c with
    outbox := c.outbox ++ [(handler, frame)]
    confirmed := c.confirmed || handler = .handleRegistrationConfirm
    dataInds := c.dataInds + if handler = .handleDataIndication then 1 else 0 }

/-- A client receives a message. -/
def receive (c : Client) : Client := { c with received := c.received + 1 }

/-- A client closes its socket. -/
def close (c : Client) : Client := { c with closed := true }

/-- The first frame a client has sent is read. -/
def frameRead (c : Client) : Client := { c with outbox := c.outbox.tail }

end Client

/-! ### Clients and a medium -/

/-- A medium and its clients, each named by the pointer to its node. -/
structure Net where
  sys : Sys
  clients : NodePtr → Client

/-- What is done in one step: a thread of the simulator goes on, or a client does something. -/
inductive Deed where
  | thread (i : Input)
  | send (p : NodePtr) (handler : Handler) (frame : List UInt8)
  | receive (p : NodePtr)
  | close (p : NodePtr)

def Input.CallsSucceed : Input → Prop
  | .run env => env.CallsSucceed
  | .addNode env _ _ => env.CallsSucceed
  | .stop => True
  | .deleteMedium _ => True

/-- The node whose frame a step of a medium reads. -/
def Sys.frameFrom (s : Sys) : Input → Option NodePtr
  | .run _ =>
      match s.pc with
      | .poll _ (ev :: _) =>
          if ev.rdhup then none
          else if ev.input then
            match ev.data with
            | .node p => some p
            | _ => none
          else none
      | _ => none
  | _ => none

/-- An event of the socket of a client is reported as it is: the socket has been closed, or the
frame that has been sent first is there, and dispatched as it was sent. -/
structure Client.Reported (host : ByteOrder) (c : Client) (ev : PollEvent) (n : DeviceNode) :
    Prop where
  closed : ev.rdhup → c.closed
  dispatched : ¬ ev.rdhup → ev.input → ∃ handler frame outbox rest,
    c.outbox = (handler, frame) :: outbox ∧
      readMsgFrame host n.getNodeId ev.delivery ev.unread
        = .ok (.call handler (blankCksum frame)) rest

namespace Net

/-- The messages a medium has sent to a client. -/
def sent (s : Net) (p : NodePtr) : List OutMsg := sentTo p s.sys.med.log

/-- The event processed in a step of the medium is reported as it is. -/
def Reported (host : ByteOrder) (s : Net) : Prop :=
  ∀ ph ev evs p n, s.sys.pc = .poll ph (ev :: evs) → ev.data = .node p →
    s.sys.med.nodes p = .live n → (s.clients p).Reported host ev n

/-- The steps that may be taken. -/
def Enabled (host : ByteOrder) (s : Net) : Deed → Prop
  | .thread i => s.sys.Enabled i ∧ i.CallsSucceed ∧ s.Reported host
  | .send p handler _ =>
      (s.clients p).closed = false ∧ (s.clients p).MaySend (s.sent p) handler
  | .receive p => (s.clients p).closed = false ∧ (s.clients p).received < (s.sent p).length
  | .close p => (s.clients p).closed = false ∧ (s.clients p).Answered (s.sent p)

/-- The clients when a step of the medium has been done. -/
def read (s : Net) (i : Input) (p : NodePtr) : Client :=
  if s.sys.frameFrom i = some p then (s.clients p).frameRead else s.clients p

/-- A client is changed. -/
def setClient (s : Net) (p : NodePtr) (c : Client) : Net :=
  { s with clients := Function.update s.clients p c }

/-- The step of a medium or of a client. -/
def step (host : ByteOrder) (kind : Kind) (s : Net) : Deed → Except (Stop × Medium) Net
  | .thread i =>
      match s.sys.step host kind i with
      | .ok sys => .ok ⟨sys, s.read i⟩
      | .error e => .error e
  | .send p handler frame => .ok (s.setClient p ((s.clients p).send handler frame))
  | .receive p => .ok (s.setClient p (s.clients p).receive)
  | .close p => .ok (s.setClient p (s.clients p).close)

end Net

/-- A medium and clients that keep to the protocol. -/
def exchange (host : ByteOrder) (kind : Kind) : Machine Net Deed (Stop × Medium) where
  init s := s.sys = ⟨.start, Medium.new⟩ ∧ ∀ p, s.clients p = Client.new
  enabled := Net.Enabled host
  step := Net.step host kind

/-! ### What a state takes -/

/-- The messages that a node takes from a state on, one after the other, and the state it is in
then, which is none when it has been deregistered.  A node that transmits does not wait for the end
of its transmission to take them. -/
inductive Takes : NodeState → List Handler → Option NodeState → Prop where
  | nil (state : NodeState) : Takes state [] (some state)
  | regCon {msgs : List Handler} {view : Option NodeState} : Takes .active msgs view →
      Takes .registering (.handleRegistrationConfirm :: msgs) view
  | ccaReq {state : NodeState} {msgs : List Handler} {view : Option NodeState} :
      state ≠ .registering → Takes state msgs view →
      Takes state (.handleCcaRequest :: msgs) view
  | dataInd {msgs : List Handler} {view : Option NodeState} : Takes .tx msgs view →
      Takes .active (.handleDataIndication :: msgs) view
  | deregReq {state : NodeState} (msgs : List Handler) : state ≠ .tx →
      Takes state (.handleDeregistrationRequest :: msgs) none

namespace Takes

variable {state state' : NodeState} {msgs msgs' : List Handler} {view : Option NodeState}
  {handler : Handler}

/-- A node takes messages, and then others. -/
theorem append (h : Takes state msgs (some state')) (h' : Takes state' msgs' view) :
  Takes state (msgs ++ msgs') view
  := by
  generalize hend : some state' = last at h
  induction h with
  | nil state =>
      cases hend
      apply h'
  | regCon _ ih => apply Takes.regCon (ih hend)
  | ccaReq hstate _ ih => apply Takes.ccaReq hstate (ih hend)
  | dataInd _ ih => apply Takes.dataInd (ih hend)
  | deregReq => cases hend

/-- What comes after a deregistration is not taken. -/
theorem append_none (h : Takes state msgs none) (msgs' : List Handler) :
  Takes state (msgs ++ msgs') none
  := by
  generalize hend : none = last at h
  induction h with
  | nil => cases hend
  | regCon _ ih => apply Takes.regCon (ih hend)
  | ccaReq hstate _ ih => apply Takes.ccaReq hstate (ih hend)
  | dataInd _ ih => apply Takes.dataInd (ih hend)
  | deregReq msgs hstate => apply Takes.deregReq _ hstate

/-- A message that is taken is not refused. -/
theorem not_refused (h : Takes state (handler :: msgs) view) :
  state.refusal handler = none
  := by
  cases h with
  | regCon => rfl
  | ccaReq hstate =>
      cases state with
      | registering => apply absurd rfl hstate
      | active => rfl
      | tx => rfl
  | dataInd => rfl
  | deregReq => cases state <;> rfl

/-- A node that transmits takes messages that keep it so, and would take them if its transmission
had ended. -/
theorem txDone (h : Takes .tx msgs view) :
  view = some .tx ∧ Takes .active msgs (some .active)
  := by
  generalize hstate : NodeState.tx = state at h
  induction h with
  | nil =>
      rw [← hstate]
      exact ⟨rfl, .nil _⟩
  | regCon => cases hstate
  | ccaReq _ _ ih =>
      obtain ⟨hview, hactive⟩ := ih hstate
      exact ⟨hview, .ccaReq (by simp) hactive⟩
  | dataInd => cases hstate
  | deregReq _ hne => apply absurd hstate.symm hne

end Takes

end X6losim
