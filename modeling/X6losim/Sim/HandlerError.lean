import X6losim.Sim.Handling

/-!
# How a handler stops

The state object of a node refuses some messages by an exception.  `HandlerError` lists how a
handler of a message can stop: its message is refused or too short, a timer cannot be started, or
an assertion fails.  In most cases it has done something to the medium before.
-/

open Bytes

namespace X6losim

variable {host : ByteOrder} {env : Env} {m m' : Medium} {p : NodePtr} {n : DeviceNode}
  {msg : List UInt8} {text : String} {e : Stop}

/-- The exception a state object throws when it refuses a message. -/
def NodeState.refusal : NodeState → Handler → Option String
  | .registering, .handleCcaRequest => some "RegisteringState: handleCcaRequest"
  | .registering, .handleDataIndication => some "RegisteringState: handleTxRequest"
  | .active, .handleRegistrationConfirm => some "ActiveState: handleRegistrationConfirm"
  | .tx, .handleRegistrationConfirm => some "TxState: handleRegistrationConfirm"
  | .tx, .handleDataIndication => some "TxState: handleCcaRequest"
  | _, _ => none

/-- The medium when a packet has been made from a data indication. -/
def Medium.takePacket (m : Medium) : Medium :=
  { m with nextPkt := m.nextPkt + 1, log := m.log ++ [.newPacket m.nextPkt] }

/-- The node when its transmit timer is about to be created. -/
def DeviceNode.setTxTime (n : DeviceNode) (isAck : Bool) : DeviceNode :=
  { n with txTimer := { n.txTimer with itValue := txTime isAck } }

/-- How a handler stops, and the medium it leaves then. -/
inductive HandlerError (host : ByteOrder) (env : Env) (m : Medium) (p : NodePtr) (n : DeviceNode)
    (msg : List UInt8) : Handler → Stop → Medium → Prop where
  /-- A registration confirm ends within the first name. -/
  | os {e : Stop} : strncpy msg RegCon.os = .error e →
      HandlerError host env m p n msg .handleRegistrationConfirm .outOfBounds m
  /-- It ends within the second one. -/
  | osVersion {os : List UInt8} {e : Stop} : strncpy msg RegCon.os = .ok os →
      strncpy msg RegCon.osVersion = .error e →
      HandlerError host env m p n msg .handleRegistrationConfirm .outOfBounds
        (m.putNode p { n with os })
  /-- It is refused. -/
  | regCon {os osVersion : List UInt8} {text : String} : strncpy msg RegCon.os = .ok os →
      strncpy msg RegCon.osVersion = .ok osVersion →
      n.curState.refusal .handleRegistrationConfirm = some text →
      HandlerError host env m p n msg .handleRegistrationConfirm (.exception text)
        (m.putNode p { n with os, osVersion })
  /-- The node is not on the registration list map. -/
  | registerNode {m' : Medium} : n.curState = .registering → m.regListMap n.socket = none →
      HandlerError host env m p n msg .handleRegistrationConfirm (.assertion .registerNode) m'
  /-- The node is on no map. -/
  | deregisterNode {m' : Medium} : m.regListMap n.socket = none → m.nodeHashMap n.socket = none →
      HandlerError host env m p n msg .handleDeregistrationRequest (.assertion .deregisterNode) m'
  /-- A clear channel assessment request is refused. -/
  | ccaReq {text : String} : n.curState.refusal .handleCcaRequest = some text →
      HandlerError host env m p n msg .handleCcaRequest (.exception text)
        ((Effect.request p n).apply m)
  /-- A data indication says that it is longer than it is. -/
  | packet {e : Stop} : NetSimPacket.new host m.nextPkt msg p = .error e →
      HandlerError host env m p n msg .handleDataIndication .outOfBounds m
  /-- It is refused. -/
  | dataInd {pkt : NetSimPacket} {text : String} :
      NetSimPacket.new host m.nextPkt msg p = .ok pkt →
      n.curState.refusal .handleDataIndication = some text →
      HandlerError host env m p n msg .handleDataIndication (.exception text) m.takePacket
  /-- Its packet is empty. -/
  | isAck {pkt : NetSimPacket} {e : Stop} : NetSimPacket.new host m.nextPkt msg p = .ok pkt →
      n.curState = .active → pkt.isAck = .error e →
      HandlerError host env m p n msg .handleDataIndication .outOfBounds m.takePacket
  /-- The transmit timer of the node is started. -/
  | timerStart {pkt : NetSimPacket} : NetSimPacket.new host m.nextPkt msg p = .ok pkt →
      n.curState = .active → n.txTimer.started →
      HandlerError host env m p n msg .handleDataIndication (.assertion (.timerStart .txTimer))
        m.takePacket
  /-- The timer cannot be created. -/
  | create {pkt : NetSimPacket} (isAck : Bool) :
      NetSimPacket.new host m.nextPkt msg p = .ok pkt → n.curState = .active →
      n.txTimer.started = false → env.nodeTimerCreate = false →
      HandlerError host env m p n msg .handleDataIndication
        (.exception "DeviceNodeTimer::start: failed to create timer")
        (m.takePacket.putNode p (n.setTxTime isAck))
  /-- The timer cannot be armed. -/
  | arm {pkt : NetSimPacket} (isAck : Bool) :
      NetSimPacket.new host m.nextPkt msg p = .ok pkt → n.curState = .active →
      n.txTimer.started = false → env.nodeTimerCreate → env.nodeTimerSettime = false →
      HandlerError host env m p n msg .handleDataIndication
        (.exception "DeviceNodeTimer::start: failed to arm timer")
        ((m.takePacket.putNode p (n.setTxTime isAck)).record [.timerCreate p .txTimer])

/-- A state other than the registering one refuses registration confirms. -/
theorem refusal_regCon {state : NodeState} (hstate : state ≠ .registering) :
  ∃ text, state.refusal .handleRegistrationConfirm = some text
  := by
  cases state with
  | registering => apply absurd rfl hstate
  | active => exact ⟨_, rfl⟩
  | tx => exact ⟨_, rfl⟩

/-- What a refused registration confirm does. -/
theorem handleRegistrationConfirm_refused {os osVersion : List UInt8} (h : m.nodes p = .live n)
    (hos : strncpy msg RegCon.os = .ok os) (hversion : strncpy msg RegCon.osVersion = .ok osVersion)
    (hrefusal : n.curState.refusal .handleRegistrationConfirm = some text) :
  handleRegistrationConfirm p msg m
    = .error (.exception text) (m.putNode p { n with os, osVersion })
  := by
  rw [handleRegistrationConfirm_eq h hos hversion]
  split
  · next hstate =>
      rw [hstate] at hrefusal
      cases hrefusal
  · next hstate =>
      rw [hstate] at hrefusal
      cases hrefusal
      rfl
  · next hstate =>
      rw [hstate] at hrefusal
      cases hrefusal
      rfl

theorem handleRegistrationConfirm_error (h : m.nodes p = .live n)
    (herror : handleRegistrationConfirm p msg m = .error e m') :
  HandlerError host env m p n msg .handleRegistrationConfirm e m'
  := by
  cases hos : strncpy msg RegCon.os with
  | error e' =>
      simp only [handleRegistrationConfirm, Exec.bind_apply, deref_live h, hos,
        Exec.ofExcept_error] at herror
      cases herror
      rw [strncpy_error hos]
      apply HandlerError.os hos
  | ok os =>
      cases hversion : strncpy msg RegCon.osVersion with
      | error e' =>
          simp only [handleRegistrationConfirm, Exec.bind_apply, deref_live h, hos, hversion,
            Exec.ofExcept_ok, assign_apply, Exec.ofExcept_error] at herror
          cases herror
          rw [strncpy_error hversion]
          apply HandlerError.osVersion hos hversion
      | ok osVersion =>
          by_cases hstate : n.curState = .registering
          · rw [handleRegistrationConfirm_eq h hos hversion, hstate] at herror
            simp only at herror
            split at herror
            · cases herror
            · next hreg =>
                cases herror
                apply HandlerError.registerNode hstate (by simpa using hreg)
          · obtain ⟨text, hrefusal⟩ := refusal_regCon hstate
            rw [handleRegistrationConfirm_refused h hos hversion hrefusal] at herror
            cases herror
            apply HandlerError.regCon hos hversion hrefusal

theorem handleDeregistrationRequest_stops (h : m.nodes p = .live n)
    (herror : handleDeregistrationRequest p m = .error e m') :
  HandlerError host env m p n msg .handleDeregistrationRequest e m'
  := by
  have hresult := handleDeregistrationRequest_result h
  rw [herror] at hresult
  by_cases hmem : (m.regListMap n.socket).isSome ∨ (m.nodeHashMap n.socket).isSome
  · rw [handleDeregistrationRequest_ok h hmem] at herror
    cases herror
  · obtain ⟨hreg, hhash⟩ := not_or.mp hmem
    have hreg' : m.regListMap n.socket = none := by simpa using hreg
    have hhash' : m.nodeHashMap n.socket = none := by simpa using hhash
    obtain ⟨m₁, hstop⟩ := handleDeregistrationRequest_error h hreg' hhash'
    rw [hstop] at herror
    cases herror
    apply HandlerError.deregisterNode hreg' hhash'

theorem handleCcaRequest_error (h : m.nodes p = .live n)
    (herror : handleCcaRequest p m = .error e m') :
  HandlerError host env m p n msg .handleCcaRequest e m'
  := by
  rw [handleCcaRequest_eq h] at herror
  split at herror
  · next hstate =>
      cases herror
      apply HandlerError.ccaReq
      rw [hstate]
      rfl
  · cases herror
  · cases herror

/-- A data indication that the state of the node refuses is refused whatever is in it. -/
theorem handleDataIndication_refused {pkt : NetSimPacket} (h : m.nodes p = .live n)
    (hnew : NetSimPacket.new host m.nextPkt msg p = .ok pkt)
    (hrefusal : n.curState.refusal .handleDataIndication = some text) :
  handleDataIndication host env p msg m = .error (.exception text) m.takePacket
  := by
  have hid := (NetSimPacket.new_ok hnew).1
  cases hstate : n.curState with
  | registering =>
      rw [hstate] at hrefusal
      cases hrefusal
      simp [handleDataIndication, hnew, deref_apply, h, hstate, Medium.record, Medium.takePacket,
        hid]
  | active =>
      rw [hstate] at hrefusal
      cases hrefusal
  | tx =>
      rw [hstate] at hrefusal
      cases hrefusal
      simp [handleDataIndication, hnew, deref_apply, h, hstate, Medium.record, Medium.takePacket,
        hid]

theorem handleDataIndication_error (h : m.nodes p = .live n)
    (herror : handleDataIndication host env p msg m = .error e m') :
  HandlerError host env m p n msg .handleDataIndication e m'
  := by
  cases hnew : NetSimPacket.new host m.nextPkt msg p with
  | error e' =>
      simp only [handleDataIndication, Exec.bind_apply, Exec.get_apply, hnew,
        Exec.ofExcept_error] at herror
      cases herror
      rw [NetSimPacket.new_error hnew]
      apply HandlerError.packet hnew
  | ok pkt =>
      cases hrefusal : n.curState.refusal .handleDataIndication with
      | some text =>
          rw [handleDataIndication_refused h hnew hrefusal] at herror
          cases herror
          apply HandlerError.dataInd hnew hrefusal
      | none =>
          have hstate : n.curState = .active := by
            cases hstate : n.curState <;> rw [hstate] at hrefusal <;> first | rfl | cases hrefusal
          have hid := (NetSimPacket.new_ok hnew).1
          cases hack : pkt.isAck with
          | error e' =>
              simp only [handleDataIndication, Exec.bind_apply, Exec.get_apply, hnew,
                Exec.ofExcept_ok, Exec.modify_apply, record_apply, deref_apply, Medium.record, h,
                hstate, handleTxRequest, hack, Exec.ofExcept_error, hid] at herror
              cases herror
              rw [NetSimPacket.isAck_error hack]
              apply HandlerError.isAck hnew hstate hack
          | ok isAck =>
              rw [handleDataIndication_eq h hnew hack, hid] at herror
              split at herror
              · next hother =>
                  rw [hstate] at hother
                  cases hother
              · split at herror
                · next hstarted =>
                    cases herror
                    apply HandlerError.timerStart hnew hstate hstarted
                · next hstarted =>
                    have hstopped : n.txTimer.started = false := by simpa using hstarted
                    split at herror
                    · next hcreate =>
                        cases herror
                        exact .create isAck hnew hstate hstopped hcreate
                    · next hcreate =>
                        split at herror
                        · next hsettime =>
                            cases herror
                            exact .arm isAck hnew hstate hstopped
                              (by simpa using hcreate) hsettime
                        · cases herror
              · next hother =>
                  rw [hstate] at hother
                  cases hother

/-- How a handler called by `readMsg` stops. -/
theorem callHandler_error {handler : Handler} (h : m.nodes p = .live n)
    (herror : callHandler host env p msg handler m = .error e m') :
  HandlerError host env m p n msg handler e m'
  := by
  cases handler with
  | handleRegistrationConfirm => apply handleRegistrationConfirm_error h herror
  | handleDeregistrationRequest => apply handleDeregistrationRequest_stops h herror
  | handleCcaRequest => apply handleCcaRequest_error h herror
  | handleDataIndication => apply handleDataIndication_error h herror

/-- How an event of a node stops the thread, and the medium it leaves. -/
inductive EventError (host : ByteOrder) (env : Env) (m : Medium) (ev : PollEvent) (p : NodePtr)
    (n : DeviceNode) : Stop → Medium → Prop where
  /-- The socket of a node that is on no map has been closed. -/
  | closed {m' : Medium} : ev.rdhup → m.regListMap n.socket = none →
      m.nodeHashMap n.socket = none → EventError host env m ev p n (.assertion .deregisterNode) m'
  /-- `readMsg` stops before it calls a handler. -/
  | read {e : Stop} {rest : List UInt8} : ¬ ev.rdhup → ev.input →
      readMsgFrame host n.getNodeId ev.delivery ev.unread = .error e rest →
      EventError host env m ev p n e m
  /-- The handler it calls stops. -/
  | handled {handler : Handler} {msg rest : List UInt8} {e : Stop} {m' : Medium} :
      ¬ ev.rdhup → ev.input →
      readMsgFrame host n.getNodeId ev.delivery ev.unread = .ok (.call handler msg) rest →
      HandlerError host env m p n msg handler e m' → EventError host env m ev p n e m'

/-- How an event of a node stops the thread. -/
theorem processPollerEvent_error {ev : PollEvent} (h : m.nodes p = .live n)
    (hdata : ev.data = .node p) (herror : processPollerEvent host env ev m = .error e m') :
  EventError host env m ev p n e m'
  := by
  by_cases hrdhup : ev.rdhup
  · rw [processPollerEvent_closed hdata hrdhup] at herror
    by_cases hmem : (m.regListMap n.socket).isSome ∨ (m.nodeHashMap n.socket).isSome
    · rw [deregisterNode_ok h hmem] at herror
      cases herror
    · obtain ⟨hreg, hhash⟩ := not_or.mp hmem
      have hreg' : m.regListMap n.socket = none := by simpa using hreg
      have hhash' : m.nodeHashMap n.socket = none := by simpa using hhash
      obtain ⟨m₁, hstop⟩ := deregisterNode_error h hreg' hhash'
      rw [hstop] at herror
      cases herror
      apply EventError.closed hrdhup hreg' hhash'
  · by_cases hinput : ev.input
    · rw [processPollerEvent_input hdata hrdhup hinput, readMsg_eq h] at herror
      cases hframe : readMsgFrame host n.getNodeId ev.delivery ev.unread with
      | error e' rest =>
          simp only [hframe] at herror
          cases herror
          apply EventError.read hrdhup hinput hframe
      | ok r rest =>
          cases r with
          | failedRead => simp [hframe] at herror
          | dropped => simp [hframe] at herror
          | call handler msg =>
              cases hcall : callHandler host env p msg handler m with
              | ok u m₁ => simp [hframe, hcall] at herror
              | error e' m₁ =>
                  simp [hframe, hcall] at herror
                  obtain ⟨rfl, rfl⟩ := herror
                  apply EventError.handled hrdhup hinput hframe (callHandler_error h hcall)
    · rw [processPollerEvent, if_neg hrdhup, if_neg hinput] at herror
      cases herror

end X6losim
