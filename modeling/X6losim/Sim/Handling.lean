import X6losim.Sim.Effect

/-!
# What the handlers of a node do

For each handler of a message the effect it has on the medium, and when it stops instead; from
these, what one event reported by the poller does.
-/

open Bytes

namespace X6losim

variable {m : Medium} {p : NodePtr} {n : DeviceNode}

/-! ### Registering and deregistering -/

theorem deregisterNode_ok (h : m.nodes p = .live n)
    (hmem : (m.regListMap n.socket).isSome ∨ (m.nodeHashMap n.socket).isSome) :
  deregisterNode p m = .ok () ((Effect.disconnect p n false).apply m)
  := by
  by_cases hreg : (m.regListMap n.socket).isSome
  · have hcount : m.regListMap.count n.socket = 1 := PMap.count_eq_one.mpr hreg
    have hlive : ({ m with regListMap := m.regListMap.erase n.socket } : Medium).nodes p
        = .live n := h
    simp [deregisterNode, deref_live h, DeviceNode.getNodeId, hcount, deleteNode_live hlive,
      Effect.apply, hreg]
  · have hcount : m.regListMap.count n.socket = 0 := by
      apply PMap.count_eq_zero.mpr
      simpa using hreg
    have hcount' : m.nodeHashMap.count n.socket = 1 :=
      PMap.count_eq_one.mpr (hmem.resolve_left hreg)
    have hlive : ({ m with
        regListMap := m.regListMap.erase n.socket
        nodeHashMap := m.nodeHashMap.erase n.socket } : Medium).nodes p = .live n := h
    simp [deregisterNode, deref_live h, DeviceNode.getNodeId, hcount, hcount',
      deleteNode_live hlive, Effect.apply, hreg]

theorem deregisterNode_error (h : m.nodes p = .live n) (hreg : m.regListMap n.socket = none)
    (hhash : m.nodeHashMap n.socket = none) :
  ∃ m', deregisterNode p m = .error (.assertion .deregisterNode) m'
  := by
  have hcount : m.regListMap.count n.socket = 0 := PMap.count_eq_zero.mpr hreg
  have hcount' : m.nodeHashMap.count n.socket = 0 := PMap.count_eq_zero.mpr hhash
  simp [deregisterNode, deref_live h, DeviceNode.getNodeId, hcount, hcount']

theorem handleDeregistrationRequest_eq (h : m.nodes p = .live n) :
  handleDeregistrationRequest p m = deregisterNode p (m.record [.sent p .deregCon])
  := by
  have hlive : (m.record [.sent p .deregCon]).nodes p = .live n := h
  cases hstate : n.curState <;>
    simp [handleDeregistrationRequest, send_live h, deref_live hlive, hstate]

theorem handleDeregistrationRequest_ok (h : m.nodes p = .live n)
    (hmem : (m.regListMap n.socket).isSome ∨ (m.nodeHashMap n.socket).isSome) :
  handleDeregistrationRequest p m = .ok () ((Effect.disconnect p n true).apply m)
  := by
  rw [handleDeregistrationRequest_eq h]
  apply (deregisterNode_ok (m := m.record [.sent p .deregCon]) h hmem).trans
  simp only [Effect.apply, Medium.record, Bool.false_eq_true, if_false, if_true, List.append_nil]
  rfl

theorem handleDeregistrationRequest_error (h : m.nodes p = .live n)
    (hreg : m.regListMap n.socket = none) (hhash : m.nodeHashMap n.socket = none) :
  ∃ m', handleDeregistrationRequest p m = .error (.assertion .deregisterNode) m'
  := by
  rw [handleDeregistrationRequest_eq h]
  exact deregisterNode_error (m := m.record [.sent p .deregCon]) h hreg hhash

/-- A registration confirm is taken by a registering node on the registration list map, refused
by an active or transmitting one, and stops the thread when the node is not on the map. -/
theorem handleRegistrationConfirm_eq {regCon os osVersion : List UInt8}
    (h : m.nodes p = .live n) (hos : strncpy regCon RegCon.os = .ok os)
    (hversion : strncpy regCon RegCon.osVersion = .ok osVersion) :
  handleRegistrationConfirm p regCon m =
    match n.curState with
    | .registering =>
        if (m.regListMap n.socket).isSome then
          .ok () ((Effect.confirm p n os osVersion).apply m)
        else .error (.assertion .registerNode) { m with
          nodes := Function.update m.nodes p (.live { n with
            os, osVersion, regTimer := { n.regTimer with started := false } })
          regListMap := m.regListMap.erase n.socket
          log := m.log ++ if n.regTimer.started then [.timerDelete p .regTimer] else [] }
    | .active =>
        .error (.exception "ActiveState: handleRegistrationConfirm")
          (m.putNode p { n with os, osVersion })
    | .tx =>
        .error (.exception "TxState: handleRegistrationConfirm")
          (m.putNode p { n with os, osVersion })
  := by
  cases hstate : n.curState with
  | registering =>
      have hstopped : n.regTimer.started = false →
          (⟨false, n.regTimer.itValue⟩ : DeviceNodeTimer) = n.regTimer := stop_not_started
      by_cases hstarted : n.regTimer.started
      all_goals
        by_cases hreg : (m.regListMap n.socket).isSome
        all_goals
          simp [handleRegistrationConfirm, deref_apply, h, hos, hversion, Medium.putNode, hstate,
            stopTimer, DeviceNode.timer, DeviceNode.setTimer, hstarted, registerNode, hstopped,
            DeviceNode.getNodeId, PMap.count, hreg, setCurState, Effect.apply, Medium.record]
  | active =>
      simp [handleRegistrationConfirm, deref_live h, hos, hversion, Medium.putNode, hstate]
  | tx =>
      simp [handleRegistrationConfirm, deref_live h, hos, hversion, Medium.putNode, hstate]

theorem handleCcaRequest_eq (h : m.nodes p = .live n) :
  handleCcaRequest p m =
    match n.curState with
    | .registering =>
        .error (.exception "RegisteringState: handleCcaRequest")
          ((Effect.request p n).apply m)
    | .active => .ok () ((Effect.request p n).apply m)
    | .tx => .ok () ((Effect.request p n).apply m)
  := by
  cases hstate : n.curState <;>
    simp [handleCcaRequest, deref_live h, hstate, Effect.apply, Medium.record]

/-! ### Transmitting -/

/-- The time the transmit timer is armed with. -/
def txTime (isAck : Bool) : Timespec := if isAck then ⟨0, 1⟩ else ⟨0, 4000000⟩

/-- A data indication is taken by an active node whose transmit timer is not started, if the
timer can be created and armed, and is refused by a registering or transmitting one. -/
theorem handleDataIndication_eq {host : ByteOrder} {env : Env} {dataInd : List UInt8}
    {pkt : NetSimPacket} {isAck : Bool} (h : m.nodes p = .live n)
    (hnew : NetSimPacket.new host m.nextPkt dataInd p = .ok pkt) (hack : pkt.isAck = .ok isAck) :
  let med : Medium := { m with nextPkt := m.nextPkt + 1, log := m.log ++ [.newPacket pkt.id] }
  let arming := med.putNode p { n with txTimer := { n.txTimer with itValue := txTime isAck } }
  handleDataIndication host env p dataInd m =
    match n.curState with
    | .registering => .error (.exception "RegisteringState: handleTxRequest") med
    | .active =>
        if n.txTimer.started then .error (.assertion (.timerStart .txTimer)) med
        else if env.nodeTimerCreate = false then
          .error (.exception "DeviceNodeTimer::start: failed to create timer") arming
        else if env.nodeTimerSettime = false then
          .error (.exception "DeviceNodeTimer::start: failed to arm timer")
            (arming.record [.timerCreate p .txTimer])
        else .ok () ((Effect.transmit p n pkt (txTime isAck)).apply m)
    | .tx => .error (.exception "TxState: handleCcaRequest") med
  := by
  intro med arming
  cases hstate : n.curState with
  | registering =>
      simp [handleDataIndication, hnew, deref_apply, h, hstate, Medium.record, med]
  | active =>
      cases isAck
      all_goals
        by_cases hstarted : n.txTimer.started
        all_goals
          cases hcreate : env.nodeTimerCreate
          all_goals
            cases hsettime : env.nodeTimerSettime
            all_goals
              simp [handleDataIndication, hnew, deref_apply, h, hstate, Medium.record, med, arming,
                handleTxRequest, hack, startTimerMs, NetSimPacket.getTimeOnWire, arm, setTxPacket,
                addNodeToTxList, setCurState, DeviceNode.timer, DeviceNode.setTimer, hcreate,
                hsettime, hstarted, Medium.putNode, txTime, Effect.apply]
  | tx =>
      simp [handleDataIndication, hnew, deref_apply, h, hstate, Medium.record, med]

/-- A sequence of two computations fails when the first does, or when the second does on the
result of the first. -/
theorem except_bind_error {ε α β : Type} {x : Except ε α} {f : α → Except ε β} {e : ε}
    (h : (x >>= f) = .error e) :
  x = .error e ∨ ∃ a, x = .ok a ∧ f a = .error e
  := by
  cases x with
  | error e' =>
      left
      cases h
      rfl
  | ok a =>
      right
      use a, rfl
      apply h

/-- A packet is as new when it is made from a data indication. -/
theorem NetSimPacket.new_ok {host : ByteOrder} {k : PktId} {dataInd : List UInt8}
    {pkt : NetSimPacket} (h : NetSimPacket.new host k dataInd p = .ok pkt) :
  pkt.id = k ∧ pkt.collision = false
  := by
  rw [NetSimPacket.new] at h
  cases hlen : Hdr.len.readNet host dataInd with
  | error e =>
      rw [hlen] at h
      cases h
  | ok len =>
      cases hread : Bytes.read Stop.outOfBounds dataInd 0 len with
      | error e =>
          rw [hlen] at h
          simp only [bind, Except.bind, hread] at h
          cases h
      | ok buf =>
          rw [hlen] at h
          simp only [bind, Except.bind, hread] at h
          cases h
          exact ⟨rfl, rfl⟩

/-- Reading a field fails only out of the bounds of the message. -/
theorem Field.readNet_error {f : Field} {host : ByteOrder} {msg : List UInt8} {e : Stop}
    (h : f.readNet host msg = .error e) :
  e = .outOfBounds
  := by
  by_cases hlen : f.offset + f.size ≤ msg.length
  · rw [Field.readNet_ok host hlen] at h
    cases h
  · rw [Field.readNet_outside host (lt_of_not_ge hlen)] at h
    cases h
    rfl

theorem read_error {buf : List UInt8} {offset count : Nat} {e : Stop}
    (h : Bytes.read .outOfBounds buf offset count = .error e) :
  e = .outOfBounds
  := by
  rw [Bytes.read] at h
  split at h
  · cases h
  · cases h
    rfl

theorem strncpy_error {msg : List UInt8} {f : Field} {e : Stop} (h : strncpy msg f = .error e) :
  e = .outOfBounds
  := by
  rw [strncpy] at h
  split at h
  · cases h
  · cases h
    rfl

theorem NetSimPacket.new_error {host : ByteOrder} {k : PktId} {dataInd : List UInt8} {e : Stop}
    (h : NetSimPacket.new host k dataInd p = .error e) :
  e = .outOfBounds
  := by
  rw [NetSimPacket.new] at h
  cases hlen : Hdr.len.readNet host dataInd with
  | error e' =>
      rw [hlen] at h
      cases h
      apply Field.readNet_error hlen
  | ok len =>
      cases hread : Bytes.read Stop.outOfBounds dataInd 0 len with
      | error e' =>
          rw [hlen] at h
          simp only [bind, Except.bind, hread] at h
          cases h
          apply read_error hread
      | ok buf =>
          rw [hlen] at h
          simp only [bind, Except.bind, hread] at h
          cases h

theorem NetSimPacket.isAck_error {pkt : NetSimPacket} {e : Stop} (h : pkt.isAck = .error e) :
  e = .outOfBounds
  := by
  rw [NetSimPacket.isAck] at h
  cases hread : Bytes.read Stop.outOfBounds pkt.pktBuffer 0 1 with
  | error e' =>
      rw [hread] at h
      cases h
      apply read_error hread
  | ok bytes =>
      rw [hread] at h
      cases h

/-! ### Messages -/

/-- The effect a handler has when it takes the message of a node. -/
inductive HandlerEffect (p : NodePtr) (n : DeviceNode) : Handler → Effect → Prop where
  | confirm (os osVersion : List UInt8) :
      HandlerEffect p n .handleRegistrationConfirm (.confirm p n os osVersion)
  | disconnect : HandlerEffect p n .handleDeregistrationRequest (.disconnect p n true)
  | request : HandlerEffect p n .handleCcaRequest (.request p n)
  | transmit (pkt : NetSimPacket) (itValue : Timespec) :
      HandlerEffect p n .handleDataIndication (.transmit p n pkt itValue)

/-- Why a handler stops the thread: the message is too short, the state of the node refuses it
or a timer fails, or an assertion does because the node is on no map or its timer is started. -/
inductive HandlerStop (m : Medium) (n : DeviceNode) : Handler → Stop → Prop where
  | outOfBounds (handler : Handler) : HandlerStop m n handler .outOfBounds
  | exception (handler : Handler) (text : String) : HandlerStop m n handler (.exception text)
  | registerNode : n.curState = .registering → m.regListMap n.socket = none →
      HandlerStop m n .handleRegistrationConfirm (.assertion .registerNode)
  | deregisterNode : m.regListMap n.socket = none → m.nodeHashMap n.socket = none →
      HandlerStop m n .handleDeregistrationRequest (.assertion .deregisterNode)
  | timerStart : n.curState = .active → n.txTimer.started →
      HandlerStop m n .handleDataIndication (.assertion (.timerStart .txTimer))

/-- What a handler does with the message of a node. -/
def HandlerResult (m : Medium) (p : NodePtr) (n : DeviceNode) (handler : Handler) :
    EStateM.Result Stop Medium Unit → Prop
  | .ok () m' => ∃ eff, HandlerEffect p n handler eff ∧ eff.Guard m ∧ m' = eff.apply m
  | .error e _ => HandlerStop m n handler e

theorem handleRegistrationConfirm_result (h : m.nodes p = .live n) (regCon : List UInt8) :
  HandlerResult m p n .handleRegistrationConfirm (handleRegistrationConfirm p regCon m)
  := by
  cases hos : strncpy regCon RegCon.os with
  | error e =>
      simp only [handleRegistrationConfirm, Exec.bind_apply, deref_live h, hos,
        Exec.ofExcept_error]
      rw [strncpy_error hos]
      apply HandlerStop.outOfBounds
  | ok os =>
      cases hversion : strncpy regCon RegCon.osVersion with
      | error e =>
          simp only [handleRegistrationConfirm, Exec.bind_apply, deref_live h, hos, hversion,
            Exec.ofExcept_ok, assign_apply, Exec.ofExcept_error]
          rw [strncpy_error hversion]
          apply HandlerStop.outOfBounds
      | ok osVersion =>
          rw [handleRegistrationConfirm_eq h hos hversion]
          cases hstate : n.curState with
          | registering =>
              simp only
              split
              · next hreg => exact ⟨_, .confirm os osVersion, ⟨h, hstate, hreg⟩, rfl⟩
              · next hreg =>
                  apply HandlerStop.registerNode hstate
                  simpa using hreg
          | active => apply HandlerStop.exception
          | tx => apply HandlerStop.exception

theorem handleDeregistrationRequest_result (h : m.nodes p = .live n) :
  HandlerResult m p n .handleDeregistrationRequest (handleDeregistrationRequest p m)
  := by
  by_cases hmem : (m.regListMap n.socket).isSome ∨ (m.nodeHashMap n.socket).isSome
  · rw [handleDeregistrationRequest_ok h hmem]
    exact ⟨_, .disconnect, ⟨h, hmem⟩, rfl⟩
  · obtain ⟨hreg, hhash⟩ := not_or.mp hmem
    have hreg' : m.regListMap n.socket = none := by simpa using hreg
    have hhash' : m.nodeHashMap n.socket = none := by simpa using hhash
    obtain ⟨m', herror⟩ := handleDeregistrationRequest_error h hreg' hhash'
    rw [herror]
    apply HandlerStop.deregisterNode hreg' hhash'

theorem handleCcaRequest_result (h : m.nodes p = .live n) :
  HandlerResult m p n .handleCcaRequest (handleCcaRequest p m)
  := by
  rw [handleCcaRequest_eq h]
  cases hstate : n.curState with
  | registering => apply HandlerStop.exception
  | active => exact ⟨_, .request, ⟨h, by simp [hstate]⟩, rfl⟩
  | tx => exact ⟨_, .request, ⟨h, by simp [hstate]⟩, rfl⟩

theorem handleDataIndication_result (h : m.nodes p = .live n) (host : ByteOrder) (env : Env)
    (dataInd : List UInt8) :
  HandlerResult m p n .handleDataIndication (handleDataIndication host env p dataInd m)
  := by
  cases hnew : NetSimPacket.new host m.nextPkt dataInd p with
  | error e =>
      simp only [handleDataIndication, Exec.bind_apply, Exec.get_apply, hnew, Exec.ofExcept_error]
      rw [NetSimPacket.new_error hnew]
      apply HandlerStop.outOfBounds
  | ok pkt =>
      obtain ⟨hid, hcollision⟩ := NetSimPacket.new_ok hnew
      cases hack : pkt.isAck with
      | error e =>
          cases hstate : n.curState with
          | registering =>
              simp only [handleDataIndication, Exec.bind_apply, Exec.get_apply, hnew,
                Exec.ofExcept_ok, Exec.modify_apply, record_apply, deref_apply, Medium.record, h,
                hstate, Exec.throw_apply]
              apply HandlerStop.exception
          | active =>
              simp only [handleDataIndication, Exec.bind_apply, Exec.get_apply, hnew,
                Exec.ofExcept_ok, Exec.modify_apply, record_apply, deref_apply, Medium.record, h,
                hstate, handleTxRequest, hack, Exec.ofExcept_error]
              rw [NetSimPacket.isAck_error hack]
              apply HandlerStop.outOfBounds
          | tx =>
              simp only [handleDataIndication, Exec.bind_apply, Exec.get_apply, hnew,
                Exec.ofExcept_ok, Exec.modify_apply, record_apply, deref_apply, Medium.record, h,
                hstate, Exec.throw_apply]
              apply HandlerStop.exception
      | ok isAck =>
          rw [handleDataIndication_eq h hnew hack]
          cases hstate : n.curState with
          | registering => apply HandlerStop.exception
          | active =>
              simp only
              split
              · next hstarted => apply HandlerStop.timerStart hstate hstarted
              · next hstarted =>
                  split
                  · apply HandlerStop.exception
                  · split
                    · apply HandlerStop.exception
                    · have hstopped : n.txTimer.started = false := by simpa using hstarted
                      exact ⟨_, .transmit pkt _, ⟨h, hstate, hstopped, hid, hcollision⟩, rfl⟩
          | tx => apply HandlerStop.exception

/-- What `readMsg` does when it calls a handler. -/
theorem callHandler_result (h : m.nodes p = .live n) (host : ByteOrder) (env : Env)
    (msg : List UInt8) (handler : Handler) :
  HandlerResult m p n handler (callHandler host env p msg handler m)
  := by
  cases handler with
  | handleRegistrationConfirm => apply handleRegistrationConfirm_result h
  | handleDeregistrationRequest => apply handleDeregistrationRequest_result h
  | handleCcaRequest => apply handleCcaRequest_result h
  | handleDataIndication => apply handleDataIndication_result h

/-! ### Reading a message -/

/-- Why `readMsg` stops before it calls a handler. -/
inductive ReadStop : Stop → Prop where
  | outOfBounds : ReadStop .outOfBounds
  | readMsgPrefix : ReadStop (.assertion .readMsgPrefix)
  | readMsgLength : ReadStop (.assertion .readMsgLength)
  | readMsgNodeId : ReadStop (.assertion .readMsgNodeId)

theorem checkMsg_error {host : ByteOrder} {nodeId : UInt64} {len : Nat} {msgData : List UInt8}
    {e : Stop} (h : checkMsg host nodeId len msgData = .error e) :
  ReadStop e
  := by
  have hread : ∀ (f : Field) (msg : List UInt8) {e : Stop},
      f.readNet host msg = .error e → ReadStop e := by
    intro f msg e he
    rw [Field.readNet_error he]
    apply ReadStop.outOfBounds
  have hwrite : ∀ (f : Field) (msg : List UInt8) (k : Nat) {e : Stop},
      f.writeNet host msg k = .error e → ReadStop e := by
    intro f msg k e he
    rw [Field.writeNet, Bytes.write] at he
    split at he
    · cases he
    · cases he
      apply ReadStop.outOfBounds
  rw [checkMsg] at h
  rcases except_bind_error h with h | ⟨rxCksum, -, h⟩
  · apply hread _ _ h
  rcases except_bind_error h with h | ⟨blank, -, h⟩
  · apply hwrite _ _ _ h
  rcases except_bind_error h with h | ⟨msg, -, h⟩
  · apply hwrite _ _ _ h
  rcases except_bind_error h with h | ⟨summed, -, h⟩
  · rw [read_error h]
    apply ReadStop.outOfBounds
  split at h
  · cases h
  rcases except_bind_error h with h | ⟨msgType, -, h⟩
  · apply hread _ _ h
  rcases except_bind_error h with h | ⟨interfaceVersion, -, h⟩
  · apply hread _ _ h
  rcases except_bind_error h with h | ⟨id, -, h⟩
  · apply hread _ _ h
  by_cases hid : id ≠ nodeId.toNat
  · simp only [if_pos hid] at h
    cases h
    apply ReadStop.readMsgNodeId
  · simp only [if_neg hid] at h
    split at h
    · cases h
    · split at h
      · cases h
      · cases h

theorem readMsgFrame_error {host : ByteOrder} {nodeId : UInt64} {d : Delivery}
    {unread rest : List UInt8} {e : Stop} (h : readMsgFrame host nodeId d unread = .error e rest) :
  ReadStop e
  := by
  have hrecv : ∀ available count unread, recv available count unread ≠ .error e rest := by
    intro available count unread hrecv
    cases available <;> cases hrecv
  rw [readMsgFrame] at h
  rcases Exec.bind_eq_error.mp h with h | ⟨⟨rv, word⟩, unread₁, -, h⟩
  · apply absurd h (hrecv _ _ _)
  simp only [Exec.ite_apply] at h
  split at h
  · cases h
  split at h
  · cases h
    apply ReadStop.readMsgPrefix
  split at h
  · cases h
    apply ReadStop.readMsgLength
  rw [readMsgBody] at h
  rcases Exec.bind_eq_error.mp h with h | ⟨⟨rv', msgData⟩, unread₂, -, h⟩
  · rw [recvInto] at h
    simp only [Exec.ite_apply] at h
    split at h
    · cases h
      apply ReadStop.outOfBounds
    · rcases Exec.bind_eq_error.mp h with h | ⟨_, _, -, h⟩
      · apply absurd h (hrecv _ _ _)
      · cases h
  · simp only [Exec.ite_apply] at h
    split at h
    · cases h
    · cases hcheck : checkMsg host nodeId (host.ntoh 2 (host.load word)) msgData with
      | ok r =>
          rw [hcheck] at h
          cases h
      | error e' =>
          rw [hcheck] at h
          cases h
          apply checkMsg_error hcheck

/-- What `readMsg` does for a node, in terms of the frame it finds. -/
theorem readMsg_eq (h : m.nodes p = .live n) (host : ByteOrder) (env : Env) (d : Delivery)
    (unread : List UInt8) :
  readMsg host env p d unread m =
    match readMsgFrame host n.getNodeId d unread with
    | .error e _ => .error e m
    | .ok .failedRead rest => .ok rest ((Effect.failedRead p n).apply m)
    | .ok .dropped rest => .ok rest m
    | .ok (.call handler msg) rest =>
        match callHandler host env p msg handler m with
        | .ok () m' => .ok rest m'
        | .error e m' => .error e m'
  := by
  rw [readMsg, Exec.bind_apply, deref_live h]
  cases hframe : readMsgFrame host n.getNodeId d unread with
  | error e rest => simp [hframe]
  | ok r rest =>
      cases r with
      | failedRead => simp [hframe, Effect.apply]
      | dropped => simp [hframe]
      | call handler msg =>
          cases hcall : callHandler host env p msg handler m <;> simp [hframe, hcall]

/-! ### Events -/

/-- The effect of an event reported for the socket of a node. -/
inductive PollEffect (host : ByteOrder) (ev : PollEvent) (p : NodePtr) (n : DeviceNode) :
    Effect → Prop where
  | closed : ev.rdhup → PollEffect host ev p n (.disconnect p n false)
  | failedRead (rest : List UInt8) : ¬ ev.rdhup → ev.input →
      readMsgFrame host n.getNodeId ev.delivery ev.unread = .ok .failedRead rest →
      PollEffect host ev p n (.failedRead p n)
  | handled (handler : Handler) (msg rest : List UInt8) (eff : Effect) : ¬ ev.rdhup → ev.input →
      readMsgFrame host n.getNodeId ev.delivery ev.unread = .ok (.call handler msg) rest →
      HandlerEffect p n handler eff → PollEffect host ev p n eff

/-- An event of a node adds no node. -/
theorem PollEffect.not_add {host : ByteOrder} {ev : PollEvent} {eff : Effect}
    (h : PollEffect host ev p n eff) (q : NodePtr) (socket : UInt64) :
  eff ≠ .add q socket
  := by
  rintro rfl
  cases h with
  | handled handler msg rest eff hrdhup hinput hframe heff => cases heff

/-- Why an event reported for the socket of a node stops the thread. -/
inductive PollStop (host : ByteOrder) (m : Medium) (ev : PollEvent) (n : DeviceNode) :
    Stop → Prop where
  | closed : ev.rdhup → m.regListMap n.socket = none → m.nodeHashMap n.socket = none →
      PollStop host m ev n (.assertion .deregisterNode)
  | read (e : Stop) : ¬ ev.rdhup → ev.input → ReadStop e → PollStop host m ev n e
  | handled (handler : Handler) (msg rest : List UInt8) (e : Stop) : ¬ ev.rdhup → ev.input →
      readMsgFrame host n.getNodeId ev.delivery ev.unread = .ok (.call handler msg) rest →
      HandlerStop m n handler e → PollStop host m ev n e

/-- What an event reported for the socket of a node does. -/
def PollResult (host : ByteOrder) (m : Medium) (ev : PollEvent) (p : NodePtr) (n : DeviceNode) :
    EStateM.Result Stop Medium Bool → Prop
  | .ok goOn m' => goOn = true ∧
      (m' = m ∨ ∃ eff, PollEffect host ev p n eff ∧ eff.Guard m ∧ m' = eff.apply m)
  | .error e _ => PollStop host m ev n e

/-- The close of the socket of a node deregisters the node. -/
theorem processPollerEvent_closed {ev : PollEvent} (hdata : ev.data = .node p)
    (hrdhup : ev.rdhup) (host : ByteOrder) (env : Env) :
  processPollerEvent host env ev m =
    match deregisterNode p m with
    | .ok () m' => .ok true m'
    | .error e m' => .error e m'
  := by
  rw [processPollerEvent, if_pos hrdhup, hdata]
  cases hderegister : deregisterNode p m <;> simp [hderegister]

/-- The bytes a node has sent are read. -/
theorem processPollerEvent_input {ev : PollEvent} (hdata : ev.data = .node p)
    (hrdhup : ¬ ev.rdhup) (hinput : ev.input) (host : ByteOrder) (env : Env) :
  processPollerEvent host env ev m =
    match readMsg host env p ev.delivery ev.unread m with
    | .ok _ m' => .ok true m'
    | .error e m' => .error e m'
  := by
  rw [processPollerEvent, if_neg hrdhup, if_pos hinput, hdata]
  cases hread : readMsg host env p ev.delivery ev.unread m <;> simp [hread]

/-- What an event reported for the socket of a node does. -/
theorem processPollerEvent_node {ev : PollEvent} (h : m.nodes p = .live n)
    (hdata : ev.data = .node p) (host : ByteOrder) (env : Env) :
  PollResult host m ev p n (processPollerEvent host env ev m)
  := by
  by_cases hrdhup : ev.rdhup
  · rw [processPollerEvent_closed hdata hrdhup]
    by_cases hmem : (m.regListMap n.socket).isSome ∨ (m.nodeHashMap n.socket).isSome
    · rw [deregisterNode_ok h hmem]
      use rfl
      right
      exact ⟨_, .closed hrdhup, ⟨h, hmem⟩, rfl⟩
    · obtain ⟨hreg, hhash⟩ := not_or.mp hmem
      have hreg' : m.regListMap n.socket = none := by simpa using hreg
      have hhash' : m.nodeHashMap n.socket = none := by simpa using hhash
      obtain ⟨m', herror⟩ := deregisterNode_error h hreg' hhash'
      rw [herror]
      apply PollStop.closed hrdhup hreg' hhash'
  · by_cases hinput : ev.input
    · rw [processPollerEvent_input hdata hrdhup hinput, readMsg_eq h]
      cases hframe : readMsgFrame host n.getNodeId ev.delivery ev.unread with
      | error e rest => apply PollStop.read e hrdhup hinput (readMsgFrame_error hframe)
      | ok r rest =>
          cases r with
          | failedRead =>
              use rfl
              right
              exact ⟨_, .failedRead rest hrdhup hinput hframe, h, rfl⟩
          | dropped =>
              use rfl
              left
              rfl
          | call handler msg =>
              have hresult := callHandler_result h host env msg handler
              cases hcall : callHandler host env p msg handler m with
              | ok u m' =>
                  rw [hcall] at hresult
                  obtain ⟨eff, heff, hguard, happly⟩ := hresult
                  simp only [hcall]
                  use rfl
                  right
                  exact ⟨eff, .handled handler msg rest eff hrdhup hinput hframe heff, hguard,
                    happly⟩
              | error e m' =>
                  rw [hcall] at hresult
                  simp only [hcall]
                  apply PollStop.handled handler msg rest e hrdhup hinput hframe hresult
    · rw [processPollerEvent, if_neg hrdhup, if_neg hinput]
      use rfl
      left
      rfl

/-- An event of the unblocker stops the medium, if anything is reported for it. -/
theorem processPollerEvent_unblocker {ev : PollEvent} (hdata : ev.data = .unblocker)
    (host : ByteOrder) (env : Env) :
  processPollerEvent host env ev m = .ok true m ∨
    processPollerEvent host env ev m = .ok false { m with state := .stopping }
  := by
  rw [processPollerEvent, hdata]
  split
  · right
    rfl
  · split
    · right
      rfl
    · left
      rfl

end X6losim
