import X6losim.Sim.Loop

/-!
# The effects of a thread on a medium

An `Effect` is what one piece of work does to a medium when it does not stop, as one change of
the state: `Effect.Guard` says when it can happen and `Effect.apply` what it does.
-/

open Bytes

namespace X6losim

/-- A node with its packet marked as collided. -/
def DeviceNode.collide (n : DeviceNode) : DeviceNode :=
  { n with txPkt := n.txPkt.map (fun pkt => { pkt with collision := true }) }

/-- A node, if there is one, with its packet marked as collided. -/
def NodeCell.collide : NodeCell → NodeCell
  | .live n => .live n.collide
  | c => c

/-- A node that has been told to register. -/
def DeviceNode.registering (socket : UInt64) : DeviceNode :=
  { DeviceNode.new socket with regTimer := ⟨true, ⟨registrationTime, 0⟩⟩ }

/-- The result of the transmission of a packet. -/
def NetSimPacket.result (pkt : NetSimPacket) : Int :=
  if pkt.collision then txDoneCollided else txDoneOk

/-- The effects of a thread on a medium. -/
inductive Effect where
  /-- A read of a node is counted as failed. -/
  | failedRead (p : NodePtr) (n : DeviceNode)
  /-- A node confirms its registration. -/
  | confirm (p : NodePtr) (n : DeviceNode) (os osVersion : List UInt8)
  /-- A node is deregistered, and told so if it has asked for it. -/
  | disconnect (p : NodePtr) (n : DeviceNode) (asked : Bool)
  /-- A node asks for a clear channel assessment. -/
  | request (p : NodePtr) (n : DeviceNode)
  /-- A node starts to transmit a packet. -/
  | transmit (p : NodePtr) (n : DeviceNode) (pkt : NetSimPacket) (itValue : Timespec)
  /-- The first node on the clear channel assessment list gets its answer. -/
  | answer (p : NodePtr) (rest : List NodePtr)
  /-- The packets of all transmitting nodes collide. -/
  | collide
  /-- The transmission of the node at a place of the transmit list ends; `buf` is multicast if
  it has succeeded. -/
  | conclude (i : Nat) (p : NodePtr) (n : DeviceNode) (pkt : NetSimPacket) (buf : List UInt8)
  /-- A node that has not confirmed its registration in time is deleted. -/
  | expire (key : UInt64) (p : NodePtr) (n : DeviceNode)
  /-- A node on one of the maps is deleted with the medium. -/
  | dispose (map : MapName) (key : UInt64) (p : NodePtr) (n : DeviceNode)
  /-- A node is added. -/
  | add (p : NodePtr) (socket : UInt64)

/-- The events of the deletion of a node. -/
def deleteEvents (p : NodePtr) (n : DeviceNode) : List Event :=
  (if n.regTimer.started then [.timerDelete p .regTimer] else []) ++ [.deleteNode p]

/-- The events of the end of a transmission. -/
def concludeEvents (p : NodePtr) (pkt : NetSimPacket) (buf : List UInt8) : List Event :=
  [.timerDelete p .txTimer, .sent p (.txDoneInd pkt.result)] ++
    (if pkt.collision then [] else [.multicast p pkt.id buf]) ++
    [.deletePacket pkt.id, .txLeave p]

/-- The counters after the end of a transmission. -/
def TxStats.conclude (stats : TxStats) (pkt : NetSimPacket) : TxStats :=
  if pkt.collision then { stats with txPktsCollided := stats.txPktsCollided + 1 }
  else { stats with txPktsOk := stats.txPktsOk + 1 }

/-- The medium without a node. -/
def Medium.delete (m : Medium) (p : NodePtr) (n : DeviceNode) : Medium :=
  { m with
    nodes := Function.update m.nodes p .destroyed
    interest := m.interest.erase p
    log := m.log ++ deleteEvents p n }

/-- What an effect does to a medium. -/
def Effect.apply (m : Medium) : Effect → Medium
  | .failedRead p n => m.putNode p { n with failedReads := n.failedReads + 1 }
  | .confirm p n os osVersion =>
      { m with
        nodes := Function.update m.nodes p (.live { n with
          os, osVersion, curState := .active, regTimer := { n.regTimer with started := false } })
        regListMap := m.regListMap.erase n.socket
        nodeHashMap := m.nodeHashMap.insert n.socket p
        log := m.log ++ if n.regTimer.started then [.timerDelete p .regTimer] else [] }
  | .disconnect p n asked =>
      Medium.delete { m with
        regListMap := m.regListMap.erase n.socket
        nodeHashMap :=
          if (m.regListMap n.socket).isSome then m.nodeHashMap
          else m.nodeHashMap.erase n.socket
        log := m.log ++ if asked then [.sent p .deregCon] else [] } p n
  | .request p _ => { m with ccaList := m.ccaList ++ [p], log := m.log ++ [.ccaRequest p] }
  | .transmit p n pkt itValue =>
      { m with
        nodes := Function.update m.nodes p (.live { n with
          txTimer := ⟨true, itValue⟩, txPkt := some pkt, curState := .tx })
        txList := m.txList ++ [p]
        nextPkt := m.nextPkt + 1
        log := m.log ++ [.newPacket pkt.id, .timerCreate p .txTimer, .txEnter p (some pkt.id),
          .dataIndication p pkt.id] }
  | .answer p rest =>
      { m with
        ccaList := rest
        log := m.log ++ [.sent p (.ccaCon (m.state = .idle))] }
  | .collide =>
      { m with nodes := fun p => if p ∈ m.txList then (m.nodes p).collide else m.nodes p }
  | .conclude i p n pkt buf =>
      { m with
        nodes := Function.update m.nodes p (.live { n with
          txTimer := { n.txTimer with started := false }, txPkt := none, curState := .active })
        txList := m.txList.eraseIdx i
        stats := m.stats.conclude pkt
        log := m.log ++ concludeEvents p pkt buf }
  | .expire key p n => Medium.delete { m with regListMap := m.regListMap.erase key } p n
  | .dispose map key p n => Medium.delete (m.eraseKey map key) p n
  | .add p socket =>
      { m with
        nodes := Function.update m.nodes p (.live (DeviceNode.registering socket))
        regListMap := m.regListMap.insert socket p
        interest := m.interest ++ [p]
        log := m.log ++ [.newNode p, .sent p .regReq, .timerCreate p .regTimer] }

/-- The events an effect adds to the log of a medium. -/
def Effect.events (m : Medium) : Effect → List Event
  | .failedRead _ _ => []
  | .confirm p n _ _ => if n.regTimer.started then [.timerDelete p .regTimer] else []
  | .disconnect p n asked => (if asked then [.sent p .deregCon] else []) ++ deleteEvents p n
  | .request p _ => [.ccaRequest p]
  | .transmit p _ pkt _ =>
      [.newPacket pkt.id, .timerCreate p .txTimer, .txEnter p (some pkt.id),
        .dataIndication p pkt.id]
  | .answer p _ => [.sent p (.ccaCon (m.state = .idle))]
  | .collide => []
  | .conclude _ p _ pkt buf => concludeEvents p pkt buf
  | .expire _ p n => deleteEvents p n
  | .dispose _ _ p n => deleteEvents p n
  | .add p _ => [.newNode p, .sent p .regReq, .timerCreate p .regTimer]

/-- When an effect can happen. -/
def Effect.Guard (m : Medium) : Effect → Prop
  | .failedRead p n => m.nodes p = .live n
  | .confirm p n _ _ =>
      m.nodes p = .live n ∧ n.curState = .registering ∧ (m.regListMap n.socket).isSome
  | .disconnect p n _ =>
      m.nodes p = .live n ∧
        ((m.regListMap n.socket).isSome ∨ (m.nodeHashMap n.socket).isSome)
  | .request p n => m.nodes p = .live n ∧ n.curState ≠ .registering
  | .transmit p n pkt _ =>
      m.nodes p = .live n ∧ n.curState = .active ∧ n.txTimer.started = false ∧
        pkt.id = m.nextPkt ∧ pkt.collision = false
  | .answer p rest => m.ccaList = p :: rest ∧ ∃ n, m.nodes p = .live n
  | .collide => 1 < m.txList.length ∧
      ∀ p ∈ m.txList, ∃ n pkt, m.nodes p = .live n ∧ n.txPkt = some pkt
  | .conclude i p n pkt _ =>
      m.txList[i]? = some p ∧ m.nodes p = .live n ∧ n.curState = .tx ∧ n.txPkt = some pkt ∧
        n.txTimer.started
  | .expire key p n =>
      m.regListMap key = some p ∧ m.nodes p = .live n ∧ n.socket = key ∧
        n.curState = .registering ∧ n.regTimer.started
  | .dispose map key p n => m.map map key = some p ∧ m.nodes p = .live n ∧ n.socket = key
  | .add _ _ => True

/-- A sequence of effects, each of which can happen. -/
inductive Effects : Medium → List Effect → Medium → Prop where
  | nil (m : Medium) : Effects m [] m
  | cons {m m' : Medium} {eff : Effect} {effs : List Effect} :
      eff.Guard m → Effects (eff.apply m) effs m' → Effects m (eff :: effs) m'

theorem eraseKey_log (m : Medium) (map : MapName) (key : UInt64) :
  (m.eraseKey map key).log = m.log
  := by
  cases map <;> rfl

/-- The log after an effect. -/
theorem Effect.log_apply (m : Medium) (eff : Effect) :
  (eff.apply m).log = m.log ++ eff.events m
  := by
  cases eff with
  | disconnect p n asked => simp [Effect.apply, Medium.delete, Effect.events]
  | dispose map key p n => simp [Effect.apply, Medium.delete, Effect.events, eraseKey_log]
  | _ => simp [Effect.apply, Medium.putNode, Medium.delete, Effect.events]

/-! ### Messages -/

/-- The message an event sends to a node. -/
def Event.msgTo (p : NodePtr) : Event → Option OutMsg
  | .sent q msg => if q = p then some msg else none
  | _ => none

/-- The messages sent to a node, in order. -/
def sentTo (p : NodePtr) (log : List Event) : List OutMsg := log.filterMap (Event.msgTo p)

theorem sentTo_append (p : NodePtr) (log es : List Event) :
  sentTo p (log ++ es) = sentTo p log ++ sentTo p es
  := List.filterMap_append ..

/-- A node that is there after an update is the updated one, or has been there before. -/
theorem live_of_update {nodes : NodePtr → NodeCell} {p q : NodePtr} {c : NodeCell} {n : DeviceNode}
    (h : Function.update nodes p c q = .live n) :
  q = p ∧ c = .live n ∨ q ≠ p ∧ nodes q = .live n
  := by
  by_cases hq : q = p
  · left
    subst hq
    rw [Function.update_self] at h
    exact ⟨rfl, h⟩
  · right
    rw [Function.update_of_ne hq] at h
    exact ⟨hq, h⟩

/-- The deletion of a node deletes its timer, if it is started, and the node. -/
theorem mem_deleteEvents {e : Event} {p : NodePtr} {n : DeviceNode} (he : e ∈ deleteEvents p n) :
  e = .timerDelete p .regTimer ∨ e = .deleteNode p
  := by
  rcases List.mem_append.mp he with he | he
  · left
    split at he
    · apply List.mem_singleton.mp he
    · cases he
  · right
    apply List.mem_singleton.mp he

/-- The deletion of a node sends no messages. -/
theorem sentTo_deleteEvents (p q : NodePtr) (n : DeviceNode) :
  sentTo q (deleteEvents p n) = []
  := by
  cases hstarted : n.regTimer.started <;> simp [sentTo, deleteEvents, hstarted, Event.msgTo]

/-! ### Nodes and timers -/

section

variable {m : Medium} {p : NodePtr} {n : DeviceNode}

theorem deref_apply (p : NodePtr) (m : Medium) :
  deref p m = match m.nodes p with
    | .live n => .ok n m
    | .unborn => .error (.noObject p) m
    | .destroyed => .error (.noObject p) m
  := by
  cases h : m.nodes p <;> simp [deref, h]

theorem deref_live (h : m.nodes p = .live n) :
  deref p m = .ok n m
  := by
  rw [deref_apply, h]

/-- A pointer that leads to no node cannot be followed. -/
theorem deref_gone (h : ∀ n, m.nodes p ≠ .live n) :
  deref p m = .error (.noObject p) m
  := by
  rw [deref_apply]
  cases hcell : m.nodes p with
  | live n => apply absurd hcell (h n)
  | unborn => rfl
  | destroyed => rfl

@[simp]
theorem assign_apply (p : NodePtr) (n : DeviceNode) (m : Medium) :
  assign p n m = .ok () (m.putNode p n)
  := rfl

@[simp]
theorem record_apply (e : Event) (m : Medium) :
  record e m = .ok () (m.record [e])
  := rfl

@[simp]
theorem putNode_nodes_self (m : Medium) (p : NodePtr) (n : DeviceNode) :
  (m.putNode p n).nodes p = .live n
  := by
  simp [Medium.putNode]

theorem send_live (h : m.nodes p = .live n) (msg : OutMsg) :
  send p msg m = .ok () (m.record [.sent p msg])
  := by
  simp [send, deref_live h]

/-- Stopping a timer that is not started changes nothing. -/
theorem stop_not_started {timer : DeviceNodeTimer} (h : timer.started = false) :
  { timer with started := false } = timer
  := by
  rw [← h]

theorem stopTimer_live (h : m.nodes p = .live n) (t : TimerName) :
  stopTimer p t m = .ok ()
    (if (n.timer t).started then
      (m.record [.timerDelete p t]).putNode p (n.setTimer t { n.timer t with started := false })
    else m)
  := by
  simp only [stopTimer, Exec.bind_apply, deref_live h, Exec.ite_apply]
  split
  · simp
  · simp

theorem deleteNode_live (h : m.nodes p = .live n) :
  deleteNode p m = .ok () (m.delete p n)
  := by
  simp only [deleteNode, Exec.bind_apply, stopTimer_live h]
  by_cases hstarted : n.regTimer.started
  · simp [hstarted, DeviceNode.timer, Medium.record, Medium.putNode, Medium.delete, deleteEvents]
  · simp [hstarted, DeviceNode.timer, Medium.record, Medium.delete, deleteEvents]

/-- The timer of a node has expired, by the answer of the system. -/
def Env.Expired (env : Env) (p : NodePtr) : Prop := env.nodeTimerGettime p = some ⟨0, 0⟩

theorem timerExpired_eq {env : Env} {t : TimerName} (h : m.nodes p = .live n) :
  timerExpired env p t m =
    if (n.timer t).started = false then .error (.assertion (.timerExpired t)) m
    else match env.nodeTimerGettime p with
      | none => .error (.exception "DeviceNodeTimer: failed to get time") m
      | some left => .ok (left = ⟨0, 0⟩) m
  := by
  rw [timerExpired, Exec.bind_apply, deref_live h]
  simp only [Exec.ite_apply, Exec.bind_apply]
  split
  · rfl
  · cases env.nodeTimerGettime p with
    | none => rfl
    | some left =>
        obtain ⟨sec, nsec⟩ := left
        simp

end

end X6losim
