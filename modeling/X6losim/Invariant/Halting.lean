import X6losim.Invariant.Polling
import X6losim.Invariant.Registration
import X6losim.Invariant.Transmit
import X6losim.Sim.HandlerError
import X6losim.Sim.Packet

/-!
# How a medium halts

`Halt` lists how a step of a medium that is in order can stop a thread, and the medium it leaves
then.  `halt_of_halts` says that these are all.
-/

open Bytes

namespace X6losim

variable {host : ByteOrder} {kind : Kind} {env : Env} {m m' : Medium} {p : NodePtr}
  {n : DeviceNode} {e : Stop} {i : Nat} {pkt : NetSimPacket}

/-- What every step of a medium keeps. -/
structure Orderly (s : Sys) : Prop where
  lifecycle : Lifecycle s.med
  consistent : TxConsistent s.med
  waiting : Waiting s

namespace Orderly

theorem initial :
  Orderly ⟨.start, Medium.new⟩
  where
  lifecycle := .initial
  consistent := .initial
  waiting := .initial

theorem next {s s' : Sys} {i : Input} (h : Orderly s) (hnext : Next host kind s i s') :
  Orderly s'
  where
  lifecycle := h.lifecycle.next hnext
  consistent := h.consistent.next (txNext_of_next hnext)
  waiting := h.waiting.next hnext

theorem reachable {s : Sys} (h : (medium host kind).Reachable s) :
  Orderly s
  := by
  apply h.invariant
  · rintro s rfl
    apply Orderly.initial
  · intro s s' i hs henabled hstep
    apply hs.next (next_of_step henabled hstep)

/-- The node of an event that waits is there. -/
theorem event {ph : Phase} {ev : PollEvent} {evs : List PollEvent}
    (h : Orderly ⟨.poll ph (ev :: evs), m⟩) :
  ev.data = .unblocker ∨ ∃ p n, ev.data = .node p ∧ m.nodes p = .live n
  := by
  rcases h.waiting.events rfl ev (List.mem_cons_self ..) with hdata | ⟨p, hp, hdata⟩
  · left
    apply hdata
  · right
    obtain ⟨n, hlive⟩ := h.lifecycle.interest hp
    exact ⟨p, n, hdata, hlive⟩

end Orderly

/-! ### The relay of a packet -/

/-- A node that has been told that its transmission has succeeded. -/
def DeviceNode.txDone (n : DeviceNode) (pkt : NetSimPacket) : DeviceNode :=
  { n with
    txTimer := { n.txTimer with started := false }
    txPkt := some { pkt with txDoneResult := txDoneOk }
    curState := .active }

/-- The medium when a node has been told that its transmission has succeeded. -/
def Medium.txDone (m : Medium) (p : NodePtr) (n : DeviceNode) (pkt : NetSimPacket) : Medium :=
  (m.putNode p (n.txDone pkt)).record [.timerDelete p .txTimer, .sent p (.txDoneInd txDoneOk)]

/-- How `txPacket` leaves the bounds of the buffer of a packet, and the medium it leaves. -/
inductive RelayError (host : ByteOrder) (m : Medium) (p : NodePtr) (n : DeviceNode)
    (pkt : NetSimPacket) : Medium → Prop where
  /-- The buffer is too short for the fields that are written. -/
  | short : pkt.pktBuffer.length < DataInd.pktData → RelayError host m p n pkt m
  /-- The packet is multicast, and shorter than the frame that is dumped then. -/
  | dump {pkt₁ pkt₂ : NetSimPacket} : pkt.setRSSI 127 = .ok pkt₁ →
      pkt₁.generateChecksum host = .ok pkt₂ →
      RelayError host m p n pkt ((m.putNode p { n with txPkt := some pkt₂ }).record
        [.multicast p pkt₂.id pkt₂.pktBuffer])

/-- What `txPacket` does when it stays in the bounds. -/
theorem txPacket_ok {u : Unit} (h : m.nodes p = .live n) (hpkt : n.txPkt = some pkt)
    (hok : txPacket host p m = .ok u m') :
  ∃ pkt₁ pkt₂ bytes, pkt.setRSSI 127 = .ok pkt₁ ∧ pkt₁.generateChecksum host = .ok pkt₂ ∧
    pkt₂.pktbuf host = .ok bytes
  := by
  cases hrssi : pkt.setRSSI 127 with
  | error e => simp [txPacket, deref_live h, derefTxPkt, hpkt, hrssi] at hok
  | ok pkt₁ =>
      cases hcksum : pkt₁.generateChecksum host with
      | error e => simp [txPacket, deref_live h, derefTxPkt, hpkt, hrssi, hcksum] at hok
      | ok pkt₂ =>
          cases hbytes : pkt₂.pktbuf host with
          | error e =>
              simp [txPacket, deref_live h, derefTxPkt, hpkt, hrssi, hcksum, hbytes] at hok
          | ok bytes => exact ⟨pkt₁, pkt₂, bytes, rfl, hcksum, hbytes⟩

theorem txPacket_error (h : m.nodes p = .live n) (hpkt : n.txPkt = some pkt)
    (herror : txPacket host p m = .error e m') :
  e = .outOfBounds ∧ RelayError host m p n pkt m'
  := by
  cases hrssi : pkt.setRSSI 127 with
  | error e' =>
      simp [txPacket, deref_live h, derefTxPkt, hpkt, hrssi] at herror
      obtain ⟨rfl, rfl⟩ := herror
      obtain ⟨rfl, hshort⟩ := NetSimPacket.write_error hrssi
      exact ⟨rfl, .short hshort⟩
  | ok pkt₁ =>
      cases hcksum : pkt₁.generateChecksum host with
      | error e' =>
          simp [txPacket, deref_live h, derefTxPkt, hpkt, hrssi, hcksum] at herror
          obtain ⟨rfl, rfl⟩ := herror
          obtain ⟨rfl, hshort⟩ := NetSimPacket.write_error hcksum
          rw [NetSimPacket.length_write hrssi, ByteOrder.length_store] at hshort
          exact ⟨rfl, .short (lt_trans hshort (by decide))⟩
      | ok pkt₂ =>
          cases hbytes : pkt₂.pktbuf host with
          | error e' =>
              simp [txPacket, deref_live h, derefTxPkt, hpkt, hrssi, hcksum, hbytes] at herror
              obtain ⟨rfl, rfl⟩ := herror
              exact ⟨NetSimPacket.pktbuf_error hbytes, .dump hrssi hcksum⟩
          | ok bytes =>
              simp [txPacket, deref_live h, derefTxPkt, hpkt, hrssi, hcksum, hbytes] at herror

/-- When the transmit timer of a transmitting node has expired and its packet has not collided, the
node is told so before its packet is relayed. -/
theorem processTxEntry_relay (h : m.nodes p = .live n) (hstarted : n.txTimer.started)
    (hexpired : env.Expired p) (hstate : n.curState = .tx) (hpkt : n.txPkt = some pkt)
    (hcollided : pkt.collision = false) (i : Nat) :
  processTxEntry host env i p m = (do
      txPacket host p
      modify (fun m : Medium => { m with stats.txPktsOk := m.stats.txPktsOk + 1 })
      setTxPacket p none
      modify (fun m : Medium => { m with txList := m.txList.eraseIdx i })
      record (.txLeave p)
      return i) (m.txDone p n pkt)
  := by
  rw [Env.Expired] at hexpired
  simp [processTxEntry, timerExpired_eq h, DeviceNode.timer, hstarted, hexpired, deref_apply, h,
    hpkt, handleTxTimerExpired, hstate, stopTimer, DeviceNode.setTimer, hcollided, setCurState,
    derefTxPkt, send, txDoneOk, Medium.putNode, Medium.record, Medium.txDone, DeviceNode.txDone]

/-- How the end of a transmission stops. -/
theorem processTxEntry_error (h : m.nodes p = .live n) (hstarted : n.txTimer.started)
    (hstate : n.curState = .tx) (hpkt : n.txPkt = some pkt)
    (herror : processTxEntry host env i p m = .error e m') :
  env.nodeTimerGettime p = none ∧ e = .exception "DeviceNodeTimer: failed to get time" ∧ m' = m ∨
    pkt.collision = false ∧ e = .outOfBounds ∧ RelayError host (m.txDone p n pkt) p (n.txDone pkt)
      { pkt with txDoneResult := txDoneOk } m'
  := by
  have hresult := processTxEntry_result h hstarted hstate hpkt host env i
  rw [herror] at hresult
  cases hresult with
  | failed hleft =>
      left
      exact ⟨hleft, rfl, rfl⟩
  | outOfBounds hleft hclear hfail =>
      right
      have hlive : (m.txDone p n pkt).nodes p = .live (n.txDone pkt) := putNode_nodes_self m p _
      rw [processTxEntry_relay h hstarted hleft hstate hpkt hclear, Exec.bind_apply] at herror
      cases hrelay : txPacket host p (m.txDone p n pkt) with
      | error e₁ m₁ =>
          rw [hrelay] at herror
          cases herror
          exact ⟨hclear, txPacket_error hlive rfl hrelay⟩
      | ok u m₁ =>
          obtain ⟨pkt₁, pkt₂, bytes, hrssi, hcksum, hbytes⟩ := txPacket_ok hlive rfl hrelay
          apply absurd hbytes (hfail pkt₁ pkt₂ bytes hrssi hcksum)

/-! ### Collisions and registration timeouts -/

/-- When every node that is there has a packet, `txCollisionCheck` stops at one that is not there,
and has logged nothing. -/
theorem setCollided_gone {ps : List NodePtr}
    (hpackets : ∀ p ∈ ps, ∀ n, m.nodes p = .live n → ∃ pkt, n.txPkt = some pkt)
    (herror : setCollided ps m = .error e m') :
  ∃ p ∈ ps, (∀ n, m.nodes p ≠ .live n) ∧ e = .noObject p ∧ m'.log = m.log
  := by
  induction ps generalizing m with
  | nil => cases herror
  | cons p ps ih =>
      by_cases hlive : ∃ n, m.nodes p = .live n
      · obtain ⟨n, hlive⟩ := hlive
        obtain ⟨pkt, hpkt⟩ := hpackets p (List.mem_cons_self ..) n hlive
        simp only [setCollided, Exec.bind_apply, deref_live hlive, derefTxPkt, hpkt,
          Exec.pure_apply, assign_apply] at herror
        have hrest := ih ?_ herror
        · obtain ⟨q, hq, hgone, rfl, hlog⟩ := hrest
          have hqp : q ≠ p := by
            rintro rfl
            apply hgone _ (putNode_nodes_self ..)
          refine ⟨q, List.mem_cons_of_mem p hq, ?_, rfl, hlog⟩
          intro n' hn'
          apply hgone n'
          simpa [Medium.putNode, hqp] using hn'
        · intro q hq n' hn'
          by_cases hqp : q = p
          · subst hqp
            rw [putNode_nodes_self, NodeCell.live.injEq] at hn'
            exact ⟨_, (congrArg DeviceNode.txPkt hn').symm⟩
          · simp only [Medium.putNode, Function.update_of_ne hqp] at hn'
            apply hpackets q (List.mem_cons_of_mem p hq) n' hn'
      · have hgone : ∀ n, m.nodes p ≠ .live n := by simpa using hlive
        simp only [setCollided, Exec.bind_apply, deref_gone hgone] at herror
        cases herror
        exact ⟨p, List.mem_cons_self .., hgone, rfl, rfl⟩

/-- What the walk of the registration list map does with an entry, by the time left of the
registration timer of its node. -/
theorem Lifecycle.checkRegTimers_cons {key : UInt64} (h : Lifecycle m)
    (hentry : m.regListMap key = some p) (env : Env) (keys : List UInt64) :
  ∃ n, (Effect.expire key p n).Guard m ∧
    checkRegTimers env (key :: keys) m =
      match env.nodeTimerGettime p with
      | none => .error (.exception "DeviceNodeTimer: failed to get time") m
      | some left =>
          if left = ⟨0, 0⟩ then checkRegTimers env keys ((Effect.expire key p n).apply m)
          else checkRegTimers env keys m
  := by
  obtain ⟨n, hlive, hkey⟩ := h.regListMap hentry
  have hstate : n.curState = .registering := by
    by_contra hstate
    rw [← hkey, (h.registered hlive hstate).2.1] at hentry
    cases hentry
  have hstarted := (h.registering hlive hstate).2.2
  have hlive' : ({ m with regListMap := m.regListMap.erase key } : Medium).nodes p
      = .live n := hlive
  refine ⟨n, ⟨hentry, hlive, hkey, hstate, hstarted⟩, ?_⟩
  cases hleft : env.nodeTimerGettime p with
  | none =>
      simp [checkRegTimers, hentry, deref_live hlive, DeviceNode.getNodeId, hkey,
        timerExpired_eq hlive, DeviceNode.timer, hstarted, hleft]
  | some left =>
      by_cases hexpired : left = ⟨0, 0⟩
      · simp [checkRegTimers, hentry, deref_live hlive, DeviceNode.getNodeId, hkey,
          timerExpired_eq hlive, DeviceNode.timer, hstarted, hleft, hexpired,
          handleRegTimerExpired, deref_live hlive', hstate, deleteNode_live hlive', Effect.apply]
      · simp [checkRegTimers, hentry, deref_live hlive, DeviceNode.getNodeId, hkey,
          timerExpired_eq hlive, DeviceNode.timer, hstarted, hleft, hexpired]

/-- When the walk of the registration list map stops, it is where the time left of a timer is not
told, and some expired nodes have been deleted before. -/
theorem Lifecycle.checkRegTimers_failed {keys : List UInt64} (h : Lifecycle m)
    (herror : checkRegTimers env keys m = .error e m') :
  e = .exception "DeviceNodeTimer: failed to get time" ∧
    ∃ effs, Effects m effs m' ∧ ∀ eff ∈ effs, eff.IsExpiry env
  := by
  induction keys generalizing m with
  | nil => cases herror
  | cons key keys ih =>
      cases hentry : m.regListMap key with
      | none =>
          rw [checkRegTimers_missing keys hentry] at herror
          apply ih h herror
      | some p =>
          obtain ⟨n, hguard, hcons⟩ := h.checkRegTimers_cons hentry env keys
          rw [hcons] at herror
          split at herror
          · cases herror
            exact ⟨rfl, [], .nil _, by simp⟩
          · next left hleft =>
              split at herror
              · next hexpired =>
                  obtain ⟨rfl, effs, heffs, hexpiry⟩ := ih (h.effect hguard (by simp)) herror
                  refine ⟨rfl, _, .cons hguard heffs, ?_⟩
                  intro eff heff
                  rcases List.mem_cons.mp heff with rfl | heff
                  · rw [hexpired] at hleft
                    exact ⟨key, p, n, rfl, hleft⟩
                  · apply hexpiry eff heff
              · apply ih h herror

/-! ### Adding a node -/

/-- The medium when the constructor of a node has asked for its registration. -/
def Medium.asked (m : Medium) (p : NodePtr) (socket : UInt64) : Medium :=
  (m.putNode p (DeviceNode.new socket)).record [.newNode p, .sent p .regReq]

/-- How `addNode` stops, and the medium it leaves. -/
inductive AddError (env : Env) (m : Medium) (p : NodePtr) (socket : UInt64) :
    Stop → Medium → Prop where
  /-- The registration request is not sent, or not all of it. -/
  | send : env.sendMsg ≠ Hdr.size →
      AddError env m p socket (.assertion .sendRegistrationRequest) (m.asked p socket)
  /-- The registration timer cannot be created. -/
  | create : env.sendMsg = Hdr.size → env.nodeTimerCreate = false →
      AddError env m p socket (.exception "DeviceNodeTimer::start: failed to create timer")
        (m.asked p socket)
  /-- The timer cannot be armed. -/
  | arm : env.sendMsg = Hdr.size → env.nodeTimerCreate → env.nodeTimerSettime = false →
      AddError env m p socket (.exception "DeviceNodeTimer::start: failed to arm timer")
        ((m.asked p socket).record [.timerCreate p .regTimer])
  /-- The socket cannot be registered with the poller. -/
  | epoll : env.sendMsg = Hdr.size → env.nodeTimerCreate → env.nodeTimerSettime →
      env.epollCtl = false →
      AddError env m p socket (.exception "epoll_ctl: Error")
        { m.create p socket with interest := m.interest }

/-- The registration request of a new node is not sent, or not all of it. -/
theorem addNode_unsent {socket : UInt64} (hsend : env.sendMsg ≠ Hdr.size) :
  addNode env p socket m = .error (.assertion .sendRegistrationRequest) (m.asked p socket)
  := by
  simp [addNode, createAndRegister, newNode, sendRegistrationRequest, send, deref_apply, hsend,
    DeviceNode.new, Medium.putNode, Medium.record, Medium.asked]

/-- The registration timer of a new node has been created, and cannot be armed. -/
theorem addNode_unarmed {socket : UInt64} (hsend : env.sendMsg = Hdr.size)
    (hcreate : env.nodeTimerCreate) (hsettime : env.nodeTimerSettime = false) :
  addNode env p socket m = .error (.exception "DeviceNodeTimer::start: failed to arm timer")
    ((m.asked p socket).record [.timerCreate p .regTimer])
  := by
  simp [addNode, createAndRegister, newNode, sendRegistrationRequest, send, deref_apply, hsend,
    startTimer, arm, hcreate, hsettime, DeviceNode.new, DeviceNode.timer, DeviceNode.setTimer,
    Medium.putNode, Medium.record, Medium.asked]

/-- The registration timer of a new node cannot be created. -/
theorem addNode_uncreated {socket : UInt64} (hsend : env.sendMsg = Hdr.size)
    (hcreate : env.nodeTimerCreate = false) :
  addNode env p socket m = .error (.exception "DeviceNodeTimer::start: failed to create timer")
    (m.asked p socket)
  := by
  simp [addNode, createAndRegister, newNode, sendRegistrationRequest, send, deref_apply, hsend,
    startTimer, arm, hcreate, DeviceNode.new, DeviceNode.timer, DeviceNode.setTimer,
    Medium.putNode, Medium.record, Medium.asked]

/-- The socket of a new node cannot be registered with the poller. -/
theorem addNode_unpolled {socket : UInt64} (hsend : env.sendMsg = Hdr.size)
    (hcreate : env.nodeTimerCreate) (hsettime : env.nodeTimerSettime)
    (hepoll : env.epollCtl = false) :
  addNode env p socket m = .error (.exception "epoll_ctl: Error")
    { m.create p socket with interest := m.interest }
  := by
  simp [addNode, createAndRegister, newNode, sendRegistrationRequest, send, deref_apply, hsend,
    startTimer, arm, hcreate, hsettime, epollAdd, hepoll, DeviceNode.new, DeviceNode.timer,
    DeviceNode.setTimer, Medium.putNode, Medium.record, Medium.create, Effect.apply,
    DeviceNode.registering]

theorem addNode_error {socket : UInt64} (herror : addNode env p socket m = .error e m') :
  AddError env m p socket e m'
  := by
  by_cases hsend : env.sendMsg = Hdr.size
  · cases hcreate : env.nodeTimerCreate with
    | false =>
        rw [addNode_uncreated hsend hcreate] at herror
        cases herror
        apply AddError.create hsend hcreate
    | true =>
        cases hsettime : env.nodeTimerSettime with
        | false =>
            rw [addNode_unarmed hsend hcreate hsettime] at herror
            cases herror
            apply AddError.arm hsend hcreate hsettime
        | true =>
            cases hepoll : env.epollCtl with
            | false =>
                rw [addNode_unpolled hsend hcreate hsettime hepoll] at herror
                cases herror
                apply AddError.epoll hsend hcreate hsettime hepoll
            | true =>
                rw [addNode_ok hsend hcreate hsettime hepoll] at herror
                cases herror
  · rw [addNode_unsent hsend] at herror
    cases herror
    apply AddError.send hsend

/-- What `addNode` has logged when it stops. -/
theorem AddError.log {socket : UInt64} (herror : AddError env m p socket e m') :
  ∃ es, m'.log = m.log ++ es ∧ (es = [.newNode p, .sent p .regReq] ∨
    es = [.newNode p, .sent p .regReq, .timerCreate p .regTimer])
  := by
  cases herror with
  | send => exact ⟨_, rfl, Or.inl rfl⟩
  | create => exact ⟨_, rfl, Or.inl rfl⟩
  | arm =>
      refine ⟨_, ?_, Or.inr rfl⟩
      simp [Medium.asked, Medium.putNode, Medium.record]
  | epoll => exact ⟨_, rfl, Or.inr rfl⟩

/-! ### Steps -/

/-- How a step of a medium stops a thread, and the medium it leaves. -/
inductive Halt (host : ByteOrder) : Sys → Input → Stop → Medium → Prop where
  /-- The time is not told. -/
  | clock (m : Medium) (env : Env) :
      Halt host ⟨.start, m⟩ (.run env) (.exception "clock_gettime: unrecoverable error")
        { m with state := .idle }
  /-- The timer of the medium is not armed. -/
  | interval (m : Medium) (env : Env) (ph : Phase) :
      Halt host ⟨.interval ph, m⟩ (.run env)
        (.exception "PhysicalMedium::interval: failed to arm timer") (Medium.record
          { m with curTime := timespecAddMs m.curTime ph.waitms } [.interval ph.waitms])
  /-- The poller fails. -/
  | epollWait (m : Medium) (env : Env) (ph : Phase) (waitms : Int) :
      Halt host ⟨.epollWait ph waitms, m⟩ (.run env)
        (.exception "PhysicalMedium::interval: epoll failure") m
  /-- The time left of the timer of the medium is not told. -/
  | timeLeft (m : Medium) (env : Env) (ph : Phase) (rv : Int) :
      Halt host ⟨.timeLeft ph rv, m⟩ (.run env)
        (.exception "PhysicalMedium::interval: failed to get timer") m
  /-- An event of a node stops the thread. -/
  | event {m m' : Medium} {env : Env} {ph : Phase} {ev : PollEvent} {evs : List PollEvent}
      {p : NodePtr} {n : DeviceNode} {e : Stop} : ev.data = .node p → m.nodes p = .live n →
      EventError host env m ev p n e m' → Halt host ⟨.poll ph (ev :: evs), m⟩ (.run env) e m'
  /-- A node on the transmit list is not there. -/
  | noObject {pc : Pc} {m m' : Medium} {env : Env} {p : NodePtr} :
      (pc = .txCollisionCheck ∨ ∃ i, pc = .processTxList i) → p ∈ m.txList →
      (∀ n, m.nodes p ≠ .live n) → m'.log = m.log →
      Halt host ⟨pc, m⟩ (.run env) (.noObject p) m'
  /-- The time left of a transmit timer is not told. -/
  | txTimer (m : Medium) (env : Env) (i : Nat) :
      Halt host ⟨.processTxList i, m⟩ (.run env)
        (.exception "DeviceNodeTimer: failed to get time") m
  /-- A packet is too short to be relayed. -/
  | relay {m m' : Medium} {env : Env} {i : Nat} {p : NodePtr} {n : DeviceNode}
      {pkt : NetSimPacket} (buf : List UInt8) : (Effect.conclude i p n pkt buf).Guard m →
      pkt.collision = false → RelayError host (m.txDone p n pkt) p (n.txDone pkt)
        { pkt with txDoneResult := txDoneOk } m' →
      Halt host ⟨.processTxList i, m⟩ (.run env) .outOfBounds m'
  /-- The time left of a registration timer is not told. -/
  | sweep {m m' : Medium} {env : Env} {effs : List Effect} : Effects m effs m' →
      (∀ eff ∈ effs, eff.IsExpiry env) →
      Halt host ⟨.checkNodeRegistrationTimeout, m⟩ (.run env)
        (.exception "DeviceNodeTimer: failed to get time") m'
  /-- A node is not added. -/
  | addNode {pc : Pc} {m m' : Medium} {env : Env} {p : NodePtr} {socket : UInt64} {e : Stop} :
      m.Fresh p socket → AddError env m p socket e m' →
      Halt host ⟨pc, m⟩ (.addNode env p socket) e m'

/-- What a handler of a node that is on its map has logged when it stops. -/
theorem HandlerError.log {msg : List UInt8} {handler : Handler}
    (herror : HandlerError host env m p n msg handler e m') (h : m.Placed p n) :
  ∃ es, m'.log = m.log ++ es ∧ es ∈ [[], [.ccaRequest p], [.newPacket m.nextPkt],
    [.newPacket m.nextPkt, .timerCreate p .txTimer]]
  := by
  cases herror with
  | os => exact ⟨[], (List.append_nil _).symm, by simp⟩
  | osVersion => exact ⟨[], (List.append_nil _).symm, by simp⟩
  | regCon => exact ⟨[], (List.append_nil _).symm, by simp⟩
  | registerNode hstate hreg =>
      rw [h.registering hstate] at hreg
      cases hreg
  | deregisterNode hreg hhash =>
      apply absurd ⟨hreg, hhash⟩ h.not_missed
  | ccaReq => exact ⟨_, rfl, by simp⟩
  | packet => exact ⟨[], (List.append_nil _).symm, by simp⟩
  | dataInd => exact ⟨_, rfl, by simp⟩
  | isAck => exact ⟨_, rfl, by simp⟩
  | timerStart => exact ⟨_, rfl, by simp⟩
  | create => exact ⟨_, rfl, by simp⟩
  | arm =>
      refine ⟨[.newPacket m.nextPkt, .timerCreate p .txTimer], ?_, by simp⟩
      simp [Medium.takePacket, Medium.putNode, Medium.record]

theorem EventError.log {ev : PollEvent} (herror : EventError host env m ev p n e m')
    (h : m.Placed p n) :
  ∃ es, m'.log = m.log ++ es ∧ es ∈ [[], [.ccaRequest p], [.newPacket m.nextPkt],
    [.newPacket m.nextPkt, .timerCreate p .txTimer]]
  := by
  cases herror with
  | closed _ hreg hhash =>
      apply absurd ⟨hreg, hhash⟩ h.not_missed
  | read => exact ⟨[], (List.append_nil _).symm, by simp⟩
  | handled _ _ _ hhandler => apply hhandler.log h

/-- Where a medium halts, nothing is logged of a transmission, unless it is a packet that is too
short to be relayed. -/
theorem Halt.log {s : Sys} {input : Input} (hhalt : Halt host s input e m') (h : Orderly s) :
  (∃ es, m'.log = s.med.log ++ es ∧ ∀ ev ∈ es, ev.isTx = false) ∨
    ∃ i p n pkt, (Effect.conclude i p n pkt []).Guard s.med ∧ pkt.collision = false ∧
      RelayError host (s.med.txDone p n pkt) p (n.txDone pkt)
        { pkt with txDoneResult := txDoneOk } m'
  := by
  cases hhalt with
  | relay buf hguard hclear hrelay =>
      right
      exact ⟨_, _, _, _, hguard, hclear, hrelay⟩
  | interval m env ph =>
      left
      exact ⟨_, rfl, by simp [Event.isTx]⟩
  | event _ hlive herror =>
      left
      obtain ⟨es, hlog, hes⟩ := herror.log (h.lifecycle.placed hlive)
      refine ⟨es, hlog, ?_⟩
      simp only [List.mem_cons, List.not_mem_nil, or_false] at hes
      rcases hes with rfl | rfl | rfl | rfl <;> simp [Event.isTx]
  | noObject _ _ _ hlog =>
      left
      exact ⟨[], by rw [hlog, List.append_nil], by simp⟩
  | sweep heffs hexpiry =>
      left
      apply (txNeutral_effects heffs _).log
      intro eff heff
      apply (hexpiry eff heff).not_isTx
  | addNode _ herror =>
      left
      obtain ⟨es, hlog, hes⟩ := herror.log
      refine ⟨es, hlog, ?_⟩
      rcases hes with rfl | rfl <;> simp [Event.isTx]
  | _ =>
      left
      exact ⟨[], (List.append_nil _).symm, by simp⟩

/-- How a step of the thread of a medium stops it. -/
theorem halt_of_run {pc : Pc} (h : Orderly ⟨pc, m⟩) (henabled : Sys.Enabled ⟨pc, m⟩ (.run env))
    (herror : runStep host kind env pc m = .error e m') :
  Halt host ⟨pc, m⟩ (.run env) e m'
  := by
  cases pc with
  | start =>
      cases htime : env.clockGettime with
      | none =>
          simp [runStep, setState, htime] at herror
          obtain ⟨rfl, rfl⟩ := herror
          apply Halt.clock
      | some curTime => simp [runStep, setState, htime] at herror
  | outer => by_cases hidle : m.state = .idle <;> simp [runStep, hidle] at herror
  | interval ph =>
      cases hsettime : env.timerSettime with
      | false =>
          simp [runStep, armInterval, hsettime] at herror
          obtain ⟨rfl, rfl⟩ := herror
          apply Halt.interval
      | true => simp [runStep, armInterval, hsettime] at herror
  | epollWait ph waitms =>
      cases hwait : env.epollWait with
      | failed =>
          simp [runStep, hwait] at herror
          obtain ⟨rfl, rfl⟩ := herror
          apply Halt.epollWait
      | interrupted => simp [runStep, hwait] at herror
      | ready evs =>
          cases evs with
          | nil => simp [runStep, hwait] at herror
          | cons ev evs =>
              have hmax := not_lt_of_ge (henabled _ hwait).length_le
              simp only [runStep, hwait, if_neg hmax] at herror
              cases herror
  | poll ph evs =>
      cases evs with
      | nil => cases herror
      | cons ev evs =>
          cases hevent : processPollerEvent host env ev m with
          | ok goOn m₁ => cases goOn <;> simp [runStep, hevent] at herror
          | error e₁ m₁ =>
              simp [runStep, hevent] at herror
              obtain ⟨rfl, rfl⟩ := herror
              rcases h.event with hdata | ⟨p, n, hdata, hlive⟩
              · rcases processPollerEvent_unblocker hdata host env with hok | hok
                · rw [hok] at hevent
                  cases hevent
                · rw [hok] at hevent
                  cases hevent
              · apply Halt.event hdata hlive (processPollerEvent_error hlive hdata hevent)
  | timeLeft ph rv =>
      cases hleft : env.timerGettime with
      | none =>
          simp [runStep, hleft] at herror
          obtain ⟨rfl, rfl⟩ := herror
          apply Halt.timeLeft
      | some left =>
          by_cases hagain : 0 < rv ∧ 0 < msLeft left <;> simp [runStep, hleft, hagain] at herror
  | polled ph =>
      cases ph <;> by_cases hstop : m.state = .stopping <;> simp [runStep, hstop] at herror
  | mark => by_cases hempty : m.txList = [] <;> simp [runStep, hempty, setState] at herror
  | processCcaList ph =>
      cases hlist : m.ccaList with
      | nil => cases ph <;> simp [runStep, hlist] at herror
      | cons q rest =>
          rcases processCcaEntry_cons hlist with ⟨-, hok⟩ | ⟨hgone, -⟩
          · simp [runStep, hlist, hok] at herror
          · have hq : q ∈ m.ccaList := by
              rw [hlist]
              apply List.mem_cons_self ..
            obtain ⟨n, hlive⟩ := h.waiting.queued (by simp) q hq
            apply absurd hlive (hgone n)
  | inner => by_cases hempty : m.txList = [] <;> simp [runStep, hempty] at herror
  | txCollisionCheck =>
      cases hcheck : txCollisionCheck kind m with
      | ok u m₁ => simp [runStep, hcheck] at herror
      | error e₁ m₁ =>
          simp [runStep, hcheck] at herror
          obtain ⟨rfl, rfl⟩ := herror
          cases kind with
          | wireless => cases hcheck
          | powerline =>
              by_cases hmany : 1 < m.txList.length
              · simp [txCollisionCheck, hmany] at hcheck
                obtain ⟨q, hq, hgone, rfl, hlog⟩ := setCollided_gone (fun q hq n hlive =>
                  (h.consistent.transmitting hq hlive).2.2) hcheck
                exact .noObject (Or.inl rfl) hq hgone hlog
              · simp [txCollisionCheck, hmany] at hcheck
  | processTxList i =>
      cases hentry : m.txList[i]? with
      | none => simp [runStep, hentry] at herror
      | some q =>
          cases htx : processTxEntry host env i q m with
          | ok j m₁ => simp [runStep, hentry, htx] at herror
          | error e₁ m₁ =>
              simp [runStep, hentry, htx] at herror
              obtain ⟨rfl, rfl⟩ := herror
              have hq := List.mem_of_getElem? hentry
              by_cases hlive : ∃ n, m.nodes q = .live n
              · obtain ⟨n, hlive⟩ := hlive
                obtain ⟨hstate, hstarted, pkt, hpkt⟩ := h.consistent.transmitting hq hlive
                rcases processTxEntry_error hlive hstarted hstate hpkt htx with
                  ⟨-, rfl, rfl⟩ | ⟨hclear, rfl, hrelay⟩
                · apply Halt.txTimer
                · exact .relay [] ⟨hentry, hlive, hstate, hpkt, hstarted⟩ hclear hrelay
              · have hgone : ∀ n, m.nodes q ≠ .live n := by simpa using hlive
                rw [processTxEntry_noObject hgone] at htx
                cases htx
                exact .noObject (Or.inr ⟨i, rfl⟩) hq hgone rfl
  | left => by_cases hstop : m.state = .stopping <;> simp [runStep, hstop] at herror
  | resetIdle => cases herror
  | checkNodeRegistrationTimeout =>
      cases hsweep : checkRegTimers env env.regListWalk m with
      | ok u m₁ => simp [runStep, checkNodeRegistrationTimeout, hsweep] at herror
      | error e₁ m₁ =>
          simp [runStep, checkNodeRegistrationTimeout, hsweep] at herror
          obtain ⟨rfl, rfl⟩ := herror
          obtain ⟨rfl, effs, heffs, hexpiry⟩ := h.lifecycle.checkRegTimers_failed hsweep
          apply Halt.sweep heffs hexpiry
  | again => by_cases hstop : m.state = .stopping <;> simp [runStep, hstop] at herror
  | exiting => cases herror
  | exited => cases herror
  | deleted => cases herror

/-- How a step of a medium that is in order halts it. -/
theorem halt_of_halts {s : Sys} {input : Input} (h : Orderly s)
    (hhalts : (medium host kind).Halts s input (e, m')) :
  Halt host s input e m'
  := by
  obtain ⟨pc, m⟩ := s
  obtain ⟨henabled, hstep⟩ := hhalts
  cases input with
  | run env =>
      cases hrun : runStep host kind env pc m with
      | ok pc' m₁ => simp [medium, Sys.step, stepProg, hrun] at hstep
      | error e₁ m₁ =>
          simp [medium, Sys.step, stepProg, hrun] at hstep
          obtain ⟨rfl, rfl⟩ := hstep
          apply halt_of_run h henabled hrun
  | addNode env p socket =>
      cases hadd : addNode env p socket m with
      | ok u m₁ => simp [medium, Sys.step, stepProg, hadd] at hstep
      | error e₁ m₁ =>
          simp [medium, Sys.step, stepProg, hadd] at hstep
          obtain ⟨rfl, rfl⟩ := hstep
          apply Halt.addNode henabled.2 (addNode_error hadd)
  | stop => cases hstep
  | deleteMedium env =>
      obtain ⟨-, hreg, hhash⟩ := henabled
      obtain ⟨m₁, hdelete, -⟩ := deleteMedium_destroys h.lifecycle hreg hhash
      simp [medium, Sys.step, stepProg, hdelete] at hstep

/-- How a run ends: with no more steps, or with one that halts.  The last step, if there is one,
and the medium that is left. -/
inductive Ending (host : ByteOrder) (kind : Kind) (s : Sys) : List (Sys × Input) → Medium → Prop
  | here : Ending host kind s [] s.med
  | halted {input : Input} {e : Stop} {m : Medium} :
      (medium host kind).Halts s input (e, m) → Ending host kind s [(s, input)] m

end X6losim
