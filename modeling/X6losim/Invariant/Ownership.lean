import X6losim.Invariant.Relay
import X6losim.Invariant.Released
import X6losim.Invariant.TxState

/-!
# What leaks timers and packets

A step leaves a timer or a packet without an owner exactly when it leaks one: when it deletes a node
that transmits, refuses a data indication, or cannot arm a timer that it has created.
-/

open Bytes History

namespace X6losim

variable {host : ByteOrder} {kind : Kind} {env : Env} {m m' : Medium} {p q : NodePtr}
  {n : DeviceNode} {pkt : NetSimPacket} {s s' : Sys} {i : Input}
  {visits last : List (Sys × Input)}

/-! ### Leaks -/

/-- A step leaks a timer or a packet. -/
inductive Leaks (host : ByteOrder) : Sys → Input → Prop where
  /-- A node is disconnected while it transmits. -/
  | cutOff {s : Sys} {i : Input} : CutsOff host s i → Leaks host s i
  /-- The medium is deleted while a node transmits. -/
  | deleted {m : Medium} {env : Env} {p : NodePtr} {n : DeviceNode} : p ∈ m.txList →
      m.nodes p = .live n → Leaks host ⟨.exited, m⟩ (.deleteMedium env)
  /-- A data indication is refused, or its timer cannot be created or armed. -/
  | refused {s : Sys} {env : Env} {p : NodePtr} {n : DeviceNode} {msg : List UInt8} :
      Indicates host s (.run env) p msg → s.med.nodes p = .live n →
      n.curState ≠ .active ∨ env.nodeTimerCreate = false ∨ env.nodeTimerSettime = false →
      Leaks host s (.run env)
  /-- The timer of a new node is created, and cannot be armed. -/
  | unarmed {s : Sys} {env : Env} {p : NodePtr} {socket : UInt64} : env.sendMsg = Hdr.size →
      env.nodeTimerCreate → env.nodeTimerSettime = false →
      Leaks host s (.addNode env p socket)

/-- What keeps the owners of timers and packets. -/
structure Owning (m : Medium) : Prop where
  released : Released m
  consistent : TxConsistent m
  history : TxHistory m

namespace Owning

theorem initial :
  Owning Medium.new
  := ⟨.initial, .initial, .initial⟩

/-- An effect that has nothing to do with transmissions, and deletes no transmitting node. -/
theorem effect {eff : Effect} (h : Owning m) (hguard : eff.Guard m) (hother : ¬ eff.IsTx)
    (hkept : ∀ q ∈ m.txList, ¬ eff.Deletes q) (hadd : ∀ p socket, eff ≠ .add p socket) :
  Owning (eff.apply m)
  := by
  have hfresh : ∀ p socket, eff = .add p socket → m.Fresh p socket :=
    fun p socket heq => absurd heq (hadd p socket)
  have hneutral := txNeutral_apply hguard hother hfresh
  exact ⟨h.released.effect h.consistent h.history hguard hkept hfresh,
    h.consistent.neutral hneutral, h.history.neutral h.consistent hneutral⟩

/-- Registrations that are over are deleted with their timers. -/
theorem sweep {effs : List Effect} (h : Owning m) (heffs : Effects m effs m')
    (hexpiry : ∀ eff ∈ effs, eff.IsExpiry env) :
  Owning m'
  := by
  apply heffs.invariant h hexpiry
  intro m₁ eff hm₁ heff hguard
  have hadd := heff.not_add
  obtain ⟨key, p, n, rfl, -⟩ := heff
  obtain ⟨-, hlive, -, hstate, -⟩ := id hguard
  apply hm₁.effect hguard not_false _ hadd
  rintro q hq rfl
  apply hm₁.consistent.not_mem hlive (by simp [hstate]) hq

/-- Nodes are deleted with the medium when none of them transmits. -/
theorem dispose {map : MapName} {effs : List Effect} (h : Owning m)
    (hnone : ∀ q ∈ m.txList, ∀ n, m.nodes q ≠ .live n) (heffs : Effects m effs m')
    (hdisposal : ∀ eff ∈ effs, eff.IsDisposal map) :
  Owning m' ∧ ∀ q ∈ m'.txList, ∀ n, m'.nodes q ≠ .live n
  := by
  apply heffs.invariant (P := fun m => Owning m ∧ ∀ q ∈ m.txList, ∀ n, m.nodes q ≠ .live n)
    ⟨h, hnone⟩ hdisposal
  rintro m₁ eff ⟨hm₁, hgone⟩ heff hguard
  have hadd := heff.not_add
  obtain ⟨key, p, n, rfl⟩ := heff
  constructor
  · apply hm₁.effect hguard not_false _ hadd
    rintro q hq rfl
    apply hgone _ hq n hguard.2.1
  · intro q hq n' hlive
    have hq' : q ∈ m₁.txList := by cases map <;> apply hq
    by_cases hqp : q = p
    · simp [Effect.apply, Medium.delete, hqp] at hlive
    · simp [Effect.apply, Medium.delete, hqp] at hlive
      apply hgone q hq' n' hlive

/-- A step that leaks nothing keeps the owners of timers and packets. -/
theorem next (h : Owning s.med) (hleak : ¬ Leaks host s i) (hnext : Next host kind s i s') :
  Owning s'.med
  := by
  have htx := txNext_of_next hnext
  refine ⟨?_, h.consistent.next htx, h.history.next h.consistent htx⟩
  have hsame : ∀ {m'}, m'.nodes = s.med.nodes → ∀ es, m'.log = s.med.log ++ es →
      (∀ e ∈ es, timerLife e = none ∧ packetLife e = none) → Released m' := by
    intro m' hnodes es hlog hno
    apply h.released.same hlog hno
    · intro q t
      rw [hnodes]
    · intro q
      rw [hnodes]
  have heffect : ∀ {eff : Effect}, eff.Guard s.med → (∀ q ∈ s.med.txList, ¬ eff.Deletes q) →
      (∀ p socket, eff = .add p socket → s.med.Fresh p socket) → Released (eff.apply s.med) :=
    h.released.effect h.consistent h.history
  cases hnext with
  | poll hdata hlive heff hguard =>
      apply heffect hguard
      · intro q hq hdeletes
        obtain rfl := heff.deletes hdeletes
        apply hleak
        exact .cutOff (.event hdata hlive hq (heff.disconnects hdeletes))
      · intro p socket heq
        apply absurd heq (heff.not_add p socket)
  | answer hguard => exact heffect hguard (fun _ _ => not_false) (by simp)
  | collide _ hguard => exact heffect hguard (fun _ _ => not_false) (by simp)
  | conclude hguard => exact heffect hguard (fun _ _ => not_false) (by simp)
  | add hfresh => apply h.released.add hfresh.1
  | sweep heffs hexpiry => apply (h.sweep heffs hexpiry).released
  | delete heffs hdisposal heffs' hdisposal' =>
      have hnone := fun q hq n hlive => hleak (.deleted (n := n) (p := q) hq hlive)
      obtain ⟨hm₁, hgone⟩ := h.dispose hnone heffs hdisposal
      apply (hm₁.dispose hgone heffs' hdisposal').1.released
  | interval m env ph => exact hsame rfl _ rfl (by simp [timerLife, packetLife])
  | _ => exact hsame rfl [] (List.append_nil _).symm (by simp)

end Owning

/-! ### Where a medium halts -/

/-- A packet that no node has been given is leaked. -/
theorem Owning.packet_leaks {es : List Event} (h : Owning m)
    (hlog : m'.log = m.log ++ .newPacket m.nextPkt :: es) (hno : ∀ e ∈ es, packetLife e = none)
    (hpacket : ∀ q, (m'.nodes q).packet = (m.nodes q).packet) :
  ¬ Released m'
  := by
  intro hreleased
  have hk : m.nextPkt ∈ packets m'.log := by
    have hsplit : m'.log = (m.log ++ [.newPacket m.nextPkt]) ++ es := by simp [hlog]
    rw [hsplit, packets, existing_append_none packetLife hno, existing_concat]
    apply Finset.mem_insert_self
  obtain ⟨q, hq, -⟩ := hreleased.packets _ hk
  rw [hpacket q] at hq
  apply lt_irrefl _ (h.history.packet_lt h.consistent hq)

/-- A data indication that stops the thread leaks its packet. -/
theorem HandlerError.leaks {nodeId : UInt64} {frame : List UInt8} {e : Stop}
    (herror : HandlerError host env m p n (blankCksum frame) .handleDataIndication e m')
    (hreceived : Received host nodeId .handleDataIndication frame) (h : Owning m)
    (hlive : m.nodes p = .live n) :
  ¬ Released m'
  := by
  obtain ⟨pkt₀, hnew₀, -, hack₀⟩ := hreceived.packet m.nextPkt p
  have hput : ∀ isAck q, ((m.takePacket.putNode p (n.setTxTime isAck)).nodes q).packet
      = (m.nodes q).packet := by
    intro isAck q
    by_cases hq : q = p
    · subst hq
      rw [hlive, putNode_nodes_self]
      rfl
    · simp [Medium.putNode, hq, Medium.takePacket]
  cases herror with
  | packet hnew =>
      rw [hnew₀] at hnew
      cases hnew
  | dataInd => exact h.packet_leaks rfl (by simp) (fun _ => rfl)
  | isAck => exact h.packet_leaks rfl (by simp) (fun _ => rfl)
  | timerStart => exact h.packet_leaks rfl (by simp) (fun _ => rfl)
  | create isAck => exact h.packet_leaks rfl (by simp) (hput isAck)
  | arm isAck =>
      have hlog : ((m.takePacket.putNode p (n.setTxTime isAck)).record
          [.timerCreate p .txTimer]).log
          = m.log ++ .newPacket m.nextPkt :: [.timerCreate p .txTimer] := by
        simp [Medium.record, Medium.putNode, Medium.takePacket]
      exact h.packet_leaks hlog (by simp [packetLife]) (hput isAck)

/-- Other messages that stop the thread leak nothing. -/
theorem HandlerError.released {msg : List UInt8} {handler : Handler} {e : Stop}
    (herror : HandlerError host env m p n msg handler e m')
    (hother : handler ≠ .handleDataIndication) (h : Released m) (hplaced : m.Placed p n)
    (hlive : m.nodes p = .live n) :
  Released m'
  := by
  cases herror with
  | os => apply h
  | osVersion => exact h.putNode hlive (by rintro (_ | _) <;> rfl) rfl
  | regCon => exact h.putNode hlive (by rintro (_ | _) <;> rfl) rfl
  | registerNode hstate hreg =>
      rw [hplaced.registering hstate] at hreg
      cases hreg
  | deregisterNode hreg hhash =>
      apply absurd ⟨hreg, hhash⟩ hplaced.not_missed
  | ccaReq =>
      apply h.same rfl (by simp [timerLife, packetLife])
      · intro q t
        rfl
      · intro q
        rfl
  | _ => apply absurd rfl hother

/-- An event that stops the thread leaks the packet of a data indication, and nothing else. -/
theorem EventError.released {ev : PollEvent} {e : Stop}
    (herror : EventError host env m ev p n e m') (h : Owning m) (hplaced : m.Placed p n)
    (hlive : m.nodes p = .live n) :
  Released m' ↔ ∀ msg rest, ¬ (¬ ev.rdhup ∧ ev.input ∧
    readMsgFrame host n.getNodeId ev.delivery ev.unread
      = .ok (.call .handleDataIndication msg) rest)
  := by
  cases herror with
  | closed _ hreg hhash =>
      apply absurd ⟨hreg, hhash⟩ hplaced.not_missed
  | read _ _ hread => simp [hread, h.released]
  | @handled handler msg rest e m' hrdhup hinput hread hhandler =>
      obtain ⟨frame, hreceived, rfl⟩ := readMsgFrame_call hread
      by_cases hdata : handler = .handleDataIndication
      · subst hdata
        have hleak := hhandler.leaks hreceived h hlive
        constructor
        · intro hreleased
          apply absurd hreleased hleak
        · intro hnone
          apply absurd ⟨hrdhup, hinput, hread⟩ (hnone _ _)
      · constructor
        · rintro - msg rest ⟨-, -, hread'⟩
          rw [hread] at hread'
          cases hread'
          apply hdata rfl
        · intro _
          apply hhandler.released hdata h.released hplaced hlive

/-- A data indication stops the thread where it is refused, or where its timer fails. -/
theorem HandlerError.refused {nodeId : UInt64} {frame : List UInt8} {e : Stop}
    (herror : HandlerError host env m p n (blankCksum frame) .handleDataIndication e m')
    (hreceived : Received host nodeId .handleDataIndication frame) (h : TxConsistent m)
    (hlive : m.nodes p = .live n) :
  n.curState ≠ .active ∨ env.nodeTimerCreate = false ∨ env.nodeTimerSettime = false
  := by
  obtain ⟨pkt₀, hnew₀, -, hack₀⟩ := hreceived.packet m.nextPkt p
  cases herror with
  | packet hnew =>
      rw [hnew₀] at hnew
      cases hnew
  | dataInd _ hrefusal =>
      left
      intro hstate
      rw [hstate] at hrefusal
      cases hrefusal
  | isAck hnew _ hack =>
      rw [hnew₀] at hnew
      cases hnew
      rw [hack₀] at hack
      cases hack
  | timerStart _ hstate hstarted =>
      have hidle := h.idle (h.not_mem hlive (by simp [hstate])) hlive
      rw [hidle.txTimer] at hstarted
      cases hstarted
  | create _ _ _ _ hcreate =>
      right; left
      apply hcreate
  | arm _ _ _ _ _ hsettime =>
      right; right
      apply hsettime

/-- The relay of a packet leaks nothing when it stops. -/
theorem RelayError.released (hrelay : RelayError host (m.txDone p n pkt) p (n.txDone pkt)
      { pkt with txDoneResult := txDoneOk } m') (h : Released m) (hlive : m.nodes p = .live n)
    (hpkt : n.txPkt = some pkt) :
  Released m'
  := by
  have hdone : Released (m.txDone p n pkt) := by
    apply h.update rfl rfl
    · intro e he q t hq
      simp at he
      rcases he with rfl | rfl <;> simp [timerLife, hq.symm]
    · intro t
      have hmem := h.timers p t
      rw [hlive] at hmem
      cases t <;> simp [existing_append, lifeStep, timerLife, hmem, NodeCell.Runs,
        DeviceNode.timer, DeviceNode.txDone]
    · simp [packetLife]
    · simp [hlive, NodeCell.packet, DeviceNode.txDone, hpkt]
  cases hrelay with
  | short => apply hdone
  | @dump pkt₁ pkt₂ hrssi hcksum =>
      have hid : pkt₂.id = pkt.id := by
        rw [(NetSimPacket.write_id hcksum).1, (NetSimPacket.write_id hrssi).1]
      have hput : Released
          ((m.txDone p n pkt).putNode p { n.txDone pkt with txPkt := some pkt₂ }) := by
        apply hdone.putNode (putNode_nodes_self m p _)
        · rintro (_ | _) <;> rfl
        · simp [DeviceNode.txDone, hid]
      apply hput.same rfl (by simp [timerLife, packetLife])
      · intro q t
        rfl
      · intro q
        rfl

/-- The addition of a node that stops leaks its timer where it has been created. -/
theorem AddError.released {socket : UInt64} {e : Stop}
    (herror : AddError env m p socket e m') (h : Released m) (hborn : m.nodes p = .unborn) :
  Released m' ↔
    ¬ (env.sendMsg = Hdr.size ∧ env.nodeTimerCreate ∧ env.nodeTimerSettime = false)
  := by
  have hasked : Released (m.asked p socket) := by
    apply h.update rfl rfl
    · simp [timerLife]
    · intro t
      have hmem := h.timers p t
      rw [hborn] at hmem
      cases t <;> simp [existing_append, lifeStep, timerLife, hmem, NodeCell.Runs,
        DeviceNode.timer, DeviceNode.new]
    · simp [packetLife]
    · rw [hborn]
      rfl
  cases herror with
  | send hsend => simp [hasked, hsend]
  | create hsend hcreate => simp [hasked, hcreate]
  | arm hsend hcreate hsettime =>
      simp only [hsend, hcreate, hsettime, and_self, not_true_eq_false, iff_false]
      intro hreleased
      have hmem : (p, .regTimer) ∈
          timers ((m.asked p socket).log ++ [.timerCreate p .regTimer]) := by
        rw [timers, existing_concat]
        apply Finset.mem_insert_self
      have hruns := (hreleased.timers p .regTimer).mp hmem
      simp [Medium.record, Medium.asked, Medium.putNode, NodeCell.Runs, DeviceNode.timer,
        DeviceNode.new] at hruns
  | epoll hsend hcreate hsettime =>
      simp only [hsettime, Bool.true_eq_false, and_false, not_false_eq_true, iff_true]
      have hadd : Released ((Effect.add p socket).apply m) := h.add hborn
      refine hadd.kept rfl ?_ ?_
      · intro q t
        rfl
      · intro q
        rfl

/-! ### Nodes on the transmit list -/

/-- Only the end of its transmission deletes the transmit timer of a node. -/
theorem timer_kept {eff : Effect} (hq : (q, .txTimer) ∈ timers m.log)
    (hother : ∀ j n pkt buf, eff ≠ .conclude j q n pkt buf) :
  (q, .txTimer) ∈ timers (eff.apply m).log
  := by
  rw [eff.log_apply]
  apply mem_existing_of timerLife hq
  intro e he
  have hdelete : ∀ p n, e ∈ deleteEvents p n → timerLife e ≠ some (.delete (q, .txTimer)) := by
    intro p n he
    rcases (deleteEvents_life he).1 with hlife | hlife <;> simp [hlife]
  cases eff with
  | failedRead => cases he
  | confirm p n os osVersion =>
      simp only [Effect.events] at he
      split at he
      · obtain rfl := List.mem_singleton.mp he
        simp [timerLife]
      · cases he
  | disconnect p n asked =>
      rcases List.mem_append.mp he with he | he
      · cases asked with
        | false => cases he
        | true =>
            obtain rfl := List.mem_singleton.mp he
            simp [timerLife]
      · apply hdelete p n he
  | request =>
      obtain rfl := List.mem_singleton.mp he
      simp [timerLife]
  | transmit p n pkt itValue =>
      simp [Effect.events] at he
      rcases he with rfl | rfl | rfl | rfl <;> simp [timerLife]
  | answer =>
      obtain rfl := List.mem_singleton.mp he
      simp [timerLife]
  | collide => cases he
  | conclude j p n pkt buf =>
      have hqp : p ≠ q := by
        rintro rfl
        apply hother j n pkt buf rfl
      cases hcollided : pkt.collision <;> simp [Effect.events, concludeEvents, hcollided] at he
      · rcases he with rfl | rfl | rfl | rfl | rfl <;> simp [timerLife, hqp]
      · rcases he with rfl | rfl | rfl | rfl <;> simp [timerLife, hqp]
  | expire key p n => apply hdelete p n he
  | dispose map key p n => apply hdelete p n he
  | add p socket =>
      simp [Effect.events] at he
      rcases he with rfl | rfl | rfl <;> simp [timerLife]

/-- The transmit timers of the nodes on the transmit list exist, also of those that have been
deleted. -/
def Medium.TxTimed (m : Medium) : Prop := ∀ p ∈ m.txList, (p, .txTimer) ∈ timers m.log

theorem Medium.TxTimed.effects {effs : List Effect} (h : m.TxTimed) (heffs : Effects m effs m')
    (hother : ∀ eff ∈ effs, ¬ eff.IsTx ∧ ∀ p socket, eff ≠ .add p socket) :
  m'.TxTimed
  := by
  have hlist := (txNeutral_effects heffs hother).txList
  have hkept : ∀ q, (q, .txTimer) ∈ timers m.log → (q, .txTimer) ∈ timers m'.log := by
    intro q hq
    apply heffs.invariant (P := fun m => (q, .txTimer) ∈ timers m.log) hq hother
    intro m₁ eff hm₁ heff _
    apply timer_kept hm₁
    rintro j n pkt buf rfl
    apply heff.1 trivial
  intro p hp
  rw [hlist] at hp
  apply hkept p (h p hp)

theorem Medium.TxTimed.next (h : s.med.TxTimed) (hcons : TxConsistent s.med)
    (hnext : Next host kind s i s') :
  s'.med.TxTimed
  := by
  have heffect : ∀ {eff : Effect}, (eff.apply s.med).txList = s.med.txList →
      (∀ q j n pkt buf, eff ≠ .conclude j q n pkt buf) → (eff.apply s.med).TxTimed := by
    intro eff hlist hother q hq
    rw [hlist] at hq
    apply timer_kept (h q hq) (hother q)
  cases hnext with
  | poll hdata hlive heff hguard =>
      cases heff with
      | closed => exact heffect rfl (by simp)
      | failedRead => exact heffect rfl (by simp)
      | handled _ _ _ _ _ _ _ heff =>
          cases heff with
          | transmit pkt itValue =>
              intro q hq
              rcases List.mem_append.mp hq with hq | hq
              · apply timer_kept (h q hq) (by simp)
              · obtain rfl := List.mem_singleton.mp hq
                simp [Effect.apply, existing_append, lifeStep, timerLife]
          | _ => exact heffect rfl (by simp)
  | answer => exact heffect rfl (by simp)
  | collide => exact heffect rfl (by simp)
  | add => exact heffect rfl (by simp)
  | conclude hguard =>
      intro q hq
      rw [(hcons.conclude_txList hguard).2, hcons.nodup.mem_erase_iff] at hq
      apply timer_kept (h q hq.2)
      rintro j n pkt buf heq
      cases heq
      apply hq.1 rfl
  | sweep heffs hexpiry =>
      apply h.effects heffs
      intro eff heff
      apply (hexpiry eff heff).not_isTx
  | delete heffs hdisposal heffs' hdisposal' =>
      have hmiddle : Medium.TxTimed _ :=
        h.effects heffs (fun eff heff => (hdisposal eff heff).not_isTx)
      apply hmiddle.effects heffs' (fun eff heff => (hdisposal' eff heff).not_isTx)
  | interval m env ph =>
      intro q hq
      apply mem_existing_of timerLife (h q hq)
      simp [timerLife]
  | _ => apply h

theorem txTimed_reachable (h : (medium host kind).Reachable s) :
  s.med.TxTimed
  := by
  apply (h.invariant (P := fun s => TxConsistent s.med ∧ s.med.TxTimed) _ _).2
  · rintro s rfl
    exact ⟨.initial, by simp [Medium.TxTimed, Medium.new]⟩
  · rintro x y j ⟨hcons, hx⟩ henabled hstep
    have hnext := next_of_step henabled hstep
    exact ⟨hcons.next (txNext_of_next hnext), hx.next hcons hnext⟩

/-- The timer of a node that has been deleted while it transmits is leaked. -/
theorem Medium.Dangling.not_released (h : m.Dangling p) (htimed : m.TxTimed) :
  ¬ Released m
  := by
  intro hreleased
  have hruns := (hreleased.timers p .txTimer).mp (htimed p h.1)
  rw [h.2] at hruns
  apply hruns

/-! ### Runs -/

/-- An event that disconnects a node of a medium in order does not stop the thread. -/
theorem CutsOff.not_halts {x : Stop × Medium} (h : CutsOff host s i) (hord : Orderly s) :
  ¬ (medium host kind).Halts s i x
  := by
  rintro ⟨-, hstep⟩
  cases h with
  | @event m env ph ev evs p n hdata hlive hp hdisconnects =>
      have hmem := (hord.lifecycle.placed hlive).isSome
      by_cases hrdhup : ev.rdhup
      · simp [medium, Sys.step, stepProg, runStep, processPollerEvent_closed hdata hrdhup,
          deregisterNode_ok hlive hmem] at hstep
      · obtain ⟨hinput, msg, rest, hread⟩ := hdisconnects.resolve_left hrdhup
        simp [medium, Sys.step, stepProg, runStep, processPollerEvent_input hdata hrdhup hinput,
          readMsg_eq hlive, hread, callHandler, handleDeregistrationRequest_ok hlive hmem] at hstep

/-- A step that calls `handleDataIndication` and goes on has not refused the message. -/
theorem Indicates.accepted (h : Indicates host s (.run env) p msg) (hlive : s.med.nodes p = .live n)
    (hstep : s.step host kind (.run env) = .ok s') :
  n.curState = .active ∧ env.nodeTimerCreate ∧ env.nodeTimerSettime
  := by
  cases h with
  | @event m _ ph ev evs _ n' msg rest hdata hlive' hrdhup hinput hread =>
      rw [hlive] at hlive'
      cases hlive'
      cases hcall : handleDataIndication host env p msg m with
      | error e m₁ =>
          simp [Sys.step, stepProg, runStep, processPollerEvent_input hdata hrdhup hinput,
            readMsg_eq hlive, hread, callHandler, hcall] at hstep
      | ok u m₁ =>
          obtain ⟨henv, pkt, itValue, -, hguard, -⟩ := handleDataIndication_ok hlive hcall
          exact ⟨hguard.2.1, henv⟩

/-- A step that leaks and goes on leaves a timer or a packet that belongs to no node. -/
theorem Leaks.not_released (h : Leaks host s i) (hreach : (medium host kind).Reachable s)
    (henabled : s.Enabled i) (hstep : s.step host kind i = .ok s') :
  ¬ Released s'.med
  := by
  have hreach' : (medium host kind).Reachable s' := hreach.step henabled hstep
  have htimed := txTimed_reachable hreach'
  cases h with
  | cutOff hcut =>
      obtain ⟨⟨p, hdangling⟩, -⟩ := hcut.dangling hstep
      apply hdangling.not_released htimed
  | @deleted m env p n hp hlive =>
      have hord := Orderly.reachable hreach
      obtain ⟨m₁, hdelete, -, -, hgone⟩ :=
        deleteMedium_destroys hord.lifecycle henabled.2.1 henabled.2.2
      have hmed : s'.med = m₁ := by
        simp [Sys.step, stepProg, hdelete] at hstep
        rw [← hstep]
      have hlist : s'.med.txList = m.txList := by
        cases txNext_of_next (next_of_step henabled hstep) with
        | neutral hkept => apply hkept.txList
      have hp' : p ∈ s'.med.txList := hlist ▸ hp
      have hdangling : s'.med.Dangling p := by
        use hp'
        cases hcell : s'.med.nodes p with
        | destroyed => rfl
        | live n' =>
            rw [hmed] at hcell
            apply absurd hcell (hgone p n')
        | unborn => apply absurd hcell ((Orderly.reachable hreach').consistent.born hp')
      apply hdangling.not_released htimed
  | refused hind hlive hrefused =>
      obtain ⟨hstate, hcreate, hsettime⟩ := hind.accepted hlive hstep
      rcases hrefused with hrefused | hrefused | hrefused
      · apply absurd hstate hrefused
      · rw [hcreate] at hrefused
        cases hrefused
      · rw [hsettime] at hrefused
        cases hrefused
  | unarmed hsend hcreate hsettime =>
      simp [Sys.step, stepProg, addNode_unarmed hsend hcreate hsettime] at hstep

/-- A step of the thread that leaks processes an event. -/
theorem Leaks.poll {pc : Pc} (h : Leaks host ⟨pc, m⟩ (.run env)) :
  ∃ ph ev evs, pc = .poll ph (ev :: evs)
  := by
  cases h with
  | cutOff hcut =>
      cases hcut
      exact ⟨_, _, _, rfl⟩
  | refused hind =>
      cases hind
      exact ⟨_, _, _, rfl⟩

/-- Where a medium that has leaked nothing halts, the timers and packets that exist belong to
nodes, unless it leaks there. -/
theorem released_halts {e : Stop} (hnone : NoneCutOff s) (h : Owning s.med)
    (hhalts : (medium host kind).Halts s i (e, m')) :
  Released m' ↔ ¬ Leaks host s i
  := by
  have hquiet : ∀ {m' pc m env}, s = ⟨pc, m⟩ → i = .run env →
      (∀ ph ev evs, pc ≠ .poll ph (ev :: evs)) → Released m' →
      (Released m' ↔ ¬ Leaks host s i) := by
    rintro m' pc m env rfl rfl hpc hreleased
    constructor
    · intro _ hleak
      obtain ⟨ph, ev, evs, hpoll⟩ := hleak.poll
      apply hpc ph ev evs hpoll
    · intro _
      apply hreleased
  cases halt_of_halts hnone.orderly hhalts with
  | clock m env =>
      apply hquiet rfl rfl (by simp)
      exact h.released.kept rfl (fun _ _ => Iff.rfl) (fun _ => rfl)
  | interval m env ph =>
      apply hquiet rfl rfl (by simp)
      exact h.released.same rfl (by simp [timerLife, packetLife]) (fun _ _ => Iff.rfl)
        (fun _ => rfl)
  | epollWait => apply hquiet rfl rfl (by simp) h.released
  | timeLeft => apply hquiet rfl rfl (by simp) h.released
  | txTimer => apply hquiet rfl rfl (by simp) h.released
  | relay buf hguard hclear hrelay =>
      apply hquiet rfl rfl (by simp)
      apply hrelay.released h.released hguard.2.1 hguard.2.2.2.1
  | sweep heffs hexpiry =>
      apply hquiet rfl rfl (by simp)
      apply (h.sweep heffs hexpiry).released
  | @noObject pc _ _ _ _ hpc hp hgone _ =>
      have hthere : pc ≠ .deleted := by
        rintro rfl
        rcases hpc with hpc | ⟨i, hpc⟩ <;> cases hpc
      obtain ⟨n, hlive⟩ := hnone.there hthere _ hp
      apply absurd hlive (hgone n)
  | addNode hfresh herror =>
      rw [herror.released h.released hfresh.1, not_iff_not]
      constructor
      · rintro ⟨hsend, hcreate, hsettime⟩
        exact .unarmed hsend hcreate hsettime
      · intro hleak
        cases hleak with
        | cutOff hcut => cases hcut
        | unarmed hsend hcreate hsettime => exact ⟨hsend, hcreate, hsettime⟩
  | @event m _ env ph ev evs p n _ hdata hlive herror =>
      rw [herror.released h (hnone.lifecycle.placed hlive) hlive]
      constructor
      · intro hother hleak
        cases hleak with
        | cutOff hcut => apply hcut.not_halts hnone.orderly hhalts
        | refused hind =>
            cases hind with
            | event hdata' hlive' hrdhup hinput hread =>
                rw [hdata] at hdata'
                cases hdata'
                rw [hlive] at hlive'
                cases hlive'
                apply hother _ _ ⟨hrdhup, hinput, hread⟩
      · rintro hleak msg rest ⟨hrdhup, hinput, hread⟩
        apply hleak
        apply Leaks.refused (.event hdata hlive hrdhup hinput hread) hlive
        cases herror with
        | closed hclosed => apply absurd hclosed hrdhup
        | read _ _ hread' =>
            rw [hread] at hread'
            cases hread'
        | handled _ _ hread' hhandler =>
            rw [hread] at hread'
            cases hread'
            obtain ⟨frame, hreceived, rfl⟩ := readMsgFrame_call hread
            apply hhandler.refused hreceived hnone.consistent hlive

/-- In a run none of whose steps leaks, no node is cut off and every timer and packet belongs to a
node. -/
theorem owning_reaches (h : (medium host kind).Reaches (fun x i => ¬ Leaks host x i) s) :
  NoneCutOff s ∧ Owning s.med
  := by
  apply h.invariant
  · rintro x rfl
    exact ⟨.initial, .initial⟩
  · intro x y i ⟨hnone, hx⟩ henabled hleak hstep
    have hnext := next_of_step henabled hstep
    exact ⟨hnone.next (fun hcut => hleak (.cutOff hcut)) hnext, hx.next hleak hnext⟩

/-- In all states of a run, and in the medium it leaves, the timers that exist are the started ones
of the nodes that are there and every packet is that of exactly one of these, exactly when no step
of the run leaks. -/
theorem released_iff {m : Medium} (run : (medium host kind).Run ⟨.start, Medium.new⟩ visits s)
    (hend : Ending host kind s last m) :
  ((∀ x, (x = s ∨ ∃ i, (x, i) ∈ visits) → Released x.med) ∧ Released m) ↔
    ∀ v ∈ visits ++ last, ¬ Leaks host v.1 v.2
  := by
  have hreaches : ∀ {x before}, (medium host kind).Run ⟨.start, Medium.new⟩ before x →
      (∀ v ∈ before, ¬ Leaks host v.1 v.2) → NoneCutOff x ∧ Owning x.med :=
    fun hrun hnone => owning_reaches ⟨_, _, rfl, hrun, hnone⟩
  constructor
  · rintro ⟨hstates, hleft⟩
    have hvisits : ∀ v ∈ visits, ¬ Leaks host v.1 v.2 := by
      rintro ⟨x, i⟩ hv hleak
      obtain ⟨before, hrun, -, henabled⟩ := run.visited hv
      obtain ⟨y, hstep, hy⟩ := run.successor hv
      apply hleak.not_released ⟨_, before, rfl, hrun, by simp⟩ henabled hstep
      apply hstates
      rcases hy with hy | rfl
      · right
        apply hy
      · left
        rfl
    intro v hv
    rcases List.mem_append.mp hv with hv | hv
    · apply hvisits v hv
    · cases hend with
      | here => cases hv
      | halted hhalts =>
          obtain rfl := List.mem_singleton.mp hv
          obtain ⟨hnone, howning⟩ := hreaches run hvisits
          apply (released_halts hnone howning hhalts).mp hleft
  · intro hnone
    have hvisits : ∀ v ∈ visits, ¬ Leaks host v.1 v.2 :=
      fun v hv => hnone v (List.mem_append_left _ hv)
    have hkept := hreaches run hvisits
    constructor
    · rintro x (rfl | ⟨i, hx⟩)
      · apply hkept.2.released
      · obtain ⟨before, hrun, hbefore, -⟩ := run.visited hx
        apply (hreaches hrun _).2.released
        intro v hv
        apply hvisits v (hbefore.subset (List.mem_append_left _ hv))
    · cases hend with
      | here => apply hkept.2.released
      | halted hhalts =>
          apply (released_halts hkept.1 hkept.2 hhalts).mpr
          apply hnone _ (List.mem_append_right _ (List.mem_singleton_self _))

/-- The socket of a node is closed while the node transmits: the node is deleted, and its transmit
timer still exists. -/
theorem close_leaks_timer :
  ∃ s, (medium .little .powerline).Reachable s ∧ s.med.nodes 1 = .destroyed ∧
    (1, .txTimer) ∈ timers s.med.log ∧ ¬ Released s.med
  := by
  obtain ⟨m, hreach, htxList, hdestroyed⟩ := reachable_closed .little .powerline 1 7
  have hdangling : m.Dangling 1 := ⟨by simp [htxList], hdestroyed⟩
  have htimed := txTimed_reachable hreach
  exact ⟨_, hreach, hdestroyed, htimed 1 hdangling.1, hdangling.not_released htimed⟩

/-- The run to where the socket has been closed has a step that leaks. -/
theorem released_closed :
  ∃ visits s, (medium .little .powerline).Run ⟨.start, Medium.new⟩ visits s ∧
    ∃ v ∈ visits, Leaks .little v.1 v.2
  := by
  obtain ⟨m, hreach, htxList, hdestroyed⟩ := reachable_closed .little .powerline 1 7
  have hdangling : m.Dangling 1 := ⟨by simp [htxList], hdestroyed⟩
  have hleaked := hdangling.not_released (txTimed_reachable hreach)
  obtain ⟨s₀, visits, rfl, run, -⟩ := hreach
  refine ⟨visits, _, run, ?_⟩
  by_contra hnone
  apply hleaked
  apply ((released_iff run .here).mpr _).2
  intro v hv hleak
  rw [List.append_nil] at hv
  apply hnone ⟨v, hv, hleak⟩

end X6losim
