import X6losim.Invariant.Polling
import X6losim.Invariant.TxHistory

/-!
# The owners of timers and packets

The timers of nodes and the packets that exist are those that the log shows created and not
deleted.  `Released` says that each of them belongs to a node that is there.
-/

open Bytes History

namespace X6losim

variable {m m' : Medium} {p q : NodePtr} {n : DeviceNode} {pkt : NetSimPacket}

/-! ### Timers and packets that exist -/

/-- The events by which the timers of nodes are created and deleted. -/
def timerLife : Event → Option (Life (NodePtr × TimerName))
  | .timerCreate p t => some (.create (p, t))
  | .timerDelete p t => some (.delete (p, t))
  | _ => none

/-- The events by which packets are created and deleted. -/
def packetLife : Event → Option (Life PktId)
  | .newPacket k => some (.create k)
  | .deletePacket k => some (.delete k)
  | _ => none

/-- The timers of nodes that exist. -/
abbrev timers (log : List Event) : Finset (NodePtr × TimerName) := existing timerLife log

/-- The packets that exist. -/
abbrev packets (log : List Event) : Finset PktId := existing packetLife log

/-- A timer of the node that a pointer leads to is started. -/
def NodeCell.Runs (t : TimerName) : NodeCell → Prop
  | .live n => (n.timer t).started
  | _ => False

/-- The packet of the node that a pointer leads to. -/
def NodeCell.packet : NodeCell → Option PktId
  | .live n => n.txPkt.map NetSimPacket.id
  | _ => none

/-- The timers that exist are the started ones of the nodes that are there, and every packet that
exists is that of exactly one of these. -/
structure Released (m : Medium) : Prop where
  timers : ∀ p t, (p, t) ∈ timers m.log ↔ (m.nodes p).Runs t
  packets : ∀ k ∈ packets m.log, ∃! p, (m.nodes p).packet = some k

theorem Released.initial :
  Released Medium.new
  where
  timers _ _ := by simp [Medium.new, NodeCell.Runs]
  packets k hk := by cases hk

/-! ### What keeps them -/

/-- When no timer is started or stopped and no packet changes hands, they stay released. -/
theorem Released.same {es : List Event} (h : Released m) (hlog : m'.log = m.log ++ es)
    (hno : ∀ e ∈ es, timerLife e = none ∧ packetLife e = none)
    (hruns : ∀ q t, (m'.nodes q).Runs t ↔ (m.nodes q).Runs t)
    (hpacket : ∀ q, (m'.nodes q).packet = (m.nodes q).packet) :
  Released m'
  := by
  have htimers : ∀ e ∈ es, timerLife e = none := fun e he => (hno e he).1
  have hpackets : ∀ e ∈ es, packetLife e = none := fun e he => (hno e he).2
  constructor
  · intro p t
    rw [hlog, X6losim.timers, existing_append_none timerLife htimers, hruns]
    apply h.timers
  · intro k hk
    rw [hlog, X6losim.packets, existing_append_none packetLife hpackets] at hk
    simp only [hpacket]
    apply h.packets k hk

/-- They stay released when nothing is logged either. -/
theorem Released.kept (h : Released m) (hlog : m'.log = m.log)
    (hruns : ∀ q t, (m'.nodes q).Runs t ↔ (m.nodes q).Runs t)
    (hpacket : ∀ q, (m'.nodes q).packet = (m.nodes q).packet) :
  Released m'
  := by
  have hlog' : m'.log = m.log ++ [] := by rw [hlog, List.append_nil]
  apply h.same hlog' (by simp) hruns hpacket

/-- A node is changed, and its timers run as before and its packet is the same. -/
theorem Released.putNode {n' : DeviceNode} (h : Released m) (hlive : m.nodes p = .live n)
    (hruns : ∀ t, (n'.timer t).started = (n.timer t).started)
    (hpkt : n'.txPkt.map NetSimPacket.id = n.txPkt.map NetSimPacket.id) :
  Released (m.putNode p n')
  := by
  refine h.kept rfl ?_ ?_
  · intro q t
    by_cases hq : q = p
    · subst hq
      rw [hlive, putNode_nodes_self]
      simp only [NodeCell.Runs, hruns]
    · simp [Medium.putNode, hq]
  · intro q
    by_cases hq : q = p
    · subst hq
      rw [hlive, putNode_nodes_self]
      apply hpkt
    · simp [Medium.putNode, hq]

/-- The timers when one pointer is changed, with its timers. -/
theorem Released.timers_update {c : NodeCell} {es : List Event} (h : Released m)
    (hnodes : m'.nodes = Function.update m.nodes p c) (hlog : m'.log = m.log ++ es)
    (hother : ∀ e ∈ es, ∀ q t, q ≠ p → timerLife e ≠ some (.create (q, t)) ∧
      timerLife e ≠ some (.delete (q, t)))
    (hself : ∀ t, (p, t) ∈ X6losim.timers (m.log ++ es) ↔ c.Runs t) (q : NodePtr)
    (t : TimerName) :
  (q, t) ∈ X6losim.timers m'.log ↔ (m'.nodes q).Runs t
  := by
  rw [hlog, hnodes]
  by_cases hq : q = p
  · rw [hq, Function.update_self]
    apply hself
  · rw [Function.update_of_ne hq, ← h.timers]
    apply mem_existing_other
    intro e he
    apply hother e he q t hq

/-- One pointer is changed, with its timers, and keeps its packet. -/
theorem Released.update {c : NodeCell} {es : List Event} (h : Released m)
    (hnodes : m'.nodes = Function.update m.nodes p c) (hlog : m'.log = m.log ++ es)
    (hother : ∀ e ∈ es, ∀ q t, q ≠ p → timerLife e ≠ some (.create (q, t)) ∧
      timerLife e ≠ some (.delete (q, t)))
    (hself : ∀ t, (p, t) ∈ X6losim.timers (m.log ++ es) ↔ c.Runs t)
    (hpackets : ∀ e ∈ es, packetLife e = none) (hpacket : c.packet = (m.nodes p).packet) :
  Released m'
  where
  timers := h.timers_update hnodes hlog hother hself
  packets k hk := by
    have hsame : ∀ q, (m'.nodes q).packet = (m.nodes q).packet := by
      intro q
      rw [hnodes]
      by_cases hq : q = p
      · rw [hq, Function.update_self, hpacket]
      · rw [Function.update_of_ne hq]
    rw [hlog, X6losim.packets, existing_append_none packetLife hpackets] at hk
    simp only [hsame]
    apply h.packets k hk

/-- The timers of a node that does not transmit do not exist after its deletion. -/
theorem Released.not_mem_delete {es : List Event} (h : Released m) (hlive : m.nodes p = .live n)
    (hstopped : n.txTimer.started = false) (hno : ∀ e ∈ es, timerLife e = none) (t : TimerName) :
  (p, t) ∉ X6losim.timers (m.log ++ (es ++ deleteEvents p n))
  := by
  have hmem : (p, t) ∈ X6losim.timers (m.log ++ es) ↔ (n.timer t).started := by
    rw [X6losim.timers, existing_append_none timerLife hno, h.timers, hlive]
    rfl
  rw [← List.append_assoc, X6losim.timers, existing_append]
  cases hstarted : n.regTimer.started with
  | false =>
      have hnone : (n.timer t).started = false := by
        cases t with
        | regTimer => apply hstarted
        | txTimer => apply hstopped
      simp [deleteEvents, hstarted, lifeStep, timerLife, hmem, hnone]
  | true =>
      cases t with
      | regTimer => simp [deleteEvents, hstarted, lifeStep, timerLife]
      | txTimer =>
          simp [deleteEvents, hstarted, lifeStep, timerLife, hmem, DeviceNode.timer, hstopped]

/-- The deletion of a node creates no timer, and deletes none of another node. -/
theorem deleteEvents_life {e : Event} (he : e ∈ deleteEvents p n) :
  (timerLife e = none ∨ timerLife e = some (.delete (p, .regTimer))) ∧ packetLife e = none
  := by
  rcases mem_deleteEvents he with rfl | rfl
  · simp [timerLife, packetLife]
  · simp [timerLife, packetLife]

/-- A node that does not transmit is deleted with its timers, and has no packet. -/
theorem Released.delete {es : List Event} (h : Released m) (hlive : m.nodes p = .live n)
    (hidle : n.TxIdle) (hnodes : m'.nodes = Function.update m.nodes p .destroyed)
    (hlog : m'.log = m.log ++ (es ++ deleteEvents p n))
    (hno : ∀ e ∈ es, timerLife e = none ∧ packetLife e = none) :
  Released m'
  := by
  have hmem : ∀ e ∈ es ++ deleteEvents p n,
      (timerLife e = none ∨ timerLife e = some (.delete (p, .regTimer))) ∧
        packetLife e = none := by
    intro e he
    rcases List.mem_append.mp he with he | he
    · exact ⟨Or.inl (hno e he).1, (hno e he).2⟩
    · apply deleteEvents_life he
  apply h.update hnodes hlog
  · intro e he q t hq
    rcases (hmem e he).1 with hlife | hlife
    · simp [hlife]
    · rw [hlife]
      simp [hq.symm]
  · intro t
    have hnot := h.not_mem_delete hlive hidle.txTimer (fun e he => (hno e he).1) t
    simp only [hnot, NodeCell.Runs]
  · intro e he
    apply (hmem e he).2
  · rw [hlive]
    simp [NodeCell.packet, hidle.txPkt]

/-! ### Effects -/

/-- The packets of nodes have ids that have been given out. -/
theorem TxHistory.packet_lt {k : PktId} (h : TxHistory m) (hcons : TxConsistent m)
    (hk : (m.nodes q).packet = some k) :
  k < m.nextPkt
  := by
  cases hcell : m.nodes q with
  | live n =>
      cases hpkt : n.txPkt with
      | none => simp [hcell, NodeCell.packet, hpkt] at hk
      | some pkt =>
          have hid : pkt.id = k := by simpa [hcell, NodeCell.packet, hpkt] using hk
          have hq : q ∈ m.txList := by
            by_contra hq
            rw [(hcons.idle hq hcell).txPkt] at hpkt
            cases hpkt
          rw [← hid]
          apply h.fresh_onAir List.prefix_rfl ((h.onAir_iff hcell hpkt).mpr ⟨hq, rfl⟩)
  | unborn => simp [hcell, NodeCell.packet] at hk
  | destroyed => simp [hcell, NodeCell.packet] at hk

theorem Released.confirm {os osVersion : List UInt8} (h : Released m)
    (hlive : m.nodes p = .live n) :
  Released ((Effect.confirm p n os osVersion).apply m)
  := by
  apply h.update rfl rfl
  · intro e he q t hq
    cases hstarted : n.regTimer.started with
    | false => simp [hstarted] at he
    | true =>
        simp [hstarted] at he
        simp [he, timerLife, hq.symm]
  · intro t
    have hmem := h.timers p t
    rw [hlive] at hmem
    cases hstarted : n.regTimer.started <;> cases t <;>
      simp_all [existing_append, lifeStep, timerLife, NodeCell.Runs, DeviceNode.timer]
  · intro e he
    cases hstarted : n.regTimer.started with
    | false => simp [hstarted] at he
    | true =>
        simp [hstarted] at he
        simp [he, packetLife]
  · rw [hlive]
    rfl

theorem Released.add {socket : UInt64} (h : Released m) (hborn : m.nodes p = .unborn) :
  Released ((Effect.add p socket).apply m)
  := by
  apply h.update rfl rfl
  · intro e he q t hq
    simp at he
    rcases he with rfl | rfl | rfl <;> simp [timerLife, hq.symm]
  · intro t
    have hmem := h.timers p t
    rw [hborn] at hmem
    cases t with
    | regTimer =>
        simp [existing_append, lifeStep, timerLife, NodeCell.Runs, DeviceNode.timer,
          DeviceNode.registering]
    | txTimer =>
        simp [existing_append, lifeStep, timerLife, hmem, NodeCell.Runs, DeviceNode.timer,
          DeviceNode.registering, DeviceNode.new]
  · simp [packetLife]
  · rw [hborn]
    rfl

theorem Released.transmit {itValue : Timespec} (h : Released m) (hcons : TxConsistent m)
    (hhist : TxHistory m) (hguard : (Effect.transmit p n pkt itValue).Guard m) :
  Released ((Effect.transmit p n pkt itValue).apply m)
  := by
  obtain ⟨hlive, hstate, -, hid, -⟩ := hguard
  constructor
  · apply h.timers_update rfl rfl
    · intro e he q t hq
      simp at he
      rcases he with rfl | rfl | rfl | rfl <;> simp [timerLife, hq.symm]
    · intro t
      have hmem := h.timers p t
      rw [hlive] at hmem
      cases t with
      | regTimer =>
          simp [existing_append, lifeStep, timerLife, hmem, NodeCell.Runs, DeviceNode.timer]
      | txTimer => simp [existing_append, lifeStep, timerLife, NodeCell.Runs, DeviceNode.timer]
  · intro k hk
    have hidle := hcons.idle (hcons.not_mem hlive (by simp [hstate])) hlive
    have hnone : (m.nodes p).packet = none := by simp [hlive, NodeCell.packet, hidle.txPkt]
    have hnew : (((Effect.transmit p n pkt itValue).apply m).nodes p).packet = some pkt.id := by
      simp [Effect.apply, NodeCell.packet]
    have hold : ∀ q, q ≠ p → (((Effect.transmit p n pkt itValue).apply m).nodes q).packet
        = (m.nodes q).packet := by
      intro q hq
      simp [Effect.apply, hq]
    by_cases hkid : k = pkt.id
    · subst hkid
      refine ⟨p, hnew, ?_⟩
      intro q hq
      by_contra hqp
      rw [hold q hqp] at hq
      have hlt := hhist.packet_lt hcons hq
      rw [hid] at hlt
      apply lt_irrefl _ hlt
    · have hk' : k ∈ X6losim.packets m.log := by
        simpa [Effect.apply, existing_append, lifeStep, packetLife, hkid] using hk
      obtain ⟨q, hq, hunique⟩ := h.packets k hk'
      have hqp : q ≠ p := by
        rintro rfl
        rw [hnone] at hq
        cases hq
      refine ⟨q, by simpa [hold q hqp] using hq, ?_⟩
      intro q' hq'
      by_cases hqp' : q' = p
      · rw [hqp', hnew] at hq'
        apply absurd (Option.some.inj hq').symm hkid
      · apply hunique
        simpa [hold q' hqp'] using hq'

theorem Released.conclude {j : Nat} {buf : List UInt8} (h : Released m)
    (hguard : (Effect.conclude j p n pkt buf).Guard m) :
  Released ((Effect.conclude j p n pkt buf).apply m)
  := by
  obtain ⟨-, hlive, -, hpkt, -⟩ := hguard
  constructor
  · apply h.timers_update rfl rfl
    · intro e he q t hq
      cases hcollided : pkt.collision <;> simp [concludeEvents, hcollided] at he
      · rcases he with rfl | rfl | rfl | rfl | rfl <;> simp [timerLife, hq.symm]
      · rcases he with rfl | rfl | rfl | rfl <;> simp [timerLife, hq.symm]
    · intro t
      have hmem := h.timers p t
      rw [hlive] at hmem
      cases t <;> cases hcollided : pkt.collision <;>
        simp [concludeEvents, hcollided, existing_append, lifeStep, timerLife, hmem,
          NodeCell.Runs, DeviceNode.timer]
  · intro k hk
    have hk' : k ≠ pkt.id ∧ k ∈ X6losim.packets m.log := by
      cases hcollided : pkt.collision <;>
        simpa [Effect.apply, concludeEvents, hcollided, existing_append, lifeStep, packetLife]
          using hk
    obtain ⟨q, hq, hunique⟩ := h.packets k hk'.2
    have hold : (m.nodes p).packet = some pkt.id := by simp [hlive, NodeCell.packet, hpkt]
    have hother : ∀ q, q ≠ p → (((Effect.conclude j p n pkt buf).apply m).nodes q).packet
        = (m.nodes q).packet := by
      intro q hqp
      simp [Effect.apply, hqp]
    have hqp : q ≠ p := by
      rintro rfl
      rw [hold] at hq
      apply hk'.1 (Option.some.inj hq).symm
    refine ⟨q, by simpa [hother q hqp] using hq, ?_⟩
    intro q' hq'
    by_cases hqp' : q' = p
    · simp [hqp', Effect.apply, NodeCell.packet] at hq'
    · apply hunique
      simpa [hother q' hqp'] using hq'

/-- An effect that deletes no transmitting node leaks nothing. -/
theorem Released.effect {eff : Effect} (h : Released m) (hcons : TxConsistent m)
    (hhist : TxHistory m) (hguard : eff.Guard m) (hkept : ∀ q ∈ m.txList, ¬ eff.Deletes q)
    (hfresh : ∀ p socket, eff = .add p socket → m.Fresh p socket) :
  Released (eff.apply m)
  := by
  have hidle : ∀ {p n}, m.nodes p = .live n → eff.Deletes p → n.TxIdle :=
    fun hlive hdeletes => hcons.idle (fun hp => hkept _ hp hdeletes) hlive
  have hlog := eff.log_apply m
  cases eff with
  | failedRead p n => exact h.putNode hguard (by rintro (_ | _) <;> rfl) rfl
  | confirm p n os osVersion => apply h.confirm hguard.1
  | disconnect p n asked =>
      apply h.delete hguard.1 (hidle hguard.1 rfl) rfl (List.append_assoc ..)
      cases asked <;> simp [timerLife, packetLife]
  | request p n =>
      apply h.same hlog (by simp [Effect.events, timerLife, packetLife])
      · intro q t
        rfl
      · intro q
        rfl
  | transmit p n pkt itValue => apply h.transmit hcons hhist hguard
  | answer p rest =>
      apply h.same hlog (by simp [Effect.events, timerLife, packetLife])
      · intro q t
        rfl
      · intro q
        rfl
  | collide =>
      refine h.kept rfl ?_ ?_
      · intro q t
        simp only [Effect.apply]
        split
        · cases m.nodes q <;> cases t <;> exact Iff.rfl
        · exact Iff.rfl
      · intro q
        simp only [Effect.apply]
        split
        · cases m.nodes q with
          | live n => simp [NodeCell.collide, NodeCell.packet, DeviceNode.collide]; rfl
          | _ => rfl
        · rfl
  | conclude i p n pkt buf => apply h.conclude hguard
  | expire key p n =>
      have hlog' : ((Effect.expire key p n).apply m).log = m.log ++ ([] ++ deleteEvents p n) := hlog
      apply h.delete hguard.2.1 (hidle hguard.2.1 rfl) rfl hlog' (by simp)
  | dispose map key p n =>
      have hlog' : ((Effect.dispose map key p n).apply m).log
          = m.log ++ ([] ++ deleteEvents p n) := hlog
      apply h.delete hguard.2.1 (hidle hguard.2.1 rfl) _ hlog' (by simp)
      cases map <;> rfl
  | add p socket => apply h.add (hfresh p socket rfl).1

end X6losim
