import X6losim.Lib.History
import X6losim.Sim.Next
import Mathlib.Data.List.Nodup

/-!
# The transmit list

A live node is on the transmit list exactly while it is in the transmitting state, with a packet
and its transmit timer started.  `TxNext` lists what a step of a medium can do to transmissions:
nothing, or the effects that start one, that mark colliding ones, or that end one.
-/

open Bytes History

namespace X6losim

variable {host : ByteOrder} {kind : Kind} {m m' : Medium} {p : NodePtr} {n : DeviceNode}

/-! ### Steps that leave transmissions as they are -/

/-- The events that have to do with transmissions. -/
def Event.isTx : Event → Bool
  | .sent _ (.txDoneInd _) => true
  | .multicast _ _ _ => true
  | .dataIndication _ _ => true
  | .txEnter _ _ => true
  | .txLeave _ => true
  | _ => false

/-- A node that is not transmitting. -/
structure DeviceNode.TxIdle (n : DeviceNode) : Prop where
  curState : n.curState ≠ .tx
  txTimer : n.txTimer.started = false
  txPkt : n.txPkt = none

/-- Two nodes are both transmitting or both not, with the same packet and the same timer. -/
structure DeviceNode.TxAlike (n n' : DeviceNode) : Prop where
  curState : n'.curState = .tx ↔ n.curState = .tx
  txTimer : n'.txTimer = n.txTimer
  txPkt : n'.txPkt = n.txPkt

/-- What becomes of a pointer when transmissions are left as they are. -/
inductive NodeCell.TxKept : NodeCell → NodeCell → Prop where
  | same (c : NodeCell) : TxKept c c
  | alike {n n' : DeviceNode} : n.TxAlike n' → TxKept (.live n) (.live n')
  | deleted (c : NodeCell) : TxKept c .destroyed
  | added {n : DeviceNode} : n.TxIdle → TxKept .unborn (.live n)

theorem NodeCell.TxKept.trans {c c' c'' : NodeCell} (h : c.TxKept c') (h' : c'.TxKept c'') :
  c.TxKept c''
  := by
  cases h' with
  | same => apply h
  | deleted => apply NodeCell.TxKept.deleted
  | alike halike' =>
      cases h with
      | same => apply NodeCell.TxKept.alike halike'
      | alike halike =>
          apply NodeCell.TxKept.alike
          exact ⟨halike'.curState.trans halike.curState, halike'.txTimer.trans halike.txTimer,
            halike'.txPkt.trans halike.txPkt⟩
      | added hidle =>
          apply NodeCell.TxKept.added
          constructor
          · rw [ne_eq, halike'.curState]
            apply hidle.curState
          · rw [halike'.txTimer, hidle.txTimer]
          · rw [halike'.txPkt, hidle.txPkt]
  | added hidle =>
      cases h with
      | same => apply NodeCell.TxKept.added hidle

/-- Transmissions are left as they are. -/
structure TxNeutral (m m' : Medium) : Prop where
  txList : m'.txList = m.txList
  stats : m'.stats = m.stats
  nextPkt : m'.nextPkt = m.nextPkt
  log : ∃ es, m'.log = m.log ++ es ∧ ∀ e ∈ es, e.isTx = false
  nodes : ∀ p, (m.nodes p).TxKept (m'.nodes p)

namespace TxNeutral

theorem refl (m : Medium) :
  TxNeutral m m
  where
  txList := rfl
  stats := rfl
  nextPkt := rfl
  log := ⟨[], (List.append_nil _).symm, by simp⟩
  nodes _ := .same _

theorem trans {m₁ m₂ m₃ : Medium} (h : TxNeutral m₁ m₂) (h' : TxNeutral m₂ m₃) :
  TxNeutral m₁ m₃
  where
  txList := h'.txList.trans h.txList
  stats := h'.stats.trans h.stats
  nextPkt := h'.nextPkt.trans h.nextPkt
  log := by
    obtain ⟨es, hes, hno⟩ := h.log
    obtain ⟨es', hes', hno'⟩ := h'.log
    use es ++ es', by rw [hes', hes, List.append_assoc]
    intro e he
    rcases List.mem_append.mp he with he | he
    · apply hno e he
    · apply hno' e he
  nodes p := (h.nodes p).trans (h'.nodes p)

/-- Nothing but events of other kinds, the maps and the clear channel assessment list is
changed. -/
theorem same (hnodes : m'.nodes = m.nodes) (htxList : m'.txList = m.txList)
    (hstats : m'.stats = m.stats) (hnext : m'.nextPkt = m.nextPkt) (es : List Event)
    (hlog : m'.log = m.log ++ es) (hno : ∀ e ∈ es, e.isTx = false) :
  TxNeutral m m'
  where
  txList := htxList
  stats := hstats
  nextPkt := hnext
  log := ⟨es, hlog, hno⟩
  nodes q := by
    rw [hnodes]
    apply NodeCell.TxKept.same

/-- One pointer is changed besides. -/
theorem update {c : NodeCell} (hnodes : m'.nodes = Function.update m.nodes p c)
    (hkept : (m.nodes p).TxKept c) (htxList : m'.txList = m.txList)
    (hstats : m'.stats = m.stats) (hnext : m'.nextPkt = m.nextPkt) (es : List Event)
    (hlog : m'.log = m.log ++ es) (hno : ∀ e ∈ es, e.isTx = false) :
  TxNeutral m m'
  where
  txList := htxList
  stats := hstats
  nextPkt := hnext
  log := ⟨es, hlog, hno⟩
  nodes q := by
    rw [hnodes]
    by_cases hq : q = p
    · subst hq
      rw [Function.update_self]
      apply hkept
    · rw [Function.update_of_ne hq]
      apply NodeCell.TxKept.same

end TxNeutral

/-- The effects that start, mark or end transmissions. -/
def Effect.IsTx : Effect → Prop
  | transmit _ _ _ _ => True
  | collide => True
  | conclude _ _ _ _ _ => True
  | _ => False

theorem Effect.IsExpiry.not_isTx {env : Env} {eff : Effect} (h : eff.IsExpiry env) :
  ¬ eff.IsTx ∧ ∀ p socket, eff ≠ .add p socket
  := by
  refine ⟨?_, h.not_add⟩
  obtain ⟨key, p, n, rfl, -⟩ := h
  apply not_false

theorem Effect.IsDisposal.not_isTx {map : MapName} {eff : Effect} (h : eff.IsDisposal map) :
  ¬ eff.IsTx ∧ ∀ p socket, eff ≠ .add p socket
  := by
  refine ⟨?_, h.not_add⟩
  obtain ⟨key, p, n, rfl⟩ := h
  apply not_false

theorem deleteEvents_isTx (p : NodePtr) (n : DeviceNode) :
  ∀ e ∈ deleteEvents p n, e.isTx = false
  := by
  intro e he
  rcases mem_deleteEvents he with rfl | rfl
  · rfl
  · rfl

/-- Every other effect leaves transmissions as they are. -/
theorem txNeutral_apply {eff : Effect} (hguard : eff.Guard m) (hother : ¬ eff.IsTx)
    (hfresh : ∀ p socket, eff = .add p socket → m.Fresh p socket) :
  TxNeutral m (eff.apply m)
  := by
  have hlog := eff.log_apply m
  cases eff with
  | failedRead p n =>
      exact .update rfl (by rw [hguard]; exact .alike ⟨Iff.rfl, rfl, rfl⟩) rfl rfl rfl _ hlog
        (by simp [Effect.events])
  | confirm p n os osVersion =>
      obtain ⟨hlive, hstate, -⟩ := hguard
      have hkept : (m.nodes p).TxKept (.live { n with
          os, osVersion, curState := .active
          regTimer := { n.regTimer with started := false } }) := by
        rw [hlive]
        exact .alike ⟨by simp [hstate], rfl, rfl⟩
      refine .update rfl hkept rfl rfl rfl _ hlog ?_
      intro e he
      simp only [Effect.events] at he
      split at he
      · simp at he
        rw [he]
        rfl
      · cases he
  | disconnect p n asked =>
      refine .update rfl (.deleted _) rfl rfl rfl _ hlog ?_
      intro e he
      rcases List.mem_append.mp he with he | he
      · cases asked with
        | false => cases he
        | true =>
            obtain rfl := List.mem_singleton.mp he
            rfl
      · apply deleteEvents_isTx p n e he
  | request p n => exact .same rfl rfl rfl rfl _ hlog (by simp [Effect.events, Event.isTx])
  | transmit p n pkt itValue => apply absurd trivial hother
  | answer p rest => exact .same rfl rfl rfl rfl _ hlog (by simp [Effect.events, Event.isTx])
  | collide => apply absurd trivial hother
  | conclude i p n pkt buf => apply absurd trivial hother
  | expire key p n =>
      exact .update rfl (.deleted _) rfl rfl rfl _ hlog (deleteEvents_isTx p n)
  | dispose map key p n =>
      have hdispose := deleteEvents_isTx p n
      cases map with
      | regListMap => exact .update rfl (.deleted _) rfl rfl rfl _ hlog hdispose
      | nodeHashMap => exact .update rfl (.deleted _) rfl rfl rfl _ hlog hdispose
  | add p socket =>
      have hkept : (m.nodes p).TxKept (.live (DeviceNode.registering socket)) := by
        rw [(hfresh p socket rfl).1]
        exact .added ⟨by simp [DeviceNode.registering, DeviceNode.new], rfl, rfl⟩
      exact .update rfl hkept rfl rfl rfl _ hlog (by simp [Effect.events, Event.isTx])

/-- A sequence of other effects leaves transmissions as they are. -/
theorem txNeutral_effects {effs : List Effect} (heffs : Effects m effs m')
    (hother : ∀ eff ∈ effs, ¬ eff.IsTx ∧ ∀ p socket, eff ≠ .add p socket) :
  TxNeutral m m'
  := by
  apply heffs.invariant (P := fun m' => TxNeutral m m') (.refl m) hother
  intro m₁ eff hm₁ heff hguard
  apply hm₁.trans
  apply txNeutral_apply hguard heff.1
  intro p socket heq
  apply absurd heq (heff.2 p socket)

/-! ### What a step can do to transmissions -/

/-- What a step of a medium can do to transmissions.  When it leaves them as they are, it starts
to process the transmit list only where nothing collides. -/
inductive TxNext (kind : Kind) : Sys → Sys → Prop where
  | neutral {s s' : Sys} : TxNeutral s.med s'.med →
      (∀ i, s'.pc = .processTxList i →
        (∃ j, s.pc = .processTxList j) ∨ kind = .wireless ∨ s.med.txList.length ≤ 1) →
      TxNext kind s s'
  | transmit {ph : Phase} {ev : PollEvent} {evs : List PollEvent} {m : Medium} {p : NodePtr}
      {n : DeviceNode} {pkt : NetSimPacket} {itValue : Timespec} :
      (Effect.transmit p n pkt itValue).Guard m →
      TxNext kind ⟨.poll ph (ev :: evs), m⟩
        ⟨.poll ph evs, (Effect.transmit p n pkt itValue).apply m⟩
  | collide {m : Medium} : kind = .powerline → Effect.collide.Guard m →
      TxNext kind ⟨.txCollisionCheck, m⟩ ⟨.processTxList 0, Effect.collide.apply m⟩
  | conclude {m : Medium} {i : Nat} {p : NodePtr} {n : DeviceNode} {pkt : NetSimPacket}
      {buf : List UInt8} : (Effect.conclude i p n pkt buf).Guard m →
      TxNext kind ⟨.processTxList i, m⟩
        ⟨.processTxList i, (Effect.conclude i p n pkt buf).apply m⟩

/-- What a step of a medium does to transmissions. -/
theorem txNext_of_next {s s' : Sys} {i : Input} (hnext : Next host kind s i s') :
  TxNext kind s s'
  := by
  have hassign : ∀ (m : Medium) (state : PhysicalMediumState) (curTime : Timespec),
      TxNeutral m { m with state, curTime } := by
    intro m state curTime
    exact .same rfl rfl rfl rfl [] (List.append_nil _).symm (by simp)
  cases hnext with
  | move hmove =>
      refine .neutral (.refl _) ?_
      intro j hj
      cases hmove with
      | noCollision hnone =>
          right
          apply hnone
      | waiting i p n hentry hlive =>
          left
          exact ⟨i, rfl⟩
      | _ => cases hj
  | start m env curTime => exact .neutral (hassign m _ _) (by simp)
  | interval m env ph =>
      refine .neutral (.same rfl rfl rfl rfl [.interval ph.waitms] rfl ?_) (by simp)
      simp [Event.isTx]
  | @poll m env ph ev evs p n eff hdata hlive heff hguard =>
      by_cases htx : eff.IsTx
      · cases eff with
        | transmit p n pkt itValue => apply TxNext.transmit hguard
        | collide => cases heff with | handled _ _ _ _ _ _ _ heff => cases heff
        | conclude => cases heff with | handled _ _ _ _ _ _ _ heff => cases heff
        | _ => apply False.elim htx
      · refine .neutral (txNeutral_apply hguard htx ?_) (by simp)
        intro q socket heq
        apply absurd heq (heff.not_add q socket)
  | unblocked => exact .neutral (hassign _ _ _) (by simp)
  | mark => exact .neutral (hassign _ _ _) (by simp)
  | answer hguard => exact .neutral (txNeutral_apply hguard not_false (by simp)) (by simp)
  | collide hkind hguard => apply TxNext.collide hkind hguard
  | conclude hguard => apply TxNext.conclude hguard
  | resetIdle m env => exact .neutral (hassign m _ _) (by simp)
  | sweep heffs hexpiry =>
      refine .neutral (txNeutral_effects heffs ?_) (by simp)
      intro eff heff
      apply (hexpiry eff heff).not_isTx
  | exiting m env => exact .neutral (hassign m _ _) (by simp)
  | @add m env pc p socket hfresh =>
      have hguard : (Effect.add p socket).Guard m := trivial
      refine .neutral (txNeutral_apply hguard not_false ?_) ?_
      · intro q socket' heq
        cases heq
        apply hfresh
      · intro j hj
        left
        exact ⟨j, hj⟩
  | stop m pc =>
      refine .neutral (hassign m _ _) ?_
      intro j hj
      left
      exact ⟨j, hj⟩
  | delete heffs hdisposal heffs' hdisposal' =>
      refine .neutral (.trans (txNeutral_effects heffs ?_) (txNeutral_effects heffs' ?_)) (by simp)
      · intro eff heff
        apply (hdisposal eff heff).not_isTx
      · intro eff heff
        apply (hdisposal' eff heff).not_isTx

/-- A step adds to the log. -/
theorem TxNext.log {s s' : Sys} (hnext : TxNext kind s s') :
  ∃ es, s'.med.log = s.med.log ++ es
  := by
  cases hnext with
  | neutral hneutral =>
      obtain ⟨es, hlog, -⟩ := hneutral.log
      exact ⟨es, hlog⟩
  | transmit => exact ⟨_, Effect.log_apply ..⟩
  | collide => exact ⟨_, Effect.log_apply ..⟩
  | conclude => exact ⟨_, Effect.log_apply ..⟩

/-! ### The transmit list and the states of the nodes -/

/-- The live nodes on the transmit list are those that transmit. -/
structure TxConsistent (m : Medium) : Prop where
  nodup : m.txList.Nodup
  born : ∀ {p}, p ∈ m.txList → m.nodes p ≠ .unborn
  transmitting : ∀ {p n}, p ∈ m.txList → m.nodes p = .live n →
    n.curState = .tx ∧ n.txTimer.started ∧ ∃ pkt, n.txPkt = some pkt
  idle : ∀ {p n}, p ∉ m.txList → m.nodes p = .live n → n.TxIdle

namespace TxConsistent

theorem initial :
  TxConsistent Medium.new
  where
  nodup := List.nodup_nil
  born h := by cases h
  transmitting h := by cases h
  idle _ h := by cases h

/-- A node that is not transmitting is not on the list. -/
theorem not_mem (h : TxConsistent m) (hlive : m.nodes p = .live n) (hstate : n.curState ≠ .tx) :
  p ∉ m.txList
  := by
  intro hp
  apply hstate (h.transmitting hp hlive).1

theorem mem (h : TxConsistent m) (hlive : m.nodes p = .live n) (hstate : n.curState = .tx) :
  p ∈ m.txList
  := by
  by_contra hp
  apply (h.idle hp hlive).curState hstate

end TxConsistent

/-- A node that is on the list and still there was there before, and transmitted the same. -/
theorem TxNeutral.live {n' : DeviceNode} (hkept : TxNeutral m m') (h : TxConsistent m)
    (hp : p ∈ m.txList) (hlive : m'.nodes p = .live n') :
  ∃ n, m.nodes p = .live n ∧ n.TxAlike n'
  := by
  have hnode := hkept.nodes p
  rw [hlive] at hnode
  cases hcell : m.nodes p with
  | unborn => apply absurd hcell (h.born hp)
  | destroyed =>
      rw [hcell] at hnode
      cases hnode
  | live n =>
      rw [hcell] at hnode
      cases hnode with
      | same => exact ⟨_, rfl, Iff.rfl, rfl, rfl⟩
      | alike halike => exact ⟨_, rfl, halike⟩

namespace TxConsistent

theorem neutral (h : TxConsistent m) (hkept : TxNeutral m m') :
  TxConsistent m'
  where
  nodup := by
    rw [hkept.txList]
    apply h.nodup
  born {p} hp := by
    rw [hkept.txList] at hp
    intro hcell
    have hnode := hkept.nodes p
    rw [hcell] at hnode
    cases hcell' : m.nodes p with
    | unborn => apply h.born hp hcell'
    | live n =>
        rw [hcell'] at hnode
        cases hnode
    | destroyed =>
        rw [hcell'] at hnode
        cases hnode
  transmitting {p n'} hp hlive := by
    rw [hkept.txList] at hp
    obtain ⟨n, hlive', halike⟩ := hkept.live h hp hlive
    obtain ⟨hstate, hstarted, pkt, hpkt⟩ := h.transmitting hp hlive'
    refine ⟨halike.curState.mpr hstate, ?_, pkt, ?_⟩
    · rw [halike.txTimer]
      apply hstarted
    · rw [halike.txPkt]
      apply hpkt
  idle {p n'} hp hlive := by
    rw [hkept.txList] at hp
    have hnode := hkept.nodes p
    rw [hlive] at hnode
    cases hcell : m.nodes p with
    | unborn =>
        rw [hcell] at hnode
        cases hnode with
        | added hidle => apply hidle
    | destroyed =>
        rw [hcell] at hnode
        cases hnode
    | live n =>
        have hidle := h.idle hp hcell
        rw [hcell] at hnode
        cases hnode with
        | same => apply hidle
        | alike halike =>
            constructor
            · rw [ne_eq, halike.curState]
              apply hidle.curState
            · rw [halike.txTimer]
              apply hidle.txTimer
            · rw [halike.txPkt]
              apply hidle.txPkt

/-- An active node that starts to transmit. -/
theorem transmit {pkt : NetSimPacket} {itValue : Timespec} (h : TxConsistent m)
    (hguard : (Effect.transmit p n pkt itValue).Guard m) :
  TxConsistent ((Effect.transmit p n pkt itValue).apply m)
  := by
  obtain ⟨hlive, hstate, -⟩ := hguard
  have hnew : p ∉ m.txList := h.not_mem hlive (by simp [hstate])
  constructor
  · apply List.nodup_append.mpr
    refine ⟨h.nodup, by simp, ?_⟩
    rintro q hq q' hq' rfl
    rw [List.mem_singleton.mp hq'] at hq
    apply hnew hq
  · intro q hq
    by_cases hqp : q = p
    · subst hqp
      simp [Effect.apply]
    · have hq' : q ∈ m.txList := by simpa [Effect.apply, hqp] using hq
      simpa [Effect.apply, hqp] using h.born hq'
  · intro q n' hq hn'
    rcases live_of_update hn' with ⟨rfl, ⟨⟩⟩ | ⟨hqp, hn'⟩
    · exact ⟨rfl, rfl, pkt, rfl⟩
    · have hq' : q ∈ m.txList := by simpa [Effect.apply, hqp] using hq
      apply h.transmitting hq' hn'
  · intro q n' hq hn'
    have hqp : q ≠ p := by
      rintro rfl
      apply hq
      simp [Effect.apply]
    simp only [Effect.apply, Function.update_of_ne hqp] at hn'
    have hq' : q ∉ m.txList := by simpa [Effect.apply, hqp] using hq
    apply h.idle hq' hn'

/-- The marking of the packets of all transmitting nodes. -/
theorem collide (h : TxConsistent m) :
  TxConsistent (Effect.collide.apply m)
  where
  nodup := h.nodup
  born {q} hq := by
    have hborn := h.born hq
    simp only [Effect.apply]
    cases hcell : m.nodes q with
    | unborn => apply absurd hcell hborn
    | live n => split <;> simp [NodeCell.collide]
    | destroyed => split <;> simp [NodeCell.collide]
  transmitting {q n'} hq hn' := by
    have hq' : q ∈ m.txList := hq
    simp only [Effect.apply, if_pos hq'] at hn'
    cases hcell : m.nodes q with
    | unborn =>
        rw [hcell] at hn'
        cases hn'
    | destroyed =>
        rw [hcell] at hn'
        cases hn'
    | live n =>
        obtain ⟨hstate, hstarted, pkt, hpkt⟩ := h.transmitting hq' hcell
        rw [hcell] at hn'
        cases hn'
        exact ⟨hstate, hstarted, { pkt with collision := true }, by
          rw [DeviceNode.collide, hpkt, Option.map_some]⟩
  idle {q n'} hq hn' := by
    have hq' : q ∉ m.txList := hq
    simp only [Effect.apply, if_neg hq'] at hn'
    apply h.idle hq' hn'

/-- The end of a transmission takes the node off the list. -/
theorem conclude_txList {i : Nat} {pkt : NetSimPacket} {buf : List UInt8} (h : TxConsistent m)
    (hguard : (Effect.conclude i p n pkt buf).Guard m) :
  p ∈ m.txList ∧ ((Effect.conclude i p n pkt buf).apply m).txList = m.txList.erase p
  := by
  obtain ⟨hi, hp⟩ := List.getElem?_eq_some_iff.mp hguard.1
  constructor
  · rw [← hp]
    apply List.getElem_mem
  · simp only [Effect.apply]
    rw [← hp, h.nodup.erase_getElem]

/-- The end of the transmission of a node. -/
theorem conclude {i : Nat} {pkt : NetSimPacket} {buf : List UInt8} (h : TxConsistent m)
    (hguard : (Effect.conclude i p n pkt buf).Guard m) :
  TxConsistent ((Effect.conclude i p n pkt buf).apply m)
  := by
  have herase := (h.conclude_txList hguard).2
  have hmem : ∀ q, q ∈ ((Effect.conclude i p n pkt buf).apply m).txList ↔
      q ≠ p ∧ q ∈ m.txList := by
    intro q
    rw [herase]
    apply h.nodup.mem_erase_iff
  constructor
  · rw [herase]
    apply h.nodup.erase
  · intro q hq
    obtain ⟨hqp, hq⟩ := (hmem q).mp hq
    simpa [Effect.apply, hqp] using h.born hq
  · intro q n' hq hn'
    obtain ⟨hqp, hq⟩ := (hmem q).mp hq
    simp only [Effect.apply, Function.update_of_ne hqp] at hn'
    apply h.transmitting hq hn'
  · intro q n' hq hn'
    rcases live_of_update hn' with ⟨rfl, ⟨⟩⟩ | ⟨hqp, hn'⟩
    · exact ⟨by simp, rfl, rfl⟩
    · have hq' : q ∉ m.txList := fun hmem' => hq ((hmem q).mpr ⟨hqp, hmem'⟩)
      apply h.idle hq' hn'

/-- Every step of a medium keeps the transmit list consistent. -/
theorem next {s s' : Sys} (h : TxConsistent s.med) (hnext : TxNext kind s s') :
  TxConsistent s'.med
  := by
  cases hnext with
  | neutral hkept => apply h.neutral hkept
  | transmit hguard => apply h.transmit hguard
  | collide => apply h.collide
  | conclude hguard => apply h.conclude hguard

end TxConsistent

end X6losim
