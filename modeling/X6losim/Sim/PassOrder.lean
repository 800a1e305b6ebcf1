import X6losim.Lib.Reorder
import X6losim.Sim.Batch
import X6losim.Sim.Packet
import X6losim.Sim.Passes
import Mathlib.Data.List.Nodup

/-!
# Lists in any order

What the passes do with the entries of a list does not depend on their order.
-/

open Bytes Reorder

namespace X6losim

variable {host : ByteOrder} {kind : Kind} {env : Env} {m m' m₁ : Medium} {p q : NodePtr}
  {n n' : DeviceNode} {pkt pkt' : NetSimPacket}

/-- A node transmits a packet. -/
structure DeviceNode.Transmits (n : DeviceNode) (pkt : NetSimPacket) : Prop where
  curState : n.curState = .tx
  started : n.txTimer.started
  txPkt : n.txPkt = some pkt

/-- The nodes on the transmit list are there once, and transmit a packet. -/
structure Medium.Transmits (m : Medium) : Prop where
  nodup : m.txList.Nodup
  transmitting : ∀ p ∈ m.txList, ∃ n pkt, m.nodes p = .live n ∧ n.Transmits pkt

/-- The nodes on both lists are there, and those on the transmit list transmit. -/
structure Medium.Listed (m : Medium) : Prop extends m.Transmits where
  queued : ∀ p ∈ m.ccaList, ∃ n, m.nodes p = .live n

theorem DeviceNode.anonymous_eq (h : n.anonymous = n'.anonymous) :
  n.curState = n'.curState ∧ n.txTimer = n'.txTimer ∧
    n.txPkt.map NetSimPacket.anonymous = n'.txPkt.map NetSimPacket.anonymous
  := by
  simp only [DeviceNode.anonymous, DeviceNode.mk.injEq] at h
  exact ⟨by simp [h], by simp [h], by simp [h]⟩

theorem DeviceNode.Transmits.anonymous (h : n.Transmits pkt) (hsame : n.anonymous = n'.anonymous) :
  ∃ pkt', n'.Transmits pkt' ∧ pkt.anonymous = pkt'.anonymous
  := by
  obtain ⟨hstate, htimer, hpkt⟩ := DeviceNode.anonymous_eq hsame
  rw [h.txPkt, Option.map_some] at hpkt
  obtain ⟨pkt', hpkt', hsame'⟩ := Option.map_eq_some_iff.mp hpkt.symm
  exact ⟨pkt', ⟨hstate ▸ h.curState, htimer ▸ h.started, hpkt'⟩, hsame'.symm⟩

namespace Medium.SameUpToOrder

theorem transmits (h : m.SameUpToOrder m') (htx : m.Transmits) :
  m'.Transmits
  where
  nodup := h.txList.nodup_iff.mp htx.nodup
  transmitting p hp := by
    obtain ⟨n, pkt, hlive, hn⟩ := htx.transmitting p (h.txList.mem_iff.mpr hp)
    obtain ⟨n', hlive', hsame⟩ := h.live hlive
    obtain ⟨pkt', hn', -⟩ := hn.anonymous hsame
    exact ⟨n', pkt', hlive', hn'⟩

theorem listed (h : m.SameUpToOrder m') (hlisted : m.Listed) :
  m'.Listed
  where
  toTransmits := h.transmits hlisted.toTransmits
  queued p hp := by
    obtain ⟨n, hlive⟩ := hlisted.queued p (h.ccaList.mem_iff.mpr hp)
    obtain ⟨n', hlive', -⟩ := h.live hlive
    exact ⟨n', hlive'⟩

end Medium.SameUpToOrder

/-! ### Clear channel assessments -/

/-- Every node on the list is answered, and the list is empty then. -/
theorem answerEntries_ok (h : ∀ p ∈ m.ccaList, ∃ n, m.nodes p = .live n) :
  answerEntries m.ccaList.length m = .ok () { m with
    ccaList := []
    log := m.log ++ m.ccaList.map (fun p => .sent p (.ccaCon (m.state = .idle))) }
  := by
  generalize hlist : m.ccaList = l
  induction l generalizing m with
  | nil =>
      have hsame : { m with ccaList := [], log := m.log ++ [] } = m := by
        rw [List.append_nil, ← hlist]
      rw [List.map_nil, hsame]
      rfl
  | cons p rest ih =>
      rcases processCcaEntry_cons hlist with ⟨-, hok⟩ | ⟨hgone, -⟩
      · have hrest := @ih ((Effect.answer p rest).apply m) (fun q hq => by
          apply h q
          rw [hlist]
          apply List.mem_cons_of_mem p hq) rfl
        rw [List.length_cons, answerEntries, Exec.bind_eq_ok]
        refine ⟨(), _, hok, ?_⟩
        rw [hrest]
        simp only [Effect.apply, List.map_cons, List.append_assoc, List.singleton_append]
        rfl
      · obtain ⟨n, hlive⟩ := h p (by rw [hlist]; apply List.mem_cons_self ..)
        apply absurd hlive (hgone n)

/-- The messages of answers to the entries of a list. -/
theorem sentTo_map_sent (p : NodePtr) (msg : OutMsg) (l : List NodePtr) :
  sentTo p (l.map (fun q => .sent q msg)) = List.replicate (l.count p) msg
  := by
  induction l with
  | nil => rfl
  | cons q l ih =>
      by_cases hq : q = p
      · subst hq
        rw [List.count_cons_self, List.replicate_succ, ← ih]
        simp [sentTo, Event.msgTo]
      · rw [List.count_cons_of_ne hq, ← ih]
        simp [sentTo, Event.msgTo, hq]

theorem multicasts_map_sent (msg : OutMsg) (l : List NodePtr) :
  multicasts (l.map (fun q => .sent q msg)) = []
  := by
  rw [multicasts, List.filterMap_map]
  apply List.filterMap_eq_nil_iff.mpr
  intro q _
  rfl

/-- The entries of the clear channel assessment list can be answered in any order. -/
theorem processCcaList_same (hlisted : m.Listed) (hsame : m.SameUpToOrder m') :
  ∃ m₁ m₁', processCcaList m = .ok () m₁ ∧ processCcaList m' = .ok () m₁' ∧
    m₁.Listed ∧ m₁.SameUpToOrder m₁'
  := by
  refine ⟨_, _, answerEntries_ok hlisted.queued,
    answerEntries_ok (hsame.listed hlisted).queued, ?_, ?_⟩
  · refine ⟨⟨hlisted.nodup, hlisted.transmitting⟩, ?_⟩
    intro p hp
    cases hp
  · constructor
    case sent =>
      intro p
      rw [sentTo_append, sentTo_append, sentTo_map_sent, sentTo_map_sent, hsame.sent p,
        hsame.ccaList.count_eq, hsame.state]
    case multicasts =>
      rw [multicasts_append, multicasts_append, multicasts_map_sent, multicasts_map_sent,
        List.append_nil, List.append_nil]
      apply hsame.multicasts
    case ccaList => apply List.Perm.refl
    case state => apply hsame.state
    case curTime => apply hsame.curTime
    case nodeHashMap => apply hsame.nodeHashMap
    case regListMap => apply hsame.regListMap
    case txList => apply hsame.txList
    case stats => apply hsame.stats
    case interest => apply hsame.interest
    case nodes => apply hsame.nodes
    case nextPkt => apply hsame.nextPkt

/-! ### Collisions -/

theorem DeviceNode.anonymous_collide (n : DeviceNode) :
  n.collide.anonymous = n.anonymous.collide
  := by
  cases hpkt : n.txPkt <;>
    simp [DeviceNode.collide, DeviceNode.anonymous, NetSimPacket.anonymous, hpkt]

theorem NodeCell.anonymous_collide (c : NodeCell) :
  c.collide.anonymous = c.anonymous.collide
  := by
  cases c with
  | live n => exact congrArg NodeCell.live n.anonymous_collide
  | unborn => rfl
  | destroyed => rfl

theorem Medium.Transmits.hasPacket (h : m.Transmits) (hp : p ∈ m.txList) :
  m.HasPacket p
  := by
  obtain ⟨n, pkt, hlive, hn⟩ := h.transmitting p hp
  exact ⟨n, pkt, hlive, hn.txPkt⟩

theorem Medium.Transmits.collide (h : m.Transmits) :
  (m.collide m.txList).Transmits
  where
  nodup := h.nodup
  transmitting p hp := by
    obtain ⟨n, pkt, hlive, hn⟩ := h.transmitting p hp
    refine ⟨n.collide, { pkt with collision := true }, ?_, hn.curState, hn.started, ?_⟩
    · have hmem : p ∈ m.txList := hp
      simp [Medium.collide, hmem, hlive, NodeCell.collide]
    · rw [DeviceNode.collide, hn.txPkt, Option.map_some]

/-- The packets on the same list are marked. -/
theorem Medium.SameUpToOrder.collide (h : m.SameUpToOrder m') :
  (m.collide m.txList).SameUpToOrder (m'.collide m'.txList)
  where
  state := h.state
  curTime := h.curTime
  nodeHashMap := h.nodeHashMap
  regListMap := h.regListMap
  ccaList := h.ccaList
  txList := h.txList
  stats := h.stats
  interest := h.interest
  nodes p := by
    simp only [Medium.collide, h.txList.mem_iff]
    split
    · rw [NodeCell.anonymous_collide, NodeCell.anonymous_collide, h.nodes p]
    · apply h.nodes p
  nextPkt := h.nextPkt
  sent := h.sent
  multicasts := h.multicasts

/-- Whether packets collide, and which, does not depend on the order of the list. -/
theorem txCollisionCheck_same (kind : Kind) (htx : m.Transmits) (hsame : m.SameUpToOrder m') :
  ∃ m₁ m₁', txCollisionCheck kind m = .ok () m₁ ∧ txCollisionCheck kind m' = .ok () m₁' ∧
    m₁.Transmits ∧ m₁.SameUpToOrder m₁'
  := by
  cases kind with
  | wireless => exact ⟨m, m', rfl, rfl, htx, hsame⟩
  | powerline =>
      have hlength := hsame.txList.length_eq
      by_cases hmany : 1 < m.txList.length
      · have hmany' : 1 < m'.txList.length := hlength ▸ hmany
        refine ⟨m.collide m.txList, m'.collide m'.txList, ?_, ?_, htx.collide, hsame.collide⟩
        · simp [txCollisionCheck, hmany, setCollided_ok (fun p hp => htx.hasPacket hp)]
        · simp [txCollisionCheck, hmany',
            setCollided_ok (fun p hp => (hsame.transmits htx).hasPacket hp)]
      · have hmany' : ¬ 1 < m'.txList.length := hlength ▸ hmany
        refine ⟨m, m', ?_, ?_, htx, hsame⟩
        · simp [txCollisionCheck, hmany]
        · simp [txCollisionCheck, hmany']

/-! ### Transmissions -/

namespace NetSimPacket

theorem anonymous_eq (h : pkt.anonymous = pkt'.anonymous) :
  pkt' = { pkt with id := pkt'.id }
  := by
  cases pkt
  cases pkt'
  simp only [anonymous, NetSimPacket.mk.injEq] at h ⊢
  simp [h]

/-- Writing into a packet does not depend on its identity. -/
theorem write_anonymous {offset : Nat} {bs : List UInt8} {pkt₁ : NetSimPacket}
    (h : pkt.write offset bs = .ok pkt₁) (k : PktId) :
  ({ pkt with id := k } : NetSimPacket).write offset bs = .ok { pkt₁ with id := k }
  := by
  rw [NetSimPacket.write] at h ⊢
  split at h
  · next buf hwrite =>
      cases h
      split
      · next buf' hwrite' =>
          obtain rfl : buf' = buf := Except.ok.inj (hwrite'.symm.trans hwrite)
          rfl
      · next e hwrite' => cases hwrite'.symm.trans hwrite
  · cases h

/-- The relay of a packet does not depend on its identity. -/
theorem relay_anonymous {pkt₁ pkt₂ : NetSimPacket} {bytes : List UInt8}
    (hsame : pkt.anonymous = pkt'.anonymous)
    (hrssi : ({ pkt with txDoneResult := txDoneOk } : NetSimPacket).setRSSI 127 = .ok pkt₁)
    (hcksum : pkt₁.generateChecksum host = .ok pkt₂) (hbytes : pkt₂.pktbuf host = .ok bytes) :
  ∃ pkt₁' pkt₂', ({ pkt' with txDoneResult := txDoneOk } : NetSimPacket).setRSSI 127 = .ok pkt₁' ∧
    pkt₁'.generateChecksum host = .ok pkt₂' ∧ pkt₂'.pktbuf host = .ok bytes ∧
    pkt₂'.pktBuffer = pkt₂.pktBuffer
  := by
  rw [anonymous_eq hsame]
  exact ⟨_, { pkt₂ with id := pkt'.id }, write_anonymous hrssi _, write_anonymous hcksum _, hbytes,
    rfl⟩

end NetSimPacket

/-- The medium when the transmission of a node has ended. -/
def Medium.endTx (m : Medium) (p : NodePtr) (n : DeviceNode) (pkt : NetSimPacket)
    (buf : List UInt8) : Medium :=
  { m with
    nodes := Function.update m.nodes p (.live { n with
      txTimer := { n.txTimer with started := false }, txPkt := none, curState := .active })
    txList := m.txList.erase p
    stats := m.stats.conclude pkt
    log := m.log ++ concludeEvents p pkt buf }

/-- A node is there and transmits a packet. -/
structure Medium.HasTx (m : Medium) (p : NodePtr) (n : DeviceNode) (pkt : NetSimPacket) : Prop
    extends n.Transmits pkt where
  live : m.nodes p = .live n

/-- What becomes of an entry of the transmit list becomes of it wherever its node transmits the
like. -/
theorem processTxEntry_elsewhere {i j : Nat} (htx : m.HasTx p n pkt)
    (hok : processTxEntry host env i p m = .ok j m₁) :
  (j = i + 1 ∧ m₁ = m ∧ ∀ {m' n' pkt'}, m'.HasTx p n' pkt' → pkt.anonymous = pkt'.anonymous →
      ∀ k, processTxEntry host env k p m' = .ok (k + 1) m') ∨
    ∃ buf, j = i ∧ m₁ = (Effect.conclude i p n pkt buf).apply m ∧
      ∀ {m' n' pkt'}, m'.HasTx p n' pkt' → pkt.anonymous = pkt'.anonymous →
        ∀ k, processTxEntry host env k p m' = .ok k ((Effect.conclude k p n' pkt' buf).apply m')
  := by
  have hcollision : ∀ {pkt' : NetSimPacket}, pkt.anonymous = pkt'.anonymous →
      pkt'.collision = pkt.collision := by
    intro pkt' hsame
    rw [NetSimPacket.anonymous_eq hsame]
  have hresult := processTxEntry_result htx.live htx.started htx.curState htx.txPkt host env i
  rw [hok] at hresult
  cases hresult with
  | waits hleft hwait =>
      left
      refine ⟨rfl, rfl, ?_⟩
      intro m' n' pkt' htx' hsame k
      apply processTxEntry_waiting htx'.live htx'.started hleft hwait
  | collided hexpired hcollided =>
      right
      refine ⟨[], rfl, rfl, ?_⟩
      intro m' n' pkt' htx' hsame k
      rw [← hcollision hsame] at hcollided
      apply processTxEntry_collided htx'.live htx'.started hexpired htx'.curState htx'.txPkt
        hcollided
  | @done pkt₁ pkt₂ bytes hexpired hclear hrssi hcksum hbytes =>
      right
      refine ⟨pkt₂.pktBuffer, rfl, rfl, ?_⟩
      intro m' n' pkt' htx' hsame k
      obtain ⟨pkt₁', pkt₂', hrssi', hcksum', hbytes', hbuffer⟩ :=
        NetSimPacket.relay_anonymous hsame hrssi hcksum hbytes
      rw [← hcollision hsame] at hclear
      rw [← hbuffer]
      apply processTxEntry_done htx'.live htx'.started hexpired htx'.curState htx'.txPkt hclear
        hrssi' hcksum' hbytes'

/-! ### The transmit list in any order -/

/-- The entry of a node on the transmit list is processed, wherever it is. -/
def ProcessesTx (host : ByteOrder) (env : Env) (m : Medium) (p : NodePtr) (m' : Medium) : Prop :=
  p ∈ m.txList ∧ ∀ i, m.txList[i]? = some p → ∃ j, processTxEntry host env i p m = .ok j m'

theorem conclude_eq_endTx {i : Nat} {buf : List UInt8} (hnodup : m.txList.Nodup)
    (hi : m.txList[i]? = some p) :
  (Effect.conclude i p n pkt buf).apply m = m.endTx p n pkt buf
  := by
  obtain ⟨hlt, rfl⟩ := List.getElem?_eq_some_iff.mp hi
  rw [Medium.endTx, hnodup.erase_getElem]
  rfl

theorem Medium.Transmits.hasTx (h : m.Transmits) (hp : p ∈ m.txList) :
  ∃ n pkt, m.HasTx p n pkt
  := by
  obtain ⟨n, pkt, hlive, hn⟩ := h.transmitting p hp
  exact ⟨n, pkt, hn, hlive⟩

/-- An entry that is processed is processed alike wherever its node transmits the like: it stays, or
the transmission ends. -/
theorem ProcessesTx.elsewhere (h : ProcessesTx host env m p m₁) (hnodup : m.txList.Nodup)
    (htx : m.HasTx p n pkt) :
  (m₁ = m ∧ ∀ {m' n' pkt'}, m'.txList.Nodup → p ∈ m'.txList → m'.HasTx p n' pkt' →
      pkt.anonymous = pkt'.anonymous → ProcessesTx host env m' p m') ∨
    ∃ buf, m₁ = m.endTx p n pkt buf ∧
      ∀ {m' n' pkt'}, m'.txList.Nodup → p ∈ m'.txList → m'.HasTx p n' pkt' →
        pkt.anonymous = pkt'.anonymous → ProcessesTx host env m' p (m'.endTx p n' pkt' buf)
  := by
  obtain ⟨i, hi⟩ := List.getElem?_of_mem h.1
  obtain ⟨j, hok⟩ := h.2 i hi
  rcases processTxEntry_elsewhere htx hok with ⟨-, rfl, hwaits⟩ | ⟨buf, -, rfl, hends⟩
  · left
    refine ⟨rfl, ?_⟩
    intro m' n' pkt' _ hmem htx' hsame
    refine ⟨hmem, ?_⟩
    intro k hk
    exact ⟨k + 1, hwaits htx' hsame k⟩
  · right
    refine ⟨buf, conclude_eq_endTx hnodup hi, ?_⟩
    intro m' n' pkt' hnodup' hmem htx' hsame
    refine ⟨hmem, ?_⟩
    intro k hk
    rw [← conclude_eq_endTx hnodup' hk]
    exact ⟨k, hends htx' hsame k⟩

/-- The other nodes go on transmitting. -/
theorem Medium.Transmits.endTx {buf : List UInt8} (h : m.Transmits) :
  (m.endTx p n pkt buf).Transmits
  where
  nodup := h.nodup.erase p
  transmitting q hq := by
    obtain ⟨hqp, hmem⟩ := h.nodup.mem_erase_iff.mp hq
    obtain ⟨n', pkt', hlive, hn'⟩ := h.transmitting q hmem
    refine ⟨n', pkt', ?_, hn'⟩
    simp only [Medium.endTx, Function.update_of_ne hqp]
    apply hlive

/-- The end of the transmission of another node leaves a node as it is. -/
theorem Medium.HasTx.endTx {buf : List UInt8} (h : m.HasTx p n pkt) (hne : p ≠ q) :
  (m.endTx q n' pkt' buf).HasTx p n pkt
  where
  toTransmits := h.toTransmits
  live := by
    simp only [Medium.endTx, Function.update_of_ne hne]
    apply h.live

theorem sentTo_concludeEvents (q : NodePtr) (buf : List UInt8) :
  sentTo q (concludeEvents p pkt buf) = if p = q then [.txDoneInd pkt.result] else []
  := by
  rw [concludeEvents]
  cases pkt.collision <;> by_cases hq : p = q <;>
    simp [sentTo, Event.msgTo, hq, List.filterMap_cons]

theorem multicasts_concludeEvents (p : NodePtr) (pkt : NetSimPacket) (buf : List UInt8) :
  multicasts (concludeEvents p pkt buf) = if pkt.collision then [] else [(p, buf)]
  := by
  rw [concludeEvents]
  cases pkt.collision <;> simp [multicasts, Event.multicast?, List.filterMap_cons]

theorem TxStats.conclude_comm (stats : TxStats) (pkt pkt' : NetSimPacket) :
  (stats.conclude pkt).conclude pkt' = (stats.conclude pkt').conclude pkt
  := by
  simp only [TxStats.conclude]
  cases pkt.collision <;> cases pkt'.collision <;> rfl

/-- The ends of the transmissions of two nodes can be exchanged. -/
theorem endTx_swap {buf buf' : List UInt8} (m : Medium) (hne : p ≠ q) :
  ((m.endTx p n pkt buf).endTx q n' pkt' buf').SameUpToOrder
    ((m.endTx q n' pkt' buf').endTx p n pkt buf)
  where
  state := rfl
  curTime := rfl
  nodeHashMap := rfl
  regListMap := rfl
  ccaList := .refl _
  txList := by
    simp only [Medium.endTx]
    rw [List.erase_comm]
  stats := TxStats.conclude_comm ..
  interest := rfl
  nodes r := by
    simp only [Medium.endTx]
    rw [Function.update_comm hne]
  nextPkt := rfl
  sent r := by
    simp only [Medium.endTx, sentTo_append, sentTo_concludeEvents, List.append_assoc]
    by_cases hr : p = r
    · have hr' : ¬ q = r := fun h => hne (hr.trans h.symm)
      simp [hr, hr']
    · simp [hr]
  multicasts := by
    simp only [Medium.endTx, multicasts_append, List.append_assoc]
    apply List.Perm.append_left
    apply List.perm_append_comm

/-- The end of the transmission of a node is the same in media that are the same. -/
theorem Medium.SameUpToOrder.endTx (h : m.SameUpToOrder m') (p : NodePtr)
    (hn : n.anonymous = n'.anonymous) (hpkt : pkt.anonymous = pkt'.anonymous) (buf : List UInt8) :
  (m.endTx p n pkt buf).SameUpToOrder (m'.endTx p n' pkt' buf)
  where
  state := h.state
  curTime := h.curTime
  nodeHashMap := h.nodeHashMap
  regListMap := h.regListMap
  ccaList := h.ccaList
  txList := h.txList.erase p
  stats := by
    rw [NetSimPacket.anonymous_eq hpkt]
    simp only [Medium.endTx]
    rw [h.stats]
    rfl
  interest := h.interest
  nodes q := by
    simp only [Medium.endTx]
    by_cases hq : q = p
    · subst hq
      simp only [Function.update_self, NodeCell.anonymous]
      simp only [DeviceNode.anonymous, DeviceNode.mk.injEq] at hn
      simp [DeviceNode.anonymous, hn]
    · simp only [Function.update_of_ne hq]
      apply h.nodes q
  nextPkt := h.nextPkt
  sent q := by
    rw [NetSimPacket.anonymous_eq hpkt]
    simp only [Medium.endTx, sentTo_append, sentTo_concludeEvents]
    rw [h.sent q]
    rfl
  multicasts := by
    rw [NetSimPacket.anonymous_eq hpkt]
    simp only [Medium.endTx, multicasts_append, multicasts_concludeEvents]
    apply h.multicasts.append_right

/-- The entries of the transmit list can be exchanged. -/
theorem processesTx_commutes (host : ByteOrder) (env : Env) :
  Commutes (ProcessesTx host env) (fun l m => m.Transmits ∧ l.Nodup ∧ ∀ p ∈ l, p ∈ m.txList)
    (fun _ m m' => m.SameUpToOrder m')
  where
  refl _ m := .refl m
  trans h h' := h.trans h'
  ok_perm hperm h := ⟨h.1, hperm.nodup_iff.mp h.2.1, fun p hp => h.2.2 p (hperm.mem_iff.mpr hp)⟩
  same_perm _ h := h
  ok_step {p l m m₁} h hstep := by
    obtain ⟨htx, hnodup, hsub⟩ := h
    obtain ⟨hp, hl⟩ := List.nodup_cons.mp hnodup
    obtain ⟨n, pkt, hn⟩ := htx.hasTx (hsub p (List.mem_cons_self ..))
    rcases hstep.elsewhere htx.nodup hn with ⟨rfl, -⟩ | ⟨buf, rfl, -⟩
    · exact ⟨htx, hl, fun q hq => hsub q (List.mem_cons_of_mem p hq)⟩
    · refine ⟨htx.endTx, hl, ?_⟩
      intro q hq
      apply htx.nodup.mem_erase_iff.mpr
      refine ⟨?_, hsub q (List.mem_cons_of_mem p hq)⟩
      rintro rfl
      apply hp hq
  same_step {p l m m' m₁} h hsame hstep := by
    obtain ⟨htx, -, hsub⟩ := h
    have hmem := hsub p (List.mem_cons_self ..)
    have hnodup' := (hsame.transmits htx).nodup
    have hmem' := hsame.txList.mem_iff.mp hmem
    obtain ⟨n, pkt, hn⟩ := htx.hasTx hmem
    obtain ⟨n', hlive', halike⟩ := hsame.live hn.live
    obtain ⟨pkt', hn', hpkt⟩ := hn.anonymous halike
    rcases hstep.elsewhere htx.nodup hn with ⟨rfl, hwaits⟩ | ⟨buf, rfl, hends⟩
    · exact ⟨m', hwaits hnodup' hmem' ⟨hn', hlive'⟩ hpkt, hsame⟩
    · exact ⟨_, hends hnodup' hmem' ⟨hn', hlive'⟩ hpkt, hsame.endTx p halike hpkt buf⟩
  swap {p q l m m₁ m₂} h hstep hstep' := by
    obtain ⟨htx, hnodup, hsub⟩ := h
    have hp := hsub p (List.mem_cons_self ..)
    have hq := hsub q (List.mem_cons_of_mem p (List.mem_cons_self ..))
    have hne : p ≠ q := by
      rintro rfl
      apply (List.nodup_cons.mp hnodup).1 (List.mem_cons_self ..)
    obtain ⟨n, pkt, hn⟩ := htx.hasTx hp
    obtain ⟨n', pkt', hn'⟩ := htx.hasTx hq
    rcases hstep.elsewhere htx.nodup hn with ⟨rfl, hwaits⟩ | ⟨buf, rfl, hends⟩
    · rcases hstep'.elsewhere htx.nodup hn' with ⟨rfl, -⟩ | ⟨buf', rfl, -⟩
      · exact ⟨_, _, hstep', hstep, .refl _⟩
      · refine ⟨_, _, hstep', hwaits htx.endTx.nodup ?_ (hn.endTx hne) rfl, .refl _⟩
        apply htx.nodup.mem_erase_iff.mpr ⟨hne, hp⟩
    · have hq' : q ∈ (m.endTx p n pkt buf).txList :=
        htx.nodup.mem_erase_iff.mpr ⟨hne.symm, hq⟩
      rcases hstep'.elsewhere htx.endTx.nodup (hn'.endTx hne.symm) with
        ⟨rfl, hwaits'⟩ | ⟨buf', rfl, hends'⟩
      · exact ⟨_, _, hwaits' htx.nodup hq hn' rfl, hstep, .refl _⟩
      · have hp' : p ∈ (m.endTx q n' pkt' buf').txList :=
          htx.nodup.mem_erase_iff.mpr ⟨hne, hp⟩
        exact ⟨_, _, hends' htx.nodup hq hn' rfl,
          hends htx.endTx.nodup hp' (hn.endTx hne) rfl, endTx_swap m hne⟩

/-- The entries after the one of a node whose transmission has ended. -/
theorem drop_endTx {i : Nat} {buf : List UInt8} (hnodup : m.txList.Nodup)
    (hi : m.txList[i]? = some p) :
  (m.endTx p n pkt buf).txList.drop i = m.txList.drop (i + 1)
  := by
  obtain ⟨hlt, rfl⟩ := List.getElem?_eq_some_iff.mp hi
  simp only [Medium.endTx]
  rw [hnodup.erase_getElem, List.eraseIdx_eq_take_drop_succ, List.drop_append_of_le_length]
  · simp
  · simp [le_of_lt hlt]

theorem length_endTx {i k : Nat} {buf : List UInt8} (hp : p ∈ m.txList)
    (hk : i + (k + 1) = m.txList.length) :
  i + k = (m.endTx p n pkt buf).txList.length
  := by
  have hlength := List.length_erase_of_mem hp
  simp only [Medium.endTx]
  omega

/-- The loop of `processTxList` processes the entries one after the other. -/
theorem run_of_processTxEntries {k i : Nat} (htx : m.Transmits) (hk : i + k = m.txList.length)
    (hok : processTxEntries host env k i m = .ok () m₁) :
  Run (ProcessesTx host env) m (m.txList.drop i) m₁
  := by
  induction k generalizing m i with
  | zero =>
      cases hok
      rw [List.drop_eq_nil_of_le (by omega)]
      apply Run.nil
  | succ k ih =>
      have hlt : i < m.txList.length := by omega
      have hi : m.txList[i]? = some m.txList[i] := List.getElem?_eq_getElem hlt
      have hmem : m.txList[i] ∈ m.txList := List.getElem_mem hlt
      rw [processTxEntries, Exec.bind_apply, Exec.get_apply] at hok
      simp only [hi] at hok
      obtain ⟨j, m', hentry, hrest⟩ := Exec.bind_eq_ok.mp hok
      obtain ⟨n, pkt, hn⟩ := htx.hasTx hmem
      -- The entry is at one place only.
      have hstep : ProcessesTx host env m m.txList[i] m' := by
        refine ⟨hmem, ?_⟩
        intro i' hi'
        obtain rfl : i = i' := (List.getElem?_inj hlt htx.nodup).mp (hi.trans hi'.symm)
        exact ⟨j, hentry⟩
      rw [List.drop_eq_getElem_cons hlt]
      apply Run.cons hstep
      rcases processTxEntry_elsewhere hn hentry with ⟨rfl, rfl, -⟩ | ⟨buf, rfl, rfl, -⟩
      · apply ih htx (by omega) hrest
      · rw [conclude_eq_endTx htx.nodup hi] at hrest ⊢
        rw [← drop_endTx htx.nodup hi]
        apply ih htx.endTx (length_endTx hmem hk) hrest

theorem processTxEntries_of_run {k i : Nat} {l : List NodePtr} (htx : m.Transmits)
    (hk : i + k = m.txList.length) (hl : m.txList.drop i = l)
    (hrun : Run (ProcessesTx host env) m l m₁) :
  processTxEntries host env k i m = .ok () m₁
  := by
  induction hrun generalizing k i with
  | nil =>
      have hle := List.drop_eq_nil_iff.mp hl
      obtain rfl : k = 0 := by omega
      rfl
  | @cons m m' m₁ p l hstep hrun ih =>
      have hi : m.txList[i]? = some p := by
        rw [← List.head?_drop, hl, List.head?_cons]
      have hlt := (List.getElem?_eq_some_iff.mp hi).1
      have hrest : m.txList.drop (i + 1) = l := by
        rw [← List.tail_drop, hl, List.tail_cons]
      obtain ⟨k, rfl⟩ : ∃ k', k = k' + 1 := ⟨k - 1, by omega⟩
      obtain ⟨n, pkt, hn⟩ := htx.hasTx hstep.1
      obtain ⟨j, hentry⟩ := hstep.2 i hi
      rw [processTxEntries, Exec.bind_apply, Exec.get_apply]
      simp only [hi]
      rw [Exec.bind_eq_ok]
      refine ⟨j, m', hentry, ?_⟩
      rcases processTxEntry_elsewhere hn hentry with ⟨rfl, rfl, -⟩ | ⟨buf, rfl, rfl, -⟩
      · apply ih htx (by omega) hrest
      · rw [conclude_eq_endTx htx.nodup hi] at ih ⊢
        apply ih htx.endTx (length_endTx hstep.1 hk)
        rw [drop_endTx htx.nodup hi, hrest]

/-- The entries of the transmit list can be processed in any order. -/
theorem processTxList_same (htx : m.Transmits) (hsame : m.SameUpToOrder m')
    (hok : processTxList host env m = .ok () m₁) :
  ∃ m₁', processTxList host env m' = .ok () m₁' ∧ m₁.SameUpToOrder m₁'
  := by
  have hrun := run_of_processTxEntries htx (Nat.zero_add _) hok
  rw [List.drop_zero] at hrun
  obtain ⟨m₁', hrun', hend⟩ := (processesTx_commutes host env).run_perm hsame.txList
    ⟨htx, htx.nodup, fun _ hp => hp⟩ hsame hrun
  refine ⟨m₁', ?_, hend⟩
  apply processTxEntries_of_run (hsame.transmits htx) (Nat.zero_add _) (List.drop_zero ..) hrun'

/-! ### The passes -/

/-- The state variable is set in both. -/
theorem Medium.SameUpToOrder.withState (h : m.SameUpToOrder m') (state : PhysicalMediumState) :
  { m with state }.SameUpToOrder { m' with state }
  := { h with state := rfl }

theorem Medium.SameUpToOrder.arm (h : m.SameUpToOrder m') (waitms : Nat) :
  (m.arm waitms).SameUpToOrder (m'.arm waitms)
  := { h with
    curTime := by
      simp only [Medium.arm]
      rw [h.curTime]
    sent := by
      intro p
      simp only [Medium.arm, sentTo_append]
      rw [h.sent p]
    multicasts := by
      simp only [Medium.arm, multicasts_append]
      apply h.multicasts.append_right }

theorem Medium.SameUpToOrder.txList_nil (h : m.SameUpToOrder m') :
  m.txList = [] ↔ m'.txList = []
  := by
  rw [← List.length_eq_zero_iff, h.txList.length_eq, List.length_eq_zero_iff]

/-- The passes of an idle medium do not stop, and do the same to the same. -/
theorem listPasses_idle (host : ByteOrder) (kind : Kind) (env : Env) (hlisted : m.Listed)
    (hsame : m.SameUpToOrder m') :
  ∃ m₁ m₁', listPasses host kind env .idle m = .ok () m₁ ∧
    listPasses host kind env .idle m' = .ok () m₁' ∧ m₁.Listed ∧ m₁.SameUpToOrder m₁'
  := by
  by_cases hnil : m.txList = []
  · have hnil' := hsame.txList_nil.mp hnil
    obtain ⟨m₁, m₁', hok, hok', hend⟩ := processCcaList_same hlisted hsame
    refine ⟨m₁, m₁', ?_, ?_, hend⟩
    · simp [listPasses, hnil, hok]
    · simp [listPasses, hnil', hok']
  · have hnil' := hsame.txList_nil.not.mp hnil
    have hmarked : { m with state := .tx802514Frame }.Listed := { hlisted with }
    obtain ⟨m₁, m₁', hok, hok', hend⟩ :=
      processCcaList_same hmarked (hsame.withState .tx802514Frame)
    refine ⟨m₁, m₁', ?_, ?_, hend⟩
    · simp [listPasses, hnil, setState, hok]
    · simp [listPasses, hnil', setState, hok']

/-- The passes of a busy medium do the same to the same. -/
theorem listPasses_tx (hlisted : m.Listed) (hsame : m.SameUpToOrder m')
    (hok : listPasses host kind env .tx m = .ok () m₁) :
  ∃ m₁', listPasses host kind env .tx m' = .ok () m₁' ∧ m₁.SameUpToOrder m₁'
  := by
  obtain ⟨m₂, m₂', hcca, hcca', hlisted₂, hsame₂⟩ := processCcaList_same hlisted hsame
  obtain ⟨m₃, m₃', hcheck, hcheck', htx, hsame₃⟩ :=
    txCollisionCheck_same kind hlisted₂.toTransmits hsame₂
  rw [listPasses, Exec.bind_apply, hcca] at hok
  simp only [Exec.bind_apply, hcheck] at hok
  obtain ⟨m₁', hok', hend⟩ := processTxList_same htx hsame₃ hok
  refine ⟨m₁', ?_, hend⟩
  rw [listPasses, Exec.bind_apply, hcca']
  simp only [Exec.bind_apply, hcheck', hok']

/-- The passes that follow the events of an interval do the same to the same. -/
theorem passesFrom_same {ph : Phase} (hlisted : m.Listed) (hsame : m.SameUpToOrder m')
    (hok : passesFrom host kind env ph m = .ok () m₁) :
  ∃ m₁', passesFrom host kind env ph m' = .ok () m₁' ∧ m₁.SameUpToOrder m₁'
  := by
  cases ph with
  | tx => apply listPasses_tx hlisted hsame hok
  | idle =>
      obtain ⟨m₂, m₂', hidle, hidle', hlisted₂, hsame₂⟩ :=
        listPasses_idle host kind env hlisted hsame
      rw [passesFrom, Exec.bind_apply, hidle] at hok
      rw [passesFrom, Exec.bind_apply, hidle']
      by_cases hnil : m₂.txList = []
      · have hnil' := hsame₂.txList_nil.mp hnil
        simp [hnil] at hok
        exact ⟨m₂', by simp [hnil'], hok ▸ hsame₂⟩
      · have hnil' := hsame₂.txList_nil.not.mp hnil
        cases hset : env.timerSettime with
        | false => simp [hnil, armInterval_apply, hset] at hok
        | true =>
            simp [hnil, armInterval_apply, hset] at hok
            simp [hnil', armInterval_apply, hset]
            have harmed : (m₂.arm Phase.tx.waitms).Listed := { hlisted₂ with }
            apply listPasses_tx harmed (hsame₂.arm _) hok

end X6losim
