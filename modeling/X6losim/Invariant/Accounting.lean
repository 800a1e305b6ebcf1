import X6losim.Invariant.TxHistory
import X6losim.Sim.Session

/-!
# The account of transmissions

Every transmission that has been accepted is on the transmit list or has been concluded, once; a
packet is multicast once if its result is that it has been sent, and never otherwise; the
counters count the results.
-/

open Bytes History

namespace X6losim

variable {host : ByteOrder} {kind : Kind} {m m' : Medium} {p : NodePtr} {n : DeviceNode}
  {pkt : NetSimPacket}

/-- A data indication of a node is accepted. -/
def Event.accepts (p : NodePtr) : Event → Bool
  | .dataIndication q _ => q = p
  | _ => false

/-- A node is sent the result of a transmission. -/
def Event.concludes (p : NodePtr) : Event → Bool
  | .sent q (.txDoneInd _) => q = p
  | _ => false

/-- Some node is sent the result of a transmission. -/
def Event.isTxDone : Event → Bool
  | .sent _ (.txDoneInd _) => true
  | _ => false

/-- A packet is given to `sendto`. -/
def Event.isMulticast : Event → Bool
  | .multicast _ _ _ => true
  | _ => false

/-- A certain packet is given to `sendto`. -/
def Event.multicasts (k : PktId) : Event → Bool
  | .multicast _ j _ => j = k
  | _ => false

theorem Event.accepts_isTx {e : Event} (h : e.accepts p) :
  e.isTx
  := by
  cases e <;> first | rfl | cases h

theorem Event.isTxDone_isTx {e : Event} (h : e.isTxDone) :
  e.isTx
  := by
  cases e with
  | sent q msg => cases msg <;> first | rfl | cases h
  | _ => cases h

theorem Event.concludes_isTx {e : Event} (h : e.concludes p) :
  e.isTx
  := by
  cases e with
  | sent q msg => cases msg <;> first | rfl | cases h
  | _ => cases h

theorem Event.isMulticast_isTx {e : Event} (h : e.isMulticast) :
  e.isTx
  := by
  cases e <;> first | rfl | cases h

theorem Event.multicasts_isTx {k : PktId} {e : Event} (h : e.multicasts k) :
  e.isTx
  := by
  cases e <;> first | rfl | cases h

/-- Events that are of no transmission are not counted. -/
theorem countP_neutral {count : Event → Bool} {log es : List Event}
    (hno : ∀ e ∈ es, e.isTx = false) (hcount : ∀ e, count e → e.isTx) :
  (log ++ es).countP count = log.countP count
  := by
  have hzero : es.countP count = 0 := by
    apply List.countP_eq_zero.mpr
    intro e he hcounted
    have htx := hcount e hcounted
    rw [hno e he] at htx
    cases htx
  rw [List.countP_append, hzero, add_zero]

/-- The account of transmissions. -/
structure TxAccount (m : Medium) : Prop where
  /-- A transmission of a node that has been accepted is concluded, or the last one is going on. -/
  concluded : ∀ p, m.log.countP (Event.accepts p)
    = m.log.countP (Event.concludes p) + if p ∈ m.txList then 1 else 0
  /-- The packets accepted are those with which nodes enter the transmit list. -/
  entered : ∀ p k, .dataIndication p k ∈ m.log ↔ .txEnter p (some k) ∈ m.log
  /-- No packet is given to `sendto` twice. -/
  once : ∀ k, m.log.countP (Event.multicasts k) ≤ 1
  /-- The packets given to `sendto` are those whose result is that they have been sent. -/
  multicast : ∀ p k, (∃ buf, .multicast p k buf ∈ m.log) ↔
    ∃ past, Entry m.log past (.sent p (.txDoneInd txDoneOk)) ∧ (p, some k) ∈ onAir past
  /-- The counters sum up to the results sent. -/
  total : m.stats.txPktsOk + m.stats.txPktsCollided + m.stats.txPktsFailed
    = m.log.countP Event.isTxDone
  /-- One counter is for the packets given to `sendto`. -/
  ok : m.stats.txPktsOk = m.log.countP Event.isMulticast

namespace TxAccount

theorem initial :
  TxAccount Medium.new
  where
  concluded p := rfl
  entered p k := by simp [Medium.new]
  once k := Nat.zero_le 1
  multicast p k := by simp [Medium.new]
  total := rfl
  ok := rfl

theorem neutral (h : TxAccount m) (hkept : TxNeutral m m') :
  TxAccount m'
  := by
  obtain ⟨es, hlog, hno⟩ := hkept.log
  have hold : ∀ {e : Event}, e.isTx → (e ∈ m'.log ↔ e ∈ m.log) := by
    intro e htx
    rw [hlog, List.mem_append]
    constructor
    · rintro (hmem | hmem)
      · apply hmem
      · rw [hno e hmem] at htx
        cases htx
    · apply Or.inl
  constructor
  · intro p
    rw [hlog, countP_neutral hno (fun e => Event.accepts_isTx),
      countP_neutral hno (fun e => Event.concludes_isTx), hkept.txList]
    apply h.concluded p
  · intro p k
    rw [hold rfl, hold rfl]
    apply h.entered p k
  · intro k
    rw [hlog, countP_neutral hno (fun e => Event.multicasts_isTx)]
    apply h.once k
  · intro p k
    have hmulticast : ∀ buf, Event.multicast p k buf ∈ m'.log ↔ .multicast p k buf ∈ m.log := by
      intro buf
      apply hold rfl
    have hdone : ∀ past, Entry m'.log past (.sent p (.txDoneInd txDoneOk)) ↔
        Entry m.log past (.sent p (.txDoneInd txDoneOk)) := by
      intro past
      rw [hlog, entry_neutral hno rfl]
    simp only [hmulticast, hdone]
    apply h.multicast p k
  · rw [hlog, countP_neutral hno (fun e => Event.isTxDone_isTx), hkept.stats]
    apply h.total
  · rw [hlog, countP_neutral hno (fun e => Event.isMulticast_isTx), hkept.stats]
    apply h.ok

/-- A transmission starts: it is accepted, and goes on. -/
theorem transmit {itValue : Timespec} (h : TxAccount m) (hcons : TxConsistent m)
    (hguard : (Effect.transmit p n pkt itValue).Guard m) :
  TxAccount ((Effect.transmit p n pkt itValue).apply m)
  := by
  obtain ⟨hlive, hstate, -⟩ := hguard
  have hnew : p ∉ m.txList := hcons.not_mem hlive (by simp [hstate])
  have hlog : ((Effect.transmit p n pkt itValue).apply m).log
      = m.log ++ transmitEvents p pkt.id := rfl
  constructor
  · intro q
    have hq := h.concluded q
    rw [hlog, List.countP_append, List.countP_append]
    by_cases hqp : p = q
    · subst hqp
      simp [transmitEvents, Event.accepts, Event.concludes, Effect.apply, hnew, hq]
    · have hqp' : q ≠ p := fun h => hqp h.symm
      simp [transmitEvents, Event.accepts, Event.concludes, Effect.apply, hqp, hqp', hq]
  · intro q k
    rw [hlog, List.mem_append, List.mem_append, h.entered q k]
    simp [transmitEvents]
  · intro k
    rw [hlog, List.countP_append]
    simp [transmitEvents, Event.multicasts, h.once k]
  · intro q k
    rw [hlog]
    simp only [entry_transmit, ← h.multicast q k]
    simp [transmitEvents]
  · rw [hlog, List.countP_append]
    simp [transmitEvents, Event.isTxDone, Effect.apply, h.total]
  · rw [hlog, List.countP_append]
    simp [transmitEvents, Event.isMulticast, Effect.apply, h.ok]

/-- A transmission ends: it is concluded, and goes on no longer. -/
theorem conclude {i : Nat} {buf : List UInt8} (h : TxAccount m) (hcons : TxConsistent m)
    (hhist : TxHistory m) (hguard : (Effect.conclude i p n pkt buf).Guard m) :
  TxAccount ((Effect.conclude i p n pkt buf).apply m)
  := by
  obtain ⟨hmem, herase⟩ := hcons.conclude_txList hguard
  obtain ⟨-, hlive, -, hpkt, -⟩ := hguard
  have hleft : ∀ q, q ∈ ((Effect.conclude i p n pkt buf).apply m).txList ↔
      q ≠ p ∧ q ∈ m.txList := by
    intro q
    rw [herase]
    apply hcons.nodup.mem_erase_iff
  have hlog : ((Effect.conclude i p n pkt buf).apply m).log
      = m.log ++ concludeEvents p pkt buf := rfl
  have honAir := (hhist.onAir_iff hlive hpkt).mpr ⟨hmem, rfl⟩
  -- The packet has not been multicast before, as it is still on the list.
  have hfirst : ∀ q buf, Event.multicast q pkt.id buf ∉ m.log := by
    intro q buf hmulticast
    obtain ⟨past, hpast, hq⟩ := (h.multicast q pkt.id).mp ⟨buf, hmulticast⟩
    apply hhist.done hpast hq p honAir
  constructor
  · intro q
    have hq := h.concluded q
    simp only [hleft q]
    rw [hlog, List.countP_append, List.countP_append]
    by_cases hqp : p = q
    · subst hqp
      cases hcollided : pkt.collision <;>
        simp [concludeEvents, Event.accepts, Event.concludes, hcollided, hmem] at hq ⊢ <;> omega
    · have hqp' : q ≠ p := fun h => hqp h.symm
      cases hcollided : pkt.collision <;>
        simp [concludeEvents, Event.accepts, Event.concludes, hcollided, hqp, hqp', hq]
  · intro q k
    rw [hlog, List.mem_append, List.mem_append, h.entered q k]
    cases hcollided : pkt.collision <;> simp [concludeEvents, hcollided]
  · intro k
    rw [hlog, List.countP_append]
    cases hcollided : pkt.collision with
    | true =>
        simp [concludeEvents, Event.multicasts, hcollided, h.once k]
    | false =>
        by_cases hk : pkt.id = k
        · subst hk
          have hzero : m.log.countP (Event.multicasts pkt.id) = 0 := by
            apply List.countP_eq_zero.mpr
            intro e he hmulticast
            cases e with
            | multicast q j buf =>
                simp [Event.multicasts] at hmulticast
                subst hmulticast
                apply hfirst q buf he
            | _ => cases hmulticast
          rw [hzero]
          simp [concludeEvents, Event.multicasts, hcollided]
        · simp [concludeEvents, Event.multicasts, hcollided, hk, h.once k]
  · intro q k
    rw [hlog]
    simp only [entry_conclude]
    constructor
    · rintro ⟨buf', hmulticast⟩
      rcases List.mem_append.mp hmulticast with hmulticast | hmulticast
      · obtain ⟨past, hpast, hq⟩ := (h.multicast q k).mp ⟨buf', hmulticast⟩
        exact ⟨past, Or.inl hpast, hq⟩
      · refine ⟨m.log ++ [.timerDelete p .txTimer], Or.inr ⟨rfl, ?_⟩, ?_⟩
        · cases hcollided : pkt.collision <;>
            simp [concludeEvents, hcollided] at hmulticast
          exact ⟨hmulticast.1, by simp [NetSimPacket.result, hcollided]⟩
        · rw [onAir_neutral (by simp [Event.isTx])]
          cases hcollided : pkt.collision <;>
            simp [concludeEvents, hcollided] at hmulticast
          rw [hmulticast.1, hmulticast.2.1]
          apply honAir
    · rintro ⟨past, hpast | ⟨rfl, rfl, hresult⟩, hq⟩
      · obtain ⟨buf', hmulticast⟩ := (h.multicast q k).mpr ⟨past, hpast, hq⟩
        exact ⟨buf', List.mem_append_left _ hmulticast⟩
      · rw [onAir_neutral (by simp [Event.isTx])] at hq
        obtain ⟨-, hk⟩ := (hhist.onAir_iff hlive hpkt).mp hq
        use buf
        apply List.mem_append_right
        cases hcollided : pkt.collision with
        | false => simp [concludeEvents, hcollided, Option.some.inj hk]
        | true => simp [NetSimPacket.result, hcollided, txDoneOk, txDoneCollided] at hresult
  · rw [hlog, List.countP_append, ← h.total]
    cases hcollided : pkt.collision <;>
      simp [concludeEvents, List.countP_cons, Event.isTxDone, Effect.apply, TxStats.conclude,
        hcollided] <;> omega
  · rw [hlog, List.countP_append, ← h.ok]
    cases hcollided : pkt.collision <;>
      simp [concludeEvents, List.countP_cons, Event.isMulticast, Effect.apply, TxStats.conclude,
        hcollided]

theorem next {s s' : Sys} (h : TxAccount s.med) (hcons : TxConsistent s.med)
    (hhist : TxHistory s.med) (hnext : TxNext kind s s') :
  TxAccount s'.med
  := by
  cases hnext with
  | neutral hkept => apply h.neutral hkept
  | transmit hguard => apply h.transmit hcons hguard
  | collide => exact ⟨h.concluded, h.entered, h.once, h.multicast, h.total, h.ok⟩
  | conclude hguard => apply h.conclude hcons hhist hguard

/-- The account of transmissions is right in every reachable state. -/
theorem reachable {s : Sys} (h : (medium host kind).Reachable s) :
  TxAccount s.med
  := by
  have hinv : TxConsistent s.med ∧ TxHistory s.med ∧ TxAccount s.med := by
    apply h.invariant
      (P := fun s => TxConsistent s.med ∧ TxHistory s.med ∧ TxAccount s.med)
    · rintro s rfl
      exact ⟨.initial, .initial, .initial⟩
    · intro s s' i ⟨hcons, hhist, haccount⟩ henabled hstep
      have hnext := txNext_of_next (next_of_step henabled hstep)
      exact ⟨hcons.next hnext, hhist.next hcons hnext, haccount.next hcons hhist hnext⟩
  apply hinv.2.2

end TxAccount

/-- The account of transmissions is right in every reachable state of a medium of either kind.
It need not be assumed that no node is deregistered while it is on the transmit list: after that
the thread stops before it ends another transmission. -/
theorem transmissions_accounted {s : Sys} (h : (medium host kind).Reachable s) :
  TxAccount s.med
  := TxAccount.reachable h

/-- The account of a medium whose only node has transmitted. -/
theorem transmissions_accounted_alone :
  ∃ m, m.txList = [] ∧ 0 < m.stats.txPktsOk ∧ TxAccount m
  := by
  obtain ⟨m, n, pkt, buf, htx, hrunning⟩ := running_concluded .little .wireless 1
    (dispatched_dataFrame .little 7) (psduFits_dataFrame .little 7)
  refine ⟨_, ?_, ?_, transmissions_accounted hrunning.reachable⟩
  · simp [Effect.apply, htx.txList]
  · simp [Effect.apply, TxStats.conclude, htx.collision]

end X6losim
