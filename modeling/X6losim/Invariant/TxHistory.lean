import X6losim.Invariant.Transmit

/-!
# The transmit list in the log

The nodes on the transmit list, and the packets they hold, are those that the log shows to have
entered the list and not left it.  A packet is new when it enters, and is never on the list again
once its transmission has ended.
-/

open Bytes History

namespace X6losim

variable {kind : Kind} {m m' : Medium} {p : NodePtr} {n : DeviceNode} {pkt : NetSimPacket}

/-- The events by which nodes enter and leave the transmit list. -/
def txVisit : Event → Option (Visit NodePtr (Option PktId))
  | .txEnter p k => some (.enter p k)
  | .txLeave p => some (.leave p)
  | _ => none

/-- The nodes that the log shows on the transmit list, with their packets. -/
abbrev onAir (log : List Event) : List (NodePtr × Option PktId) := present txVisit log

/-- At some moment the log shows a node on the transmit list with a packet, and another node as
well. -/
abbrev CoexistedOnAir (log : List Event) (p : NodePtr) (k : PktId) : Prop :=
  Coexisted txVisit log p (some k)

theorem txVisit_none {e : Event} (h : e.isTx = false) :
  txVisit e = none
  := by
  cases e <;> first | rfl | cases h

/-! ### Logs -/

section Logs

variable {log es : List Event} {k : PktId} {buf : List UInt8}

theorem onAir_neutral (hno : ∀ e ∈ es, e.isTx = false) :
  onAir (log ++ es) = onAir log
  := present_append_none txVisit (fun e he => txVisit_none (hno e he))

theorem coexisted_neutral (hno : ∀ e ∈ es, e.isTx = false) :
  CoexistedOnAir (log ++ es) p k ↔ CoexistedOnAir log p k
  := coexisted_append_none txVisit (fun e he => txVisit_none (hno e he))

theorem entry_neutral {past : List Event} {e : Event} (hno : ∀ e ∈ es, e.isTx = false)
    (htx : e.isTx) :
  Entry (log ++ es) past e ↔ Entry log past e
  := by
  rw [entry_append]
  constructor
  · rintro (h | ⟨before, -, h⟩)
    · apply h
    · rw [hno e h.mem] at htx
      cases htx
  · apply Or.inl

/-- The events of the start of a transmission. -/
def transmitEvents (p : NodePtr) (k : PktId) : List Event :=
  [.newPacket k, .timerCreate p .txTimer, .txEnter p (some k), .dataIndication p k]

theorem onAir_transmit :
  onAir (log ++ transmitEvents p k) = onAir log ++ [(p, some k)]
  := by
  simp [present_append, transmitEvents, visitStep, txVisit]

theorem coexisted_transmit {q : NodePtr} {j : PktId} :
  CoexistedOnAir (log ++ transmitEvents p k) q j ↔ CoexistedOnAir log q j ∨
    ((q, some j) ∈ onAir log ++ [(p, some k)] ∧ Company (onAir log ++ [(p, some k)]) q)
  := by
  have hsplit : log ++ transmitEvents p k
      = ((log ++ [.newPacket k, .timerCreate p .txTimer]) ++ [.txEnter p (some k)])
        ++ [.dataIndication p k] := by simp [transmitEvents]
  have hbefore : ∀ e ∈ [Event.newPacket k, .timerCreate p .txTimer], txVisit e = none := by
    simp [txVisit]
  rw [hsplit, CoexistedOnAir, coexisted_concat_none txVisit rfl,
    coexisted_concat_enter txVisit rfl, coexisted_append_none txVisit hbefore,
    present_append_none txVisit hbefore]

theorem entry_transmit {past : List Event} {q : NodePtr} {msg : OutMsg} :
  Entry (log ++ transmitEvents p k) past (.sent q msg) ↔ Entry log past (.sent q msg)
  := by
  rw [entry_append]
  constructor
  · rintro (h | ⟨before, -, h⟩)
    · apply h
    · have hmem := h.mem
      simp [transmitEvents] at hmem
  · apply Or.inl

theorem onAir_conclude :
  onAir (log ++ concludeEvents p pkt buf) = (onAir log).eraseP (fun v => v.1 = p)
  := by
  cases hcollided : pkt.collision <;>
    simp [present_append, concludeEvents, visitStep, txVisit, hcollided]

theorem coexisted_conclude {q : NodePtr} {j : PktId} :
  CoexistedOnAir (log ++ concludeEvents p pkt buf) q j ↔ CoexistedOnAir log q j
  := by
  have hbefore : ∀ e ∈ [.timerDelete p .txTimer, .sent p (.txDoneInd pkt.result)] ++
      (if pkt.collision then [] else [Event.multicast p pkt.id buf]) ++
      [.deletePacket pkt.id], txVisit e = none := by
    intro e he
    cases hcollided : pkt.collision with
    | false =>
        simp [hcollided] at he
        rcases he with rfl | rfl | rfl | rfl <;> rfl
    | true =>
        simp [hcollided] at he
        rcases he with rfl | rfl | rfl <;> rfl
  have hsplit : log ++ concludeEvents p pkt buf
      = (log ++ ([.timerDelete p .txTimer, .sent p (.txDoneInd pkt.result)] ++
        (if pkt.collision then [] else [Event.multicast p pkt.id buf]) ++
        [.deletePacket pkt.id])) ++ [.txLeave p] := by simp [concludeEvents]
  rw [hsplit, CoexistedOnAir, coexisted_concat_leave txVisit rfl,
    coexisted_append_none txVisit hbefore]

/-- The only message of the end of a transmission is its result. -/
theorem entry_conclude {past : List Event} {q : NodePtr} {msg : OutMsg} :
  Entry (log ++ concludeEvents p pkt buf) past (.sent q msg) ↔ Entry log past (.sent q msg) ∨
    (past = log ++ [.timerDelete p .txTimer] ∧ q = p ∧ msg = .txDoneInd pkt.result)
  := by
  have hsplit : log ++ concludeEvents p pkt buf
      = ((log ++ [.timerDelete p .txTimer]) ++ [.sent p (.txDoneInd pkt.result)]) ++
        ((if pkt.collision then [] else [Event.multicast p pkt.id buf]) ++
          [.deletePacket pkt.id, .txLeave p]) := by simp [concludeEvents]
  have hafter : ∀ before, ¬ Entry ((if pkt.collision then []
      else [Event.multicast p pkt.id buf]) ++ [.deletePacket pkt.id, .txLeave p]) before
      (.sent q msg) := by
    intro before h
    have hmem := h.mem
    cases hcollided : pkt.collision <;> simp [hcollided] at hmem
  have hbefore : Entry (log ++ [.timerDelete p .txTimer]) past (.sent q msg)
      ↔ Entry log past (.sent q msg) := by simp
  rw [hsplit, entry_append, entry_concat, hbefore]
  constructor
  · rintro ((h | ⟨hpast, h⟩) | ⟨before, -, h⟩)
    · left
      apply h
    · right
      cases h
      exact ⟨hpast, rfl, rfl⟩
    · apply absurd h (hafter before)
  · rintro (h | ⟨hpast, rfl, rfl⟩)
    · left; left
      apply h
    · left; right
      exact ⟨hpast, rfl⟩

end Logs

/-! ### The invariant -/

/-- The log shows the transmit list as it is, with the packets of the live nodes on it; packets
have their own ids, and are off the list for good once their result is sent. -/
structure TxHistory (m : Medium) : Prop where
  visitors : (onAir m.log).map Prod.fst = m.txList
  carried : ∀ {p k n}, (p, k) ∈ onAir m.log → m.nodes p = .live n →
    n.txPkt.map NetSimPacket.id = k
  fresh : ∀ {p k}, .txEnter p k ∈ m.log → ∃ j, k = some j ∧ j < m.nextPkt
  distinct : ((onAir m.log).map Prod.snd).Nodup
  done : ∀ {past p r k}, Entry m.log past (.sent p (.txDoneInd r)) → (p, k) ∈ onAir past →
    ∀ q, (q, k) ∉ onAir m.log

/-- A visitor of the transmit list has entered it. -/
theorem mem_onAir {log : List Event} {k : Option PktId} (h : (p, k) ∈ onAir log) :
  .txEnter p k ∈ log
  := by
  obtain ⟨e, he, hvisit⟩ := mem_present txVisit h
  cases e with
  | txEnter q j =>
      cases hvisit
      apply he
  | _ => cases hvisit

namespace TxHistory

theorem initial :
  TxHistory Medium.new
  where
  visitors := rfl
  carried h := by cases h
  fresh h := by cases h
  distinct := List.nodup_nil
  done h := by
    apply absurd h
    apply entry_nil

/-- A packet that has ever been on the list has one of the ids given out. -/
theorem fresh_onAir {past : List Event} {k : PktId} (h : TxHistory m) (hpast : past <+: m.log)
    (hp : (p, some k) ∈ onAir past) :
  k < m.nextPkt
  := by
  obtain ⟨j, hj, hlt⟩ := h.fresh (hpast.subset (mem_onAir hp))
  cases hj
  apply hlt

theorem fresh_coexisted {k : PktId} (h : TxHistory m) (hmet : CoexistedOnAir m.log p k) :
  k < m.nextPkt
  := by
  obtain ⟨moment, hmoment, hp, -⟩ := hmet
  apply h.fresh_onAir hmoment hp

/-- A live node on the list is there with its packet. -/
theorem onAir_iff (h : TxHistory m) (hlive : m.nodes p = .live n) (hpkt : n.txPkt = some pkt)
    {k : Option PktId} :
  (p, k) ∈ onAir m.log ↔ p ∈ m.txList ∧ k = some pkt.id
  := by
  have hcarried : ∀ {k}, (p, k) ∈ onAir m.log → k = some pkt.id := by
    intro k hk
    rw [← h.carried hk hlive, hpkt]
    rfl
  constructor
  · intro hk
    refine ⟨?_, hcarried hk⟩
    rw [← h.visitors]
    apply List.mem_map_of_mem hk
  · rintro ⟨hp, rfl⟩
    rw [← h.visitors] at hp
    obtain ⟨⟨q, k⟩, hk, rfl⟩ := List.mem_map.mp hp
    rw [← hcarried hk]
    apply hk

theorem neutral (h : TxHistory m) (hcons : TxConsistent m) (hkept : TxNeutral m m') :
  TxHistory m'
  := by
  obtain ⟨es, hlog, hno⟩ := hkept.log
  have hair : onAir m'.log = onAir m.log := by rw [hlog, onAir_neutral hno]
  constructor
  · rw [hair, h.visitors, hkept.txList]
  · intro p k n' hp hlive
    rw [hair] at hp
    have hmem : p ∈ m.txList := by
      rw [← h.visitors]
      apply List.mem_map_of_mem hp
    obtain ⟨n, hlive', -, -, hpkt⟩ := hkept.live hcons hmem hlive
    rw [hpkt]
    apply h.carried hp hlive'
  · intro p k hp
    rw [hlog] at hp
    rw [hkept.nextPkt]
    rcases List.mem_append.mp hp with hp | hp
    · apply h.fresh hp
    · cases hno _ hp
  · rw [hair]
    apply h.distinct
  · intro past p r k hentry hp q
    rw [hlog, entry_neutral hno rfl] at hentry
    rw [hair]
    apply h.done hentry hp q

theorem transmit {itValue : Timespec} (h : TxHistory m) (hcons : TxConsistent m)
    (hguard : (Effect.transmit p n pkt itValue).Guard m) :
  TxHistory ((Effect.transmit p n pkt itValue).apply m)
  := by
  obtain ⟨hlive, hstate, -, hid, -⟩ := hguard
  have hnew : p ∉ m.txList := hcons.not_mem hlive (by simp [hstate])
  have hlog : ((Effect.transmit p n pkt itValue).apply m).log
      = m.log ++ transmitEvents p pkt.id := rfl
  have hair : onAir ((Effect.transmit p n pkt itValue).apply m).log
      = onAir m.log ++ [(p, some pkt.id)] := by rw [hlog, onAir_transmit]
  constructor
  · rw [hair, List.map_append, h.visitors]
    rfl
  · intro q k n' hq hn'
    rw [hair] at hq
    rcases live_of_update hn' with ⟨rfl, ⟨⟩⟩ | ⟨hqp, hn'⟩
    · rcases List.mem_append.mp hq with hq | hq
      · apply absurd _ hnew
        rw [← h.visitors]
        apply List.mem_map_of_mem hq
      · cases List.mem_singleton.mp hq
        rfl
    · rcases List.mem_append.mp hq with hq | hq
      · apply h.carried hq hn'
      · cases List.mem_singleton.mp hq
        apply absurd rfl hqp
  · intro q k hq
    rw [hlog] at hq
    rcases List.mem_append.mp hq with hq | hq
    · obtain ⟨j, hj, hlt⟩ := h.fresh hq
      exact ⟨j, hj, Nat.lt_succ_of_lt hlt⟩
    · simp [transmitEvents] at hq
      refine ⟨pkt.id, hq.2, ?_⟩
      rw [hid]
      apply Nat.lt_succ_self
  · rw [hair, List.map_append]
    apply List.nodup_append.mpr
    refine ⟨h.distinct, by simp, ?_⟩
    rintro k hk k' hk' rfl
    obtain ⟨⟨q, k'⟩, hq, rfl⟩ := List.mem_map.mp hk
    have hk'' : k' = some pkt.id := by simpa using hk'
    subst hk''
    have hlt := h.fresh_onAir List.prefix_rfl hq
    rw [hid] at hlt
    apply absurd hlt (lt_irrefl _)
  · intro past q r k hentry hq q' hq'
    rw [hlog, entry_transmit] at hentry
    rw [hair] at hq'
    rcases List.mem_append.mp hq' with hq' | hq'
    · apply h.done hentry hq q' hq'
    · cases List.mem_singleton.mp hq'
      have hlt := h.fresh_onAir hentry.beginning hq
      rw [hid] at hlt
      apply absurd hlt (lt_irrefl _)

theorem collide (h : TxHistory m) :
  TxHistory (Effect.collide.apply m)
  where
  visitors := h.visitors
  carried {q k n'} hq hn' := by
    simp only [Effect.apply] at hn'
    split at hn'
    · cases hcell : m.nodes q with
      | unborn =>
          rw [hcell] at hn'
          cases hn'
      | destroyed =>
          rw [hcell] at hn'
          cases hn'
      | live n =>
          rw [hcell] at hn'
          cases hn'
          rw [DeviceNode.collide, Option.map_map]
          apply h.carried hq hcell
    · apply h.carried hq hn'
  fresh := h.fresh
  distinct := h.distinct
  done := h.done

/-- A node that is taken off the list is not on it any more. -/
theorem gone (h : TxHistory m) (hcons : TxConsistent m) {k : Option PktId} :
  (p, k) ∉ (onAir m.log).eraseP (fun v => v.1 = p)
  := by
  intro hk
  have herase := List.mem_map_of_mem (f := Prod.fst) hk
  rw [map_fst_eraseP, h.visitors] at herase
  apply (hcons.nodup.mem_erase_iff.mp herase).1 rfl

/-- Neither is its packet. -/
theorem packet_gone (h : TxHistory m) (hcons : TxConsistent m) {q : NodePtr} {k : Option PktId}
    (hp : (p, k) ∈ onAir m.log) :
  (q, k) ∉ (onAir m.log).eraseP (fun v => v.1 = p)
  := by
  intro hq
  have heq := List.inj_on_of_nodup_map h.distinct (List.mem_of_mem_eraseP hq) hp rfl
  cases heq
  apply h.gone hcons hq

theorem conclude {i : Nat} {buf : List UInt8} (h : TxHistory m) (hcons : TxConsistent m)
    (hguard : (Effect.conclude i p n pkt buf).Guard m) :
  TxHistory ((Effect.conclude i p n pkt buf).apply m)
  := by
  have herase := (hcons.conclude_txList hguard).2
  have hlog : ((Effect.conclude i p n pkt buf).apply m).log
      = m.log ++ concludeEvents p pkt buf := rfl
  have hair : onAir ((Effect.conclude i p n pkt buf).apply m).log
      = (onAir m.log).eraseP (fun v => v.1 = p) := by rw [hlog, onAir_conclude]
  have hsub : ∀ {v}, v ∈ (onAir m.log).eraseP (fun v => v.1 = p) → v ∈ onAir m.log :=
    List.mem_of_mem_eraseP
  constructor
  · rw [hair, map_fst_eraseP, h.visitors, herase]
  · intro q k n' hq hn'
    rw [hair] at hq
    have hqp : q ≠ p := by
      rintro rfl
      apply h.gone hcons hq
    simp only [Effect.apply, Function.update_of_ne hqp] at hn'
    apply h.carried (hsub hq) hn'
  · intro q k hq
    rw [hlog] at hq
    rcases List.mem_append.mp hq with hq | hq
    · apply h.fresh hq
    · cases hcollided : pkt.collision <;> simp [concludeEvents, hcollided] at hq
  · rw [hair]
    apply h.distinct.sublist (List.eraseP_sublist.map Prod.snd)
  · intro past q r k hentry' hq q' hq'
    rw [hlog, entry_conclude] at hentry'
    rw [hair] at hq'
    rcases hentry' with hentry' | ⟨rfl, rfl, -⟩
    · apply h.done hentry' hq q' (hsub hq')
    · rw [onAir_neutral (by simp [Event.isTx])] at hq
      apply h.packet_gone hcons hq hq'

theorem next {s s' : Sys} (h : TxHistory s.med) (hcons : TxConsistent s.med)
    (hnext : TxNext kind s s') :
  TxHistory s'.med
  := by
  cases hnext with
  | neutral hkept => apply h.neutral hcons hkept
  | transmit hguard => apply h.transmit hcons hguard
  | collide => apply h.collide
  | conclude hguard => apply h.conclude hcons hguard

end TxHistory

/-- The transmit list is consistent, and as the log shows it, in every reachable state. -/
theorem tx_reachable {host : ByteOrder} {s : Sys} (h : (medium host kind).Reachable s) :
  TxConsistent s.med ∧ TxHistory s.med
  := by
  apply h.invariant (P := fun s => TxConsistent s.med ∧ TxHistory s.med)
  · rintro s rfl
    exact ⟨.initial, .initial⟩
  · intro s s' i ⟨hcons, hhist⟩ henabled hstep
    have hnext := txNext_of_next (next_of_step henabled hstep)
    exact ⟨hcons.next hnext, hhist.next hcons hnext⟩

end X6losim
