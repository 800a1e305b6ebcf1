import X6losim.Invariant.TxHistory
import X6losim.Sim.Session

/-!
# Collisions on a powerline medium

The packets marked as collided are those that have been on the transmit list together with
another one.  Those that meet while `interval` waits are marked before `processTxList` ends any
transmission.
-/

open Bytes History

namespace X6losim

variable {host : ByteOrder} {m m' : Medium} {p : NodePtr} {n : DeviceNode} {pkt : NetSimPacket}

/-- The marks on packets, and the results sent, show which transmissions have coexisted. -/
structure Collisions (s : Sys) : Prop where
  /-- A marked packet has coexisted with another one. -/
  marked : ∀ {p n pkt}, p ∈ s.med.txList → s.med.nodes p = .live n → n.txPkt = some pkt →
    pkt.collision → CoexistedOnAir s.med.log p pkt.id
  /-- A packet that has coexisted with another one is marked, or will be before any transmission
  ends. -/
  marks : ∀ {p n pkt}, p ∈ s.med.txList → s.med.nodes p = .live n → n.txPkt = some pkt →
    CoexistedOnAir s.med.log p pkt.id →
    pkt.collision ∨ 1 < s.med.txList.length ∧ ∀ i, s.pc ≠ .processTxList i
  /-- The result sent says whether the packet has coexisted with another one. -/
  reported : ∀ {past p r}, Entry s.med.log past (.sent p (.txDoneInd r)) →
    ∃ k, (p, some k) ∈ onAir past ∧
      (CoexistedOnAir s.med.log p k ∧ r = txDoneCollided ∨
        ¬ CoexistedOnAir s.med.log p k ∧ r = txDoneOk)

/-- Other nodes keep a node company exactly when there is more than one. -/
theorem company_iff (hcons : TxConsistent m) (hhist : TxHistory m) (hp : p ∈ m.txList) :
  Company (onAir m.log) p ↔ 1 < m.txList.length
  := by
  have hcompany : Company (onAir m.log) p ↔ ∃ q ∈ m.txList, q ≠ p := by
    rw [← hhist.visitors]
    simp [Company]
  have hpos := List.length_pos_of_mem hp
  rw [hcompany]
  constructor
  · rintro ⟨q, hq, hqp⟩
    by_contra hlen
    obtain ⟨a, ha⟩ := List.length_eq_one_iff.mp (by omega : m.txList.length = 1)
    rw [ha, List.mem_singleton] at hp hq
    apply hqp (hq.trans hp.symm)
  · intro hlen
    have hne : m.txList ≠ [p] := by
      intro heq
      rw [heq, List.length_singleton] at hlen
      apply lt_irrefl 1 hlen
    apply ((hcons.nodup.ne_singleton_iff p).mp hne).resolve_left
    apply List.ne_nil_of_mem hp

namespace Collisions

theorem initial :
  Collisions ⟨.start, Medium.new⟩
  where
  marked h := by cases h
  marks h := by cases h
  reported h := by
    apply absurd h
    apply entry_nil

theorem neutral {s s' : Sys} (h : Collisions s) (hcons : TxConsistent s.med)
    (hkept : TxNeutral s.med s'.med)
    (hpc : ∀ i, s'.pc = .processTxList i →
      (∃ j, s.pc = .processTxList j) ∨ Kind.powerline = .wireless ∨ s.med.txList.length ≤ 1) :
  Collisions s'
  := by
  obtain ⟨es, hlog, hno⟩ := hkept.log
  have hmet : ∀ q k, CoexistedOnAir s'.med.log q k ↔ CoexistedOnAir s.med.log q k := by
    intro q k
    rw [hlog, coexisted_neutral hno]
  constructor
  · intro p n' pkt hp hlive hpkt hcollided
    rw [hkept.txList] at hp
    obtain ⟨n, hlive', halike⟩ := hkept.live hcons hp hlive
    rw [halike.txPkt] at hpkt
    rw [hmet]
    apply h.marked hp hlive' hpkt hcollided
  · intro p n' pkt hp hlive hpkt hmeet
    rw [hkept.txList] at hp ⊢
    obtain ⟨n, hlive', halike⟩ := hkept.live hcons hp hlive
    rw [halike.txPkt] at hpkt
    rw [hmet] at hmeet
    rcases h.marks hp hlive' hpkt hmeet with hcollided | ⟨hlen, hnot⟩
    · left
      apply hcollided
    · right
      use hlen
      intro i hi
      rcases hpc i hi with ⟨j, hj⟩ | hkind | hle
      · apply hnot j hj
      · cases hkind
      · omega
  · intro past p r hentry
    rw [hlog, entry_neutral hno rfl] at hentry
    simp only [hmet]
    apply h.reported hentry

/-- A transmission starts: it meets those that go on. -/
theorem transmit {ph : Phase} {ev : PollEvent} {evs : List PollEvent} {itValue : Timespec}
    (h : Collisions ⟨.poll ph (ev :: evs), m⟩) (hcons : TxConsistent m) (hhist : TxHistory m)
    (hguard : (Effect.transmit p n pkt itValue).Guard m) :
  Collisions ⟨.poll ph evs, (Effect.transmit p n pkt itValue).apply m⟩
  := by
  obtain ⟨hlive, hstate, -, hid, hclear⟩ := hguard
  have hnew : p ∉ m.txList := hcons.not_mem hlive (by simp [hstate])
  have hmet : ∀ q k, CoexistedOnAir ((Effect.transmit p n pkt itValue).apply m).log q k ↔
      CoexistedOnAir m.log q k ∨ ((q, some k) ∈ onAir m.log ++ [(p, some pkt.id)] ∧
        Company (onAir m.log ++ [(p, some pkt.id)]) q) := by
    intro q k
    apply coexisted_transmit
  have hunused : ∀ {k}, k < m.nextPkt → k ≠ pkt.id := by
    rintro k hk rfl
    rw [hid] at hk
    apply lt_irrefl _ hk
  constructor
  · intro q n' pkt' hq hn' hpkt' hcollided
    rcases live_of_update hn' with ⟨rfl, ⟨⟩⟩ | ⟨hqp, hn'⟩
    · cases hpkt'
      rw [hclear] at hcollided
      cases hcollided
    · have hq' : q ∈ m.txList := by simpa [Effect.apply, hqp] using hq
      rw [hmet]
      left
      apply h.marked hq' hn' hpkt' hcollided
  · intro q n' pkt' hq hn' hpkt' hmeet
    have hlength : ((Effect.transmit p n pkt itValue).apply m).txList.length
        = m.txList.length + 1 := by simp [Effect.apply]
    rw [hmet] at hmeet
    simp only [hlength]
    rcases live_of_update hn' with ⟨rfl, ⟨⟩⟩ | ⟨hqp, hn'⟩
    · cases hpkt'
      right
      rcases hmeet with hmeet | ⟨-, v, hv, hvq⟩
      · apply absurd rfl (hunused (hhist.fresh_coexisted hmeet))
      · rcases List.mem_append.mp hv with hv | hv
        · have hpos : 0 < m.txList.length := by
            rw [← hhist.visitors, List.length_map]
            apply List.length_pos_of_mem hv
          exact ⟨by omega, by simp⟩
        · rw [List.mem_singleton.mp hv] at hvq
          apply absurd rfl hvq
    · have hq' : q ∈ m.txList := by simpa [Effect.apply, hqp] using hq
      have hpos := List.length_pos_of_mem hq'
      right
      exact ⟨by omega, by simp⟩
  · intro past q r hentry
    have hentry' : Entry m.log past (.sent q (.txDoneInd r)) := entry_transmit.mp hentry
    obtain ⟨k, hk, hresult⟩ := h.reported hentry'
    have hsame : CoexistedOnAir ((Effect.transmit p n pkt itValue).apply m).log q k ↔
        CoexistedOnAir m.log q k := by
      rw [hmet]
      constructor
      · rintro (hmeet | ⟨hq, -⟩)
        · apply hmeet
        · rcases List.mem_append.mp hq with hq | hq
          · apply absurd hq (hhist.done hentry' hk q)
          · cases List.mem_singleton.mp hq
            apply absurd rfl (hunused (hhist.fresh_onAir hentry'.beginning hk))
      · apply Or.inl
    use k, hk
    simp only [hsame]
    apply hresult

/-- The check marks all packets, which are more than one. -/
theorem collide (h : Collisions ⟨.txCollisionCheck, m⟩) (hcons : TxConsistent m)
    (hhist : TxHistory m) (hguard : Effect.collide.Guard m) :
  Collisions ⟨.processTxList 0, Effect.collide.apply m⟩
  where
  marked {q n' pkt'} hq hn' hpkt' _ := by
    obtain ⟨n, pkt, hlive, hpkt⟩ := hguard.2 q hq
    have hq' : q ∈ m.txList := hq
    simp only [Effect.apply, if_pos hq', hlive, NodeCell.collide, NodeCell.live.injEq] at hn'
    subst hn'
    rw [DeviceNode.collide, hpkt, Option.map_some] at hpkt'
    cases hpkt'
    refine ⟨m.log, List.prefix_rfl, ?_, ?_⟩
    · apply (hhist.onAir_iff hlive hpkt).mpr
      exact ⟨hq', rfl⟩
    · apply (company_iff hcons hhist hq').mpr hguard.1
  marks {q n' pkt'} hq hn' hpkt' _ := by
    obtain ⟨n, pkt, hlive, hpkt⟩ := hguard.2 q hq
    have hq' : q ∈ m.txList := hq
    simp only [Effect.apply, if_pos hq', hlive, NodeCell.collide, NodeCell.live.injEq] at hn'
    subst hn'
    rw [DeviceNode.collide, hpkt, Option.map_some] at hpkt'
    cases hpkt'
    left
    rfl
  reported := h.reported

/-- A transmission ends, and its result is sent. -/
theorem conclude {i : Nat} {buf : List UInt8} (h : Collisions ⟨.processTxList i, m⟩)
    (hcons : TxConsistent m) (hhist : TxHistory m)
    (hguard : (Effect.conclude i p n pkt buf).Guard m) :
  Collisions ⟨.processTxList i, (Effect.conclude i p n pkt buf).apply m⟩
  := by
  obtain ⟨hmem, herase⟩ := hcons.conclude_txList hguard
  obtain ⟨-, hlive, -, hpkt, -⟩ := hguard
  have hmet : ∀ q k, CoexistedOnAir ((Effect.conclude i p n pkt buf).apply m).log q k ↔
      CoexistedOnAir m.log q k := by
    intro q k
    apply coexisted_conclude
  have hother : ∀ {q n'}, q ∈ ((Effect.conclude i p n pkt buf).apply m).txList →
      ((Effect.conclude i p n pkt buf).apply m).nodes q = .live n' →
      q ∈ m.txList ∧ m.nodes q = .live n' := by
    intro q n' hq hn'
    rw [herase] at hq
    obtain ⟨hqp, hq⟩ := hcons.nodup.mem_erase_iff.mp hq
    simp only [Effect.apply, Function.update_of_ne hqp] at hn'
    exact ⟨hq, hn'⟩
  -- Here a packet that has coexisted with another one is marked.
  have hmarks : ∀ {q n' pkt'}, q ∈ m.txList → m.nodes q = .live n' → n'.txPkt = some pkt' →
      CoexistedOnAir m.log q pkt'.id → pkt'.collision := by
    intro q n' pkt' hq hn' hpkt' hmeet
    rcases h.marks hq hn' hpkt' hmeet with hcollided | ⟨-, hnot⟩
    · apply hcollided
    · apply absurd rfl (hnot i)
  constructor
  · intro q n' pkt' hq hn' hpkt' hcollided
    obtain ⟨hq', hlive'⟩ := hother hq hn'
    rw [hmet]
    apply h.marked hq' hlive' hpkt' hcollided
  · intro q n' pkt' hq hn' hpkt' hmeet
    obtain ⟨hq', hlive'⟩ := hother hq hn'
    rw [hmet] at hmeet
    left
    apply hmarks hq' hlive' hpkt' hmeet
  · intro past q r hentry
    simp only [hmet]
    rcases entry_conclude.mp hentry with hentry | ⟨rfl, rfl, hresult⟩
    · apply h.reported hentry
    · use pkt.id
      constructor
      · rw [onAir_neutral (by simp [Event.isTx])]
        apply (hhist.onAir_iff hlive hpkt).mpr ⟨hmem, rfl⟩
      · cases hresult
        cases hcollided : pkt.collision with
        | true =>
            left
            exact ⟨h.marked hmem hlive hpkt hcollided, by simp [NetSimPacket.result, hcollided]⟩
        | false =>
            right
            refine ⟨?_, by simp [NetSimPacket.result, hcollided]⟩
            intro hmeet
            rw [hmarks hmem hlive hpkt hmeet] at hcollided
            cases hcollided

theorem next {s s' : Sys} (h : Collisions s) (hcons : TxConsistent s.med)
    (hhist : TxHistory s.med) (hnext : TxNext .powerline s s') :
  Collisions s'
  := by
  cases hnext with
  | neutral hkept hpc => apply h.neutral hcons hkept hpc
  | transmit hguard => apply h.transmit hcons hhist hguard
  | collide _ hguard => apply h.collide hcons hhist hguard
  | conclude hguard => apply h.conclude hcons hhist hguard

end Collisions

/-- The marks on packets are right in every reachable state of a powerline medium. -/
theorem collisions_reachable {s : Sys} (h : (medium host .powerline).Reachable s) :
  Collisions s
  := by
  have hinv : TxConsistent s.med ∧ TxHistory s.med ∧ Collisions s := by
    apply h.invariant (P := fun s => TxConsistent s.med ∧ TxHistory s.med ∧ Collisions s)
    · rintro s rfl
      exact ⟨.initial, .initial, .initial⟩
    · intro s s' i ⟨hcons, hhist, hcollisions⟩ henabled hstep
      have hnext := txNext_of_next (next_of_step henabled hstep)
      exact ⟨hcons.next hnext, hhist.next hcons hnext, hcollisions.next hcons hhist hnext⟩
  apply hinv.2.2

/-- The result a node is sent for a packet is that it has collided if the node was on the transmit
list together with another one at some moment while it was there with the packet, and that it has
been sent otherwise.  It need not be assumed that no node is deregistered while it is on the
list: after that the thread stops before it ends another transmission. -/
theorem collision_reported {s : Sys} (h : (medium host .powerline).Reachable s)
    {past : List Event} {r : Int} (hentry : Entry s.med.log past (.sent p (.txDoneInd r))) :
  ∃ k, (p, some k) ∈ onAir past ∧
    (CoexistedOnAir s.med.log p k ∧ r = txDoneCollided ∨
      ¬ CoexistedOnAir s.med.log p k ∧ r = txDoneOk)
  := (collisions_reachable h).reported hentry

/-- Two nodes transmit at the same time, and the first is told that its packet has collided. -/
theorem collision_reported_pair :
  ∃ (s : Sys) (past : List Event),
    Entry s.med.log past (.sent 0 (.txDoneInd txDoneCollided)) ∧
    ∃ k, (0, some k) ∈ onAir past ∧ CoexistedOnAir s.med.log 0 k
  := by
  obtain ⟨m, n, -, pkt, -, hrunning, -, hcollided, -⟩ := running_collided .little
  have hresult : pkt.result = txDoneCollided := by simp [NetSimPacket.result, hcollided]
  have hentry : Entry ((Effect.conclude 0 0 n pkt []).apply m).log _
      (.sent 0 (.txDoneInd pkt.result)) := entry_conclude.mpr (Or.inr ⟨rfl, rfl, rfl⟩)
  rw [hresult] at hentry
  obtain ⟨k, hk, ⟨hmet, -⟩ | ⟨-, hok⟩⟩ := collision_reported hrunning.reachable hentry
  · exact ⟨_, _, hentry, k, hk, hmet⟩
  · cases hok

end X6losim
