import X6losim.Sim.Airtime

/-!
# Packets on air at the same time

A packet is on air while its node is on the transmit list: from the instant at which its data
indication is handled to the one at which its result is sent.  Packets that have met there have
begun before each other's results, by the clock as well.
-/

open Bytes History

namespace X6losim

variable {host : ByteOrder} {kind : Kind} {m m' : Medium} {p : NodePtr} {n : DeviceNode}
  {pkt : NetSimPacket} {k : PktId} {t now : Int} {i : Input}

/-! ### Instants -/

theorem map_fst_stamped (es : List Event) (now : Int) :
  (es.map (fun e => (e, now))).map Prod.fst = es
  := by
  simp [Function.comp_def]

/-- What is noted down at an instant is not after it. -/
theorem stamped_le {stamped : List (Event × Int)} {now now' : Int}
    (h : ∀ v ∈ stamped, v.2 ≤ now) (hnow : now ≤ now') (es : List Event) :
  ∀ v ∈ stamped ++ es.map (fun e => (e, now')), v.2 ≤ now'
  := by
  intro v hv
  rcases List.mem_append.mp hv with hv | hv
  · apply (h v hv).trans hnow
  · obtain ⟨e, -, rfl⟩ := List.mem_map.mp hv
    apply le_refl

/-- The instants of the events of the log show who has met whom on the transmit list. -/
structure AirtimeKept (c : Clocked Sys Airtime) : Prop where
  /-- All events of the log are noted down. -/
  log : c.notes.stamped.map Prod.fst = c.state.med.log
  /-- None of them is in the future. -/
  past : ∀ v ∈ c.notes.stamped, v.2 ≤ c.now
  /-- A data indication is handled at the instant its node enters the transmit list. -/
  entered : ∀ p k t, (.dataIndication p k, t) ∈ c.notes.stamped ↔
    (.txEnter p (some k), t) ∈ c.notes.stamped
  /-- A result is the one of a single packet. -/
  sole : ∀ {past p r t k j}, Entry c.notes.stamped past (.sent p (.txDoneInd r), t) →
    (p, some k) ∈ onAir (past.map Prod.fst) → (p, some j) ∈ onAir (past.map Prod.fst) → k = j
  /-- A packet that has met another one has begun before the result of the other is sent, and
  the other way round. -/
  met : ∀ {p k}, CoexistedOnAir c.state.med.log p k → ∃ j t', j ≠ k ∧ c.notes.Begins j t' ∧
    (∀ r t, c.notes.Reports k r t → t' ≤ t) ∧
    ∀ t r u, c.notes.Begins k t → c.notes.Reports j r u → t ≤ u

namespace AirtimeKept

/-- A packet on the transmit list has begun. -/
theorem begun {c : Clocked Sys Airtime} (h : AirtimeKept c)
    (hk : (p, some k) ∈ onAir c.state.med.log) :
  ∃ t, c.notes.Begins k t
  := by
  have hentered := mem_onAir hk
  rw [← h.log] at hentered
  obtain ⟨⟨e, t⟩, hmem, rfl⟩ := List.mem_map.mp hentered
  exact ⟨t, p, (h.entered p k t).mpr hmem⟩

/-- An entry of the events that have been noted down is one of the log. -/
theorem entry {c : Clocked Sys Airtime} {past : List (Event × Int)} {e : Event}
    (h : AirtimeKept c) (hentry : Entry c.notes.stamped past (e, t)) :
  Entry c.state.med.log (past.map Prod.fst) e
  := by
  have hprefix := hentry.map Prod.fst
  rw [List.map_append, h.log] at hprefix
  apply hprefix

/-- The result of a packet is not sent while it is on the transmit list. -/
theorem going {c : Clocked Sys Airtime} {r : Int} (h : AirtimeKept c)
    (hhist : TxHistory c.state.med) (hk : (p, some k) ∈ onAir c.state.med.log) :
  ¬ c.notes.Reports k r t
  := by
  rintro ⟨past, q, hentry, hq⟩
  apply hhist.done (h.entry hentry) hq p hk

/-- A packet that is reported has one of the ids given out. -/
theorem reports_lt {c : Clocked Sys Airtime} {r : Int} (h : AirtimeKept c)
    (hhist : TxHistory c.state.med) (hr : c.notes.Reports k r t) :
  k < c.state.med.nextPkt
  := by
  obtain ⟨past, q, hentry, hq⟩ := hr
  apply hhist.fresh_onAir (h.entry hentry).beginning hq

/-- Nothing that has to do with transmissions happens. -/
theorem neutral {c c' : Clocked Sys Airtime} (h : AirtimeKept c) (hnow : c.now ≤ c'.now)
    {es : List Event} (hlog : c'.state.med.log = c.state.med.log ++ es)
    (hnotes : c'.notes = c.notes.note c.state i c'.state c'.now) (hno : ∀ e ∈ es, e.isTx = false) :
  AirtimeKept c'
  := by
  have hold : ∀ {e : Event} {t}, e.isTx →
      ((e, t) ∈ c'.notes.stamped ↔ (e, t) ∈ c.notes.stamped) := by
    intro e t htx
    rw [hnotes, mem_note hlog]
    constructor
    · rintro (hmem | ⟨hmem, -⟩)
      · apply hmem
      · rw [hno e hmem] at htx
        cases htx
    · apply Or.inl
  have hbegins : ∀ k t, c'.notes.Begins k t ↔ c.notes.Begins k t := by
    intro k t
    have hdata : ∀ q k, Event.dataIndication q k ∉ es := by
      intro q k hmem
      cases hno _ hmem
    rw [hnotes, begins_kept hlog hdata]
  have hreports : ∀ k r t, c'.notes.Reports k r t ↔ c.notes.Reports k r t := by
    intro k r t
    have hnot : ∀ q r, Event.sent q (.txDoneInd r) ∉ es := by
      intro q r hmem
      cases hno _ hmem
    rw [hnotes, reports_kept hlog hnot]
  rw [note_eq hlog] at hnotes
  have hsent : ∀ past p r t, Entry c'.notes.stamped past (.sent p (.txDoneInd r), t) ↔
      Entry c.notes.stamped past (.sent p (.txDoneInd r), t) := by
    intro past p r t
    have hnot : Event.sent p (.txDoneInd r) ∉ es := by
      intro hmem
      cases hno _ hmem
    rw [hnotes, entry_stamped hnot]
  constructor
  · rw [hnotes, hlog, List.map_append, h.log, map_fst_stamped]
  · rw [hnotes]
    apply stamped_le h.past hnow
  · intro p k t
    rw [hold rfl, hold rfl]
    apply h.entered p k t
  · intro past p r t k j hentry
    apply h.sole ((hsent past p r t).mp hentry)
  · intro p k hmet
    rw [hlog, coexisted_neutral hno] at hmet
    obtain ⟨j, t', hj, hbegin, hend, hend'⟩ := h.met hmet
    refine ⟨j, t', hj, (hbegins j t').mpr hbegin, ?_, ?_⟩
    · intro r t hr
      apply hend r t ((hreports k r t).mp hr)
    · intro t r u ht hu
      apply hend' t r u ((hbegins k t).mp ht) ((hreports j r u).mp hu)

/-- A transmission starts: it meets those that go on, whose results are not sent yet. -/
theorem transmit {c c' : Clocked Sys Airtime} {itValue : Timespec} (h : AirtimeKept c)
    (hhist : TxHistory c.state.med) (hnow : c.now ≤ c'.now)
    (hguard : (Effect.transmit p n pkt itValue).Guard c.state.med)
    (hmed : c'.state.med = (Effect.transmit p n pkt itValue).apply c.state.med)
    (hnotes : c'.notes = c.notes.note c.state i c'.state c'.now) :
  AirtimeKept c'
  := by
  obtain ⟨-, -, -, hid, -⟩ := hguard
  have hlog : c'.state.med.log = c.state.med.log ++ transmitEvents p pkt.id := by
    rw [hmed]
    rfl
  have hunused : ∀ {k}, k < c.state.med.nextPkt → k ≠ pkt.id := by
    rintro k hk rfl
    rw [hid] at hk
    apply lt_irrefl _ hk
  have hmem : ∀ e t, (e, t) ∈ c'.notes.stamped ↔
      (e, t) ∈ c.notes.stamped ∨ e ∈ transmitEvents p pkt.id ∧ t = c'.now := by
    intro e t
    rw [hnotes, mem_note hlog]
  have hbegins : ∀ k t, c'.notes.Begins k t ↔
      c.notes.Begins k t ∨ k = pkt.id ∧ t = c'.now := by
    intro k t
    rw [hnotes, begins_transmit hlog]
  have hreports : ∀ k r t, c'.notes.Reports k r t ↔ c.notes.Reports k r t := by
    intro k r t
    rw [hnotes, reports_kept hlog (by simp [transmitEvents])]
  rw [note_eq hlog] at hnotes
  have hsent : ∀ past q r t, Entry c'.notes.stamped past (.sent q (.txDoneInd r), t) ↔
      Entry c.notes.stamped past (.sent q (.txDoneInd r), t) := by
    intro past q r t
    have hnot : Event.sent q (.txDoneInd r) ∉ transmitEvents p pkt.id := by
      simp [transmitEvents]
    rw [hnotes, entry_stamped hnot]
  -- The packet is new: its result has not been sent.
  have hfresh : ∀ {r t}, ¬ c.notes.Reports pkt.id r t := by
    intro r t hr
    apply hunused (h.reports_lt hhist hr) rfl
  constructor
  · rw [hnotes, hlog, List.map_append, h.log, map_fst_stamped]
  · rw [hnotes]
    apply stamped_le h.past hnow
  · intro q k t
    rw [hmem, hmem, h.entered q k t]
    simp [transmitEvents]
  · intro past q r t k j hentry
    apply h.sole ((hsent past q r t).mp hentry)
  · intro q k hmet
    rw [hlog, coexisted_transmit] at hmet
    rcases hmet with hmet | ⟨hq, v, hv, hvq⟩
    · obtain ⟨j, t', hj, hbegin, hend, hend'⟩ := h.met hmet
      have hk := hhist.fresh_coexisted hmet
      refine ⟨j, t', hj, (hbegins j t').mpr (Or.inl hbegin), ?_, ?_⟩
      · intro r t hr
        apply hend r t ((hreports k r t).mp hr)
      · intro t r u ht hu
        rcases (hbegins k t).mp ht with ht | ⟨rfl, -⟩
        · apply hend' t r u ht ((hreports j r u).mp hu)
        · apply absurd rfl (hunused hk)
    · rcases List.mem_append.mp hq with hq | hq
      · -- A packet that goes on meets the new one.
        have hk := hhist.fresh_onAir List.prefix_rfl hq
        refine ⟨pkt.id, c'.now, (hunused hk).symm, (hbegins _ _).mpr (Or.inr ⟨rfl, rfl⟩), ?_, ?_⟩
        · intro r t hr
          apply absurd ((hreports k r t).mp hr) (h.going hhist hq)
        · intro t r u ht hu
          apply absurd ((hreports pkt.id r u).mp hu) hfresh
      · -- The new packet meets one that goes on.
        cases List.mem_singleton.mp hq
        rcases List.mem_append.mp hv with hv | hv
        · obtain ⟨q', k'⟩ := v
          obtain ⟨j, rfl, hj⟩ := hhist.fresh (mem_onAir hv)
          obtain ⟨t', hbegin⟩ := h.begun hv
          refine ⟨j, t', hunused hj, (hbegins j t').mpr (Or.inl hbegin), ?_, ?_⟩
          · intro r t hr
            apply absurd ((hreports pkt.id r t).mp hr) hfresh
          · intro t r u ht hu
            apply absurd ((hreports j r u).mp hu) (h.going hhist hv)
        · cases List.mem_singleton.mp hv
          apply absurd rfl hvq

/-- The results that have been sent when a transmission has ended: the earlier ones, and the one of
its node. -/
theorem sent_conclude {c c' : Clocked Sys Airtime} {past : List (Event × Int)} {q : NodePtr}
    {buf : List UInt8} (h : AirtimeKept c)
    (hlog : c'.state.med.log = c.state.med.log ++ concludeEvents p pkt buf)
    (hnotes : c'.notes = c.notes.note c.state i c'.state c'.now)
    (hentry : Entry c'.notes.stamped past (.sent q (.txDoneInd r), t)) :
  Entry c.notes.stamped past (.sent q (.txDoneInd r), t) ∨
    t = c'.now ∧ q = p ∧ onAir (past.map Prod.fst) = onAir c.state.med.log
  := by
  rw [hnotes, note_eq hlog, entry_append] at hentry
  rcases hentry with hentry | ⟨before, rfl, hentry⟩
  · left
    apply hentry
  · right
    obtain ⟨e, -, heq⟩ := List.mem_map.mp hentry.mem
    have hnow' : c'.now = t := congrArg Prod.snd heq
    have hprefix := hentry.map Prod.fst
    rw [List.map_append, map_fst_stamped] at hprefix
    have hlogged : Entry (c.state.med.log ++ concludeEvents p pkt buf)
        (c.state.med.log ++ before.map Prod.fst) (.sent q (.txDoneInd r)) := by
      apply entry_append.mpr
      right
      exact ⟨_, rfl, hprefix⟩
    rcases entry_conclude.mp hlogged with hearlier | ⟨hpast, rfl, -⟩
    · have hlength := hearlier.length_le
      simp at hlength
    · refine ⟨hnow'.symm, rfl, ?_⟩
      rw [List.map_append, h.log, hpast]
      apply onAir_neutral
      simp [Event.isTx]

/-- The only packet that is reported when a transmission ends is the one of its node. -/
theorem reports_conclude {c c' : Clocked Sys Airtime} {j : Nat} {buf : List UInt8} {r : Int}
    (h : AirtimeKept c) (hhist : TxHistory c.state.med)
    (hguard : (Effect.conclude j p n pkt buf).Guard c.state.med)
    (hmed : c'.state.med = (Effect.conclude j p n pkt buf).apply c.state.med)
    (hnotes : c'.notes = c.notes.note c.state i c'.state c'.now) (hr : c'.notes.Reports k r t) :
  c.notes.Reports k r t ∨ k = pkt.id ∧ t = c'.now
  := by
  obtain ⟨-, hlive, -, hpkt, -⟩ := hguard
  have hlog : c'.state.med.log = c.state.med.log ++ concludeEvents p pkt buf := by
    rw [hmed]
    rfl
  obtain ⟨past, q, hentry, hq⟩ := hr
  rcases h.sent_conclude hlog hnotes hentry with hentry | ⟨ht, rfl, hair⟩
  · left
    exact ⟨past, q, hentry, hq⟩
  · right
    rw [hair] at hq
    exact ⟨Option.some.inj ((hhist.onAir_iff hlive hpkt).mp hq).2, ht⟩

/-- A transmission ends, at the present instant. -/
theorem conclude {c c' : Clocked Sys Airtime} {j : Nat} {buf : List UInt8} (h : AirtimeKept c)
    (hhist : TxHistory c.state.med) (hnow : c.now ≤ c'.now)
    (hguard : (Effect.conclude j p n pkt buf).Guard c.state.med)
    (hmed : c'.state.med = (Effect.conclude j p n pkt buf).apply c.state.med)
    (hnotes : c'.notes = c.notes.note c.state i c'.state c'.now) :
  AirtimeKept c'
  := by
  have hlive : c.state.med.nodes p = .live n := hguard.2.1
  have hpkt : n.txPkt = some pkt := hguard.2.2.2.1
  have hlog : c'.state.med.log = c.state.med.log ++ concludeEvents p pkt buf := by
    rw [hmed]
    rfl
  have hold : ∀ {e : Event} {t}, e ∉ concludeEvents p pkt buf →
      ((e, t) ∈ c'.notes.stamped ↔ (e, t) ∈ c.notes.stamped) := by
    intro e t hno
    rw [hnotes, mem_note hlog]
    constructor
    · rintro (hmem | ⟨hmem, -⟩)
      · apply hmem
      · apply absurd hmem hno
    · apply Or.inl
  have hdata : ∀ q k, Event.dataIndication q k ∉ concludeEvents p pkt buf := by
    intro q k
    cases hcollided : pkt.collision <;> simp [concludeEvents, hcollided]
  have henter : ∀ q k, Event.txEnter q k ∉ concludeEvents p pkt buf := by
    intro q k
    cases hcollided : pkt.collision <;> simp [concludeEvents, hcollided]
  have hbegins : ∀ k t, c'.notes.Begins k t ↔ c.notes.Begins k t := by
    intro k t
    apply exists_congr
    intro q
    apply hold (hdata q k)
  have hpacket : ∀ {k}, (p, some k) ∈ onAir c.state.med.log → k = pkt.id := by
    intro k hk
    apply Option.some.inj ((hhist.onAir_iff hlive hpkt).mp hk).2
  constructor
  · rw [hnotes, note_eq hlog, hlog, List.map_append, h.log, map_fst_stamped]
  · rw [hnotes, note_eq hlog]
    apply stamped_le h.past hnow
  · intro q k t
    rw [hold (hdata q k), hold (henter q _)]
    apply h.entered q k t
  · intro past q r t k j hentry hk hj
    rcases h.sent_conclude hlog hnotes hentry with hentry | ⟨-, rfl, hair⟩
    · apply h.sole hentry hk hj
    · rw [hair] at hk hj
      rw [hpacket hk, hpacket hj]
  · intro q k hmet
    rw [hlog, coexisted_conclude] at hmet
    obtain ⟨j, t', hj, hbegin, hend, hend'⟩ := h.met hmet
    have hpast : ∀ {k t}, c.notes.Begins k t → t ≤ c'.now := by
      rintro k t ⟨q, hq⟩
      apply (h.past _ hq).trans hnow
    refine ⟨j, t', hj, (hbegins j t').mpr hbegin, ?_, ?_⟩
    · intro r t hr
      rcases h.reports_conclude hhist hguard hmed hnotes hr with hr | ⟨-, rfl⟩
      · apply hend r t hr
      · apply hpast hbegin
    · intro t r u ht hu
      have ht' := (hbegins k t).mp ht
      rcases h.reports_conclude hhist hguard hmed hnotes hu with hu | ⟨-, rfl⟩
      · apply hend' t r u ht' hu
      · apply hpast ht'

theorem initial {c : Clocked Sys Airtime} (hinit : (clockedMedium host kind).init c) :
  AirtimeKept c
  := by
  obtain ⟨hstate, hnotes⟩ := hinit
  have hstate' : c.state = ⟨.start, Medium.new⟩ := hstate
  constructor
  · rw [hnotes, hstate']
    rfl
  · simp [hnotes]
  · simp [hnotes]
  · intro past p r t k j hentry
    rw [hnotes] at hentry
    apply absurd hentry entry_nil
  · intro p k hmet
    rw [hstate'] at hmet
    apply absurd hmet (coexisted_nil txVisit)

/-- What is noted down is right whatever the clock does. -/
theorem reachable {c : Clocked Sys Airtime} (h : (clockedMedium host kind).Reachable c) :
  AirtimeKept c
  := by
  have hinv : TxConsistent c.state.med ∧ TxHistory c.state.med ∧ AirtimeKept c := by
    apply h.invariant (P := fun c => TxConsistent c.state.med ∧ TxHistory c.state.med ∧
      AirtimeKept c)
    · intro c hinit
      have hstate : c.state = ⟨.start, Medium.new⟩ := hinit.1
      refine ⟨?_, ?_, .initial hinit⟩
      · rw [hstate]
        apply TxConsistent.initial
      · rw [hstate]
        apply TxHistory.initial
    · intro c c' i ⟨hcons, hhist, hkept⟩ henabled hstep
      obtain ⟨hs, hnow, hnotes⟩ := Machine.clocked_step hstep
      have hnext := txNext_of_next (next_of_step henabled.2.1 hs)
      have hle : c.now ≤ c'.now := by
        rw [hnow]
        apply henabled.1
      rw [← hnow] at hnotes
      refine ⟨hcons.next hnext, hhist.next hcons hnext, ?_⟩
      generalize hx : c.state = x at hnext
      generalize hx' : c'.state = x' at hnext
      cases hnext with
      | neutral hneutral =>
          rw [← hx, ← hx'] at hneutral
          obtain ⟨es, hlog, hno⟩ := hneutral.log
          apply hkept.neutral hle hlog hnotes hno
      | @transmit ph ev evs m p n pkt itValue hguard =>
          obtain rfl : c.state.med = m := by rw [hx]
          apply hkept.transmit hhist hle hguard (by rw [hx']) hnotes
      | @collide m _ hguard =>
          have hlog : c'.state.med.log = c.state.med.log := by
            rw [hx, hx']
            rfl
          apply hkept.neutral hle (hlog.trans (List.append_nil _).symm) hnotes (by simp)
      | @conclude m i p n pkt buf hguard =>
          obtain rfl : c.state.med = m := by rw [hx]
          apply hkept.conclude hhist hle hguard (by rw [hx']) hnotes
  apply hinv.2.2

end AirtimeKept

end X6losim
