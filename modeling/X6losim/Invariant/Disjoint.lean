import X6losim.Invariant.Accounting
import X6losim.Invariant.Airtime
import X6losim.Invariant.Collision
import X6losim.Sim.ClockedSession

/-!
# Packets whose times on air are disjoint

On a powerline medium packets whose times on air, up to the first look of `processTxList` at their
expired timers, are disjoint are all sent; a timer that has expired before the next packet begins
is not enough.
-/

open Bytes History

namespace X6losim

variable {host : ByteOrder} {kind : Kind} {s s' : Sys} {m m' : Medium} {p : NodePtr}
  {n : DeviceNode} {pkt : NetSimPacket} {k : PktId} {a : Airtime} {t now : Int} {i : Input}
  {d : Diary}

/-! ### Looks at timers -/

/-- The thread looks at the timer of a packet when it has got to the entry of its node. -/
theorem looksAt_eq (hlook : s.looksAt i = some k) :
  ∃ env j p n pkt, i = .run env ∧ s.pc = .processTxList j ∧ s.med.txList[j]? = some p ∧
    s.med.nodes p = .live n ∧ n.txPkt = some pkt ∧ pkt.id = k
  := by
  cases i with
  | run env =>
      obtain ⟨pc, m⟩ := s
      cases pc with
      | processTxList j =>
          obtain ⟨p, hp, hlook⟩ := Option.bind_eq_some_iff.mp hlook
          cases hcell : m.nodes p with
          | live n =>
              simp only [hcell, Option.map_eq_some_iff] at hlook
              obtain ⟨pkt, hpkt, hid⟩ := hlook
              exact ⟨env, j, p, n, pkt, rfl, rfl, hp, hcell, hpkt, hid⟩
          | unborn => simp [hcell] at hlook
          | destroyed => simp [hcell] at hlook
      | _ => cases hlook
  | _ => cases hlook

/-- A transmission ends when the thread looks at its timer. -/
theorem looksAt_conclude {j : Nat} {buf : List UInt8} (hnext : Next host kind s i s')
    (hpc : s.pc = .processTxList j) (hguard : (Effect.conclude j p n pkt buf).Guard s.med)
    (hmed : s'.med = (Effect.conclude j p n pkt buf).apply s.med) :
  s.looksAt i = some pkt.id
  := by
  have hlog : s'.med.log = s.med.log ++ concludeEvents p pkt buf := by
    rw [hmed]
    rfl
  obtain ⟨hentry, hlive, -, hpkt, -⟩ := hguard
  have hrun : ∀ env, s.looksAt (.run env) = some pkt.id := by
    intro env
    simp [Sys.looksAt, hpc, hentry, hlive, hpkt]
  cases i with
  | run env => apply hrun env
  | addNode env q socket =>
      cases hnext
      simp [Effect.apply, concludeEvents] at hlog
  | stop =>
      cases hnext
      simp [concludeEvents] at hlog
  | deleteMedium env =>
      cases hnext
      cases hpc

/-- What comes of a look at the timer of a packet on the transmit list: before the expiry nothing
changes, and from then on the transmission ends. -/
theorem look_answered {c : Clocked Sys Airtime} {x : Int} (hcons : TxConsistent c.state.med)
    (hanswers : TimerAnswers c i now) (hstep : c.state.step host kind i = .ok s')
    (hlook : c.state.looksAt i = some k) (hx : c.notes.expires k = some x) :
  now < x ∧ s'.med = c.state.med ∨ x ≤ now ∧ ∃ j p n pkt buf, pkt.id = k ∧
    (Effect.conclude j p n pkt buf).Guard c.state.med ∧
    s'.med = (Effect.conclude j p n pkt buf).apply c.state.med
  := by
  obtain ⟨env, j, p, n, pkt, rfl, hpc, hp, hlive, hpkt, rfl⟩ := looksAt_eq hlook
  obtain ⟨hstate, hstarted, -⟩ := hcons.transmitting (List.mem_of_getElem? hp) hlive
  have hguard : ∀ buf, (Effect.conclude j p n pkt buf).Guard c.state.med :=
    fun _ => ⟨hp, hlive, hstate, hpkt, hstarted⟩
  have hanswer : ∀ {left}, env.nodeTimerGettime p = some left → (left = ⟨0, 0⟩ ↔ x ≤ now) := by
    intro left hleft
    apply hanswers j p n pkt x left hpc hp hlive hpkt hx hleft
  have hresult := processTxEntry_result hlive hstarted hstate hpkt host env j
  generalize hentry : processTxEntry host env j p c.state.med = result at hresult
  cases hresult with
  | failed => simp [Sys.step, stepProg, runStep, hpc, hp, hentry] at hstep
  | waits hleft hne =>
      simp [Sys.step, stepProg, runStep, hpc, hp, hentry] at hstep
      left
      rw [← hstep]
      refine ⟨?_, rfl⟩
      by_contra hle
      apply hne ((hanswer hleft).mpr (not_lt.mp hle))
  | collided hexpired =>
      simp [Sys.step, stepProg, runStep, hpc, hp, hentry] at hstep
      right
      rw [← hstep]
      exact ⟨(hanswer hexpired).mp rfl, j, p, n, pkt, _, rfl, hguard _, rfl⟩
  | done hexpired =>
      simp [Sys.step, stepProg, runStep, hpc, hp, hentry] at hstep
      right
      rw [← hstep]
      exact ⟨(hanswer hexpired).mp rfl, j, p, n, pkt, _, rfl, hguard _, rfl⟩
  | outOfBounds => simp [Sys.step, stepProg, runStep, hpc, hp, hentry] at hstep

/-- A packet whose timer is looked at is on the transmit list. -/
theorem onAir_look (hhist : TxHistory s.med) (hlook : s.looksAt i = some k) :
  ∃ p, (p, some k) ∈ onAir s.med.log
  := by
  obtain ⟨env, j, p, n, pkt, -, -, hp, hlive, hpkt, rfl⟩ := looksAt_eq hlook
  exact ⟨p, (hhist.onAir_iff hlive hpkt).mpr ⟨List.mem_of_getElem? hp, rfl⟩⟩

/-- All looks at the timers of the packets on the transmit list have been too early, and the last
look at that of a packet that is reported is the first one that has not. -/
structure LooksKept (c : Clocked Sys Airtime) : Prop where
  early : ∀ {p k}, (p, some k) ∈ onAir c.state.med.log →
    ∃ x, c.notes.expires k = some x ∧ ∀ t ∈ c.notes.looks k, t < x
  unseen : ∀ {k}, c.state.med.nextPkt ≤ k → c.notes.looks k = []
  first : ∀ {k r t}, c.notes.Reports k r t → c.notes.FirstLook k t

namespace LooksKept

variable {c c' : Clocked Sys Airtime}

/-- No timer is looked at, and nothing that has to do with transmissions happens. -/
theorem neutral {es : List Event} (h : LooksKept c)
    (hlog : c'.state.med.log = c.state.med.log ++ es) (hno : ∀ e ∈ es, e.isTx = false)
    (hnext : c'.state.med.nextPkt = c.state.med.nextPkt)
    (hnotes : c'.notes = c.notes.note c.state i c'.state c'.now)
    (hlook : c.state.looksAt i = none) :
  LooksKept c'
  := by
  have hlooks : c'.notes.looks = c.notes.looks := by
    rw [hnotes, looks_note, hlook, looked]
  have hexpires : c'.notes.expires = c.notes.expires := by
    rw [hnotes, expires_kept hlog]
    intro q k hmem
    cases hno _ hmem
  constructor
  · intro p k hk
    rw [hlog, onAir_neutral hno] at hk
    rw [hlooks, hexpires]
    apply h.early hk
  · intro k hk
    rw [hnext] at hk
    rw [hlooks]
    apply h.unseen hk
  · intro k r t hr
    rw [hnotes, reports_kept hlog] at hr
    · rw [Airtime.FirstLook, hlooks, hexpires]
      apply h.first hr
    · intro q r hmem
      cases hno _ hmem

/-- A transmission starts: nobody has looked at the timer of its packet yet. -/
theorem transmit {itValue : Timespec} (h : LooksKept c) (hkept : AirtimeKept c)
    (hhist : TxHistory c.state.med) (hguard : (Effect.transmit p n pkt itValue).Guard c.state.med)
    (hmed : c'.state.med = (Effect.transmit p n pkt itValue).apply c.state.med)
    (hnotes : c'.notes = c.notes.note c.state i c'.state c'.now)
    (hlook : c.state.looksAt i = none) :
  LooksKept c'
  := by
  obtain ⟨-, -, -, hid, -⟩ := hguard
  have hlog : c'.state.med.log = c.state.med.log ++ transmitEvents p pkt.id := by
    rw [hmed]
    rfl
  have hlooks : c'.notes.looks = c.notes.looks := by
    rw [hnotes, looks_note, hlook, looked]
  have hexpires : ∀ {k}, k < c.state.med.nextPkt → c'.notes.expires k = c.notes.expires k := by
    intro k hk
    rw [hnotes, expires_transmit hlog, Function.update_of_ne (hk.trans_eq hid.symm).ne]
  constructor
  · intro q k hk
    rw [hlog, onAir_transmit] at hk
    rw [hlooks]
    rcases List.mem_append.mp hk with hk | hk
    · rw [hexpires (hhist.fresh_onAir List.prefix_rfl hk)]
      apply h.early hk
    · cases List.mem_singleton.mp hk
      rw [h.unseen hid.ge, hnotes, expires_transmit hlog, Function.update_self]
      exact ⟨_, rfl, by simp⟩
  · intro k hk
    have hnext : c'.state.med.nextPkt = c.state.med.nextPkt + 1 := by
      rw [hmed]
      rfl
    rw [hlooks]
    apply h.unseen
    rw [hnext] at hk
    apply (Nat.le_succ _).trans hk
  · intro k r t hr
    rw [hnotes, reports_kept hlog (by simp [transmitEvents])] at hr
    rw [Airtime.FirstLook, hlooks, hexpires (hkept.reports_lt hhist hr)]
    apply h.first hr

/-- A look at the timer of a packet on the transmit list leaves those at others as they are. -/
theorem other {j : PktId} (hk : k ≠ j) (hlook : c.state.looksAt i = some j)
    (hnotes : c'.notes = c.notes.note c.state i c'.state c'.now) :
  c'.notes.looks k = c.notes.looks k
  := by
  rw [hnotes, looks_note, hlook, looked, Function.update_of_ne hk]

/-- The timer of a packet on the transmit list has not expired yet. -/
theorem wait {x : Int} (h : LooksKept c) (hkept : AirtimeKept c) (hhist : TxHistory c.state.med)
    (hmed : c'.state.med = c.state.med)
    (hnotes : c'.notes = c.notes.note c.state i c'.state c'.now)
    (hlook : c.state.looksAt i = some k) (hx : c.notes.expires k = some x) (hlt : c'.now < x) :
  LooksKept c'
  := by
  have hlog : c'.state.med.log = c.state.med.log ++ [] := by rw [hmed, List.append_nil]
  have hexpires : c'.notes.expires = c.notes.expires := by
    rw [hnotes, expires_kept hlog (by simp)]
  obtain ⟨p, hp⟩ := onAir_look hhist hlook
  constructor
  · intro q j hj
    rw [hmed] at hj
    rw [hexpires]
    by_cases hjk : j = k
    · subst hjk
      obtain ⟨x', hx', hearly⟩ := h.early hj
      cases hx.symm.trans hx'
      refine ⟨x, hx, ?_⟩
      rw [hnotes, looks_note, hlook, looked, Function.update_self]
      simpa [or_imp, forall_and] using ⟨hearly, hlt⟩
    · rw [other hjk hlook hnotes]
      apply h.early hj
  · intro j hj
    rw [hmed] at hj
    have hused := hhist.fresh_onAir List.prefix_rfl hp
    rw [other (hused.trans_le hj).ne' hlook hnotes]
    apply h.unseen hj
  · intro j r t hr
    rw [hnotes, reports_kept hlog (by simp)] at hr
    have hjk : j ≠ k := by
      rintro rfl
      apply hkept.going hhist hp hr
    rw [Airtime.FirstLook, other hjk hlook hnotes, hexpires]
    apply h.first hr

/-- A transmission ends at the first look at its timer from the expiry on. -/
theorem conclude {j : Nat} {x : Int} {buf : List UInt8} (h : LooksKept c) (hkept : AirtimeKept c)
    (hcons : TxConsistent c.state.med) (hhist : TxHistory c.state.med)
    (hguard : (Effect.conclude j p n pkt buf).Guard c.state.med)
    (hmed : c'.state.med = (Effect.conclude j p n pkt buf).apply c.state.med)
    (hnotes : c'.notes = c.notes.note c.state i c'.state c'.now)
    (hlook : c.state.looksAt i = some pkt.id) (hx : c.notes.expires pkt.id = some x)
    (hle : x ≤ c'.now) :
  LooksKept c'
  := by
  have hlog : c'.state.med.log = c.state.med.log ++ concludeEvents p pkt buf := by
    rw [hmed]
    rfl
  have hexpires : c'.notes.expires = c.notes.expires := by
    rw [hnotes, expires_kept hlog]
    intro q k
    cases hcollided : pkt.collision <;> simp [concludeEvents, hcollided]
  have hp : (p, some pkt.id) ∈ onAir c.state.med.log :=
    (hhist.onAir_iff hguard.2.1 hguard.2.2.2.1).mpr ⟨List.mem_of_getElem? hguard.1, rfl⟩
  constructor
  · intro q k hk
    rw [hlog, onAir_conclude] at hk
    have hother : k ≠ pkt.id := by
      rintro rfl
      apply hhist.packet_gone hcons hp hk
    rw [other hother hlook hnotes, hexpires]
    apply h.early (List.mem_of_mem_eraseP hk)
  · intro k hk
    have hnext : c'.state.med.nextPkt = c.state.med.nextPkt := by
      rw [hmed]
      rfl
    have hused := hhist.fresh_onAir List.prefix_rfl hp
    rw [hnext] at hk
    rw [other (hused.trans_le hk).ne' hlook hnotes]
    apply h.unseen hk
  · intro k r t hr
    rcases hkept.reports_conclude hhist hguard hmed hnotes hr with hr | ⟨rfl, rfl⟩
    · have hk : k ≠ pkt.id := by
        rintro rfl
        apply hkept.going hhist hp hr
      rw [Airtime.FirstLook, other hk hlook hnotes, hexpires]
      apply h.first hr
    · obtain ⟨x', hx', hearly⟩ := h.early hp
      cases hx.symm.trans hx'
      refine ⟨x, c.notes.looks pkt.id, ?_, hle, ?_, hearly⟩
      · rw [hexpires, hx]
      · rw [hnotes, looks_note, hlook, looked, Function.update_self]

theorem next (h : LooksKept c) (hkept : AirtimeKept c) (hcons : TxConsistent c.state.med)
    (hhist : TxHistory c.state.med) (henabled : c.state.Enabled i)
    (hanswers : TimerAnswers c i c'.now) (hstep : c.state.step host kind i = .ok c'.state)
    (hnotes : c'.notes = c.notes.note c.state i c'.state c'.now) :
  LooksKept c'
  := by
  cases hlook : c.state.looksAt i with
  | none =>
      have hnext := next_of_step henabled hstep
      have htx := txNext_of_next hnext
      generalize hx : c.state = x at htx
      generalize hx' : c'.state = x' at htx
      cases htx with
      | neutral hneutral =>
          rw [← hx, ← hx'] at hneutral
          obtain ⟨es, hlog, hno⟩ := hneutral.log
          apply h.neutral hlog hno hneutral.nextPkt hnotes hlook
      | @transmit ph ev evs m p n pkt itValue hguard =>
          obtain rfl : c.state.med = m := by rw [hx]
          apply h.transmit hkept hhist hguard (by rw [hx']) hnotes hlook
      | @collide m _ hguard =>
          have hlog : c'.state.med.log = c.state.med.log ++ [] := by
            rw [hx, hx', List.append_nil]
            rfl
          refine h.neutral hlog (by simp) ?_ hnotes hlook
          rw [hx, hx']
          rfl
      | @conclude m j p n pkt buf hguard =>
          obtain rfl : c.state.med = m := by rw [hx]
          have hends := looksAt_conclude hnext (by rw [hx]) hguard (by rw [hx'])
          rw [hlook] at hends
          cases hends
  | some k =>
      obtain ⟨p, hp⟩ := onAir_look hhist hlook
      obtain ⟨x, hx, -⟩ := h.early hp
      rcases look_answered hcons hanswers hstep hlook hx with
        ⟨hlt, hmed⟩ | ⟨hle, j, q, n, pkt, buf, rfl, hguard, hmed⟩
      · apply h.wait hkept hhist hmed hnotes hlook hx hlt
      · apply h.conclude hkept hcons hhist hguard hmed hnotes hlook hx hle

/-- In every run against a clock. -/
theorem reachable (h : (clockedMedium host kind).Reachable c) :
  LooksKept c
  := by
  have hinv : (clockedMedium host kind).Reachable c ∧ LooksKept c := by
    apply h.invariant (P := fun c => (clockedMedium host kind).Reachable c ∧ LooksKept c)
    · intro c hinit
      refine ⟨.initial hinit, ?_⟩
      obtain ⟨hstate, hnotes⟩ := hinit
      have hstate' : c.state = ⟨.start, Medium.new⟩ := hstate
      constructor
      · intro p k hk
        rw [hstate'] at hk
        cases hk
      · simp [hnotes]
      · rintro k r t ⟨past, p, hentry, -⟩
        rw [hnotes] at hentry
        apply absurd hentry entry_nil
    · intro c c' i ⟨hreach, hlooks⟩ henabled hstep
      obtain ⟨hs, hnow, hnotes⟩ := Machine.clocked_step hstep
      obtain ⟨hcons, hhist⟩ := tx_reachable hreach.forget
      have hanswers := henabled.2.2
      rw [← hnow] at hnotes hanswers
      refine ⟨hreach.step henabled hstep, ?_⟩
      apply hlooks.next (.reachable hreach) hcons hhist henabled.2.1 hanswers hs hnotes
  apply hinv.2

end LooksKept

/-! ### Packets that end -/

/-- The timer of the first packet on the transmit list has expired, and its result is sent. -/
theorem At.conclude {x : Int} {buf : List UInt8}
    (h : At host kind ⟨.processTxList 0, m⟩ now d)
    (hguard : (Effect.conclude 0 p n pkt buf).Guard m) (hexpires : d.expires pkt.id = some x)
    (hx : x ≤ now) (hdone : processTxEntry host .timeUp 0 p m
      = .ok 0 ((Effect.conclude 0 p n pkt buf).apply m)) :
  At host kind ⟨.processTxList 0, (Effect.conclude 0 p n pkt buf).apply m⟩ now
    (d.conclude pkt.id pkt.result now)
  := by
  obtain ⟨hleft, a, hreach, hbegins, hexpires', hends⟩ := h
  obtain ⟨m', hm'⟩ : ∃ m', (Effect.conclude 0 p n pkt buf).apply m = m' := ⟨_, rfl⟩
  obtain ⟨hentry, hlive, -, hpkt, -⟩ := hguard
  have hlog : m'.log = m.log ++ concludeEvents p pkt buf := by
    rw [← hm']
    rfl
  have hstep : Sys.step host kind ⟨.processTxList 0, m⟩ (.run .timeUp)
      = .ok ⟨.processTxList 0, m'⟩ := by
    simp [Sys.step, stepProg, runStep, hentry, hdone, hm']
  have hanswers : TimerAnswers ⟨⟨.processTxList 0, m⟩, now, a⟩ (.run .timeUp) now := by
    intro i p' n' pkt' x' left hi hp hn hpkt' hx' hanswer
    cases hi
    obtain rfl := Option.some.inj (hentry.symm.trans hp)
    obtain rfl := NodeCell.live.inj (hlive.symm.trans hn)
    obtain rfl := Option.some.inj (hpkt.symm.trans hpkt')
    rw [hexpires', hexpires] at hx'
    cases hx'
    cases hanswer
    simp [hx]
  have hdata : ∀ q k, Event.dataIndication q k ∉ concludeEvents p pkt buf := by
    intro q k
    cases hcollided : pkt.collision <;> simp [concludeEvents, hcollided]
  rw [hm']
  constructor
  · intro q hq
    rw [hlog] at hq
    rcases List.mem_append.mp hq with hq | hq
    · apply hleft q hq
    · cases hcollided : pkt.collision <;> simp [concludeEvents, hcollided] at hq
  · refine ⟨_, hreach.at (i := Input.run .timeUp) (le_refl now) trivial hanswers hstep,
      ?_, ?_, ?_⟩
    · intro k t
      rw [begins_kept hlog hdata, hbegins, Diary.conclude]
    · rw [expires_kept hlog hdata, hexpires', Diary.conclude]
    · intro v hv
      rcases List.mem_append.mp hv with hv | hv
      · apply reports_mono hlog now (hends v hv)
      · cases List.mem_singleton.mp hv
        have hkept := AirtimeKept.reachable hreach
        refine ⟨a.stamped ++ [(.timerDelete p .txTimer, now)], p, ?_, ?_⟩
        · rw [note_eq hlog]
          simp [Entry, concludeEvents]
        · have hair : (p, some pkt.id) ∈ onAir m.log := by
            rw [(tx_reachable hreach.forget).2.onAir_iff hlive hpkt]
            exact ⟨List.mem_of_getElem? hentry, rfl⟩
          rw [List.map_append, hkept.log, List.map_singleton,
            onAir_neutral (by simp [Event.isTx])]
          apply hair

/-- An active node transmits a packet, and nothing else happens before its timer has expired. -/
theorem At.send {e : Int} (h : At host kind ⟨.interval .idle, m⟩ now d) (hactive : m.Active p n)
    (hle : now ≤ t) (hend : t + 4000000 ≤ e) :
  ∃ m', At host kind ⟨.interval .idle, m'⟩ e
      ((d.begin m.nextPkt t).conclude m.nextPkt txDoneOk e) ∧ m'.nextPkt = m.nextPkt + 1 ∧
    ∀ q n', q ≠ p → m.Active q n' → m'.Active q n'
  := by
  obtain ⟨m₁, n₁, pkt, hstart, htx, hbuffer, ⟨hid, hnext⟩, hnodes, hinterest, hhash, hreg⟩ :=
    h.start hactive hle
  have hlater : t ≤ e := by omega
  have htx' := htx.tick .tx
  have hlook := hstart.alone htx hlater
  have hfits := psduFits_dataFrame host n.socket
  rw [← hbuffer] at hfits
  have hexpired : Env.timeUp.Expired p := rfl
  obtain ⟨buf, hdone⟩ := @processTxEntry_fits host _ _ _ _ 0 _ htx'.live htx'.txTimer hexpired
    htx'.curState htx'.txPkt htx'.collision hfits
  have hguard : (Effect.conclude 0 p n₁ pkt buf).Guard (m₁.tick .tx) :=
    ⟨by rw [htx'.txList]; rfl, htx'.live, htx'.curState, htx'.txPkt, htx'.txTimer⟩
  have hended := hlook.conclude hguard (Function.update_self ..) hend hdone
  have hresult : pkt.result = txDoneOk := by simp [NetSimPacket.result, htx.collision]
  rw [hid, hresult] at hended
  have hempty : ((Effect.conclude 0 p n₁ pkt buf).apply (m₁.tick .tx)).txList = [] := by
    simp [Effect.apply, htx'.txList]
  have hnone : ((Effect.conclude 0 p n₁ pkt buf).apply (m₁.tick .tx)).regListMap = PMap.empty :=
    hreg.trans hactive.regListMap
  refine ⟨_, hended.settle ?_ hempty ?_, hnext, ?_⟩
  · simp [Effect.apply, htx'.state]
  · rw [hnone]
    exact ⟨List.nodup_nil, by simp⟩
  · intro q n' hq hother
    constructor
    · rfl
    · apply htx'.ccaList
    · apply hempty
    · apply hnone
    · apply (congrFun hhash _).trans hother.nodeHashMap
    · apply hinterest.symm ▸ hother.interest
    · apply (Function.update_of_ne hq _ _).trans ((hnodes q hq).trans hother.live)
    · apply hother.curState
    · apply hother.txTimer

/-- A packet whose interval on air, from the instant at which its data indication is handled to the
one at which `processTxList` finds its timer expired and sends the result, is disjoint from that of
every other packet has been sent: that is the result, and the packet is multicast.  The intervals
end with the first look of `processTxList` at the timers of the packets once they have expired. -/
theorem disjoint_sent {c : Clocked Sys Airtime} {r e : Int}
    (h : (clockedMedium host .powerline).Reachable c) (hbegin : c.notes.Begins k t)
    (hend : c.notes.Reports k r e)
    (hdisjoint : ∀ j t', j ≠ k → c.notes.Begins j t' →
      e < t' ∨ ∃ r' e', c.notes.Reports j r' e' ∧ e' < t) :
  (r = txDoneOk ∧ ∃ p buf, .multicast p k buf ∈ c.state.med.log) ∧
    ∀ j r' e', c.notes.Reports j r' e' → c.notes.FirstLook j e'
  := by
  have hreach : (medium host .powerline).Reachable c.state := h.forget
  have hkept := AirtimeKept.reachable h
  obtain ⟨hcons, hhist⟩ := tx_reachable hreach
  obtain ⟨past, p, hentry, hp⟩ := hend
  have hlogged := hkept.entry hentry
  have hok : r = txDoneOk := by
    obtain ⟨k', hk', ⟨hmet, -⟩ | ⟨-, hr⟩⟩ := (collisions_reachable hreach).reported hlogged
    · obtain rfl := hkept.sole hentry hp hk'
      obtain ⟨j, t', hj, hbegin', hbefore, hbefore'⟩ := hkept.met hmet
      have hle := hbefore r e ⟨past, p, hentry, hp⟩
      rcases hdisjoint j t' hj hbegin' with hlt | ⟨r', e', hend', hlt⟩
      · omega
      · have hle' := hbefore' t r' e' hbegin hend'
        omega
    · apply hr
  refine ⟨⟨hok, p, ?_⟩, ?_⟩
  · apply ((TxAccount.reachable hreach).multicast p k).mpr
    rw [hok] at hlogged
    exact ⟨_, hlogged, hp⟩
  · intro j r' e' hend'
    apply (LooksKept.reachable h).first hend'

/-- Two nodes transmit one after the other, and both packets are sent. -/
theorem disjoint_sent_successive :
  ∃ c k j t e t' e', (clockedMedium .little .powerline).Reachable c ∧ k ≠ j ∧ e < t' ∧
    c.notes.Begins k t ∧ c.notes.Reports k txDoneOk e ∧
    c.notes.Begins j t' ∧ c.notes.Reports j txDoneOk e' ∧
    (∃ p buf, .multicast p k buf ∈ c.state.med.log) ∧
    (∃ p buf, .multicast p j buf ∈ c.state.med.log) ∧
    c.notes.FirstLook k e ∧ c.notes.FirstLook j e'
  := by
  obtain ⟨m₀, n, n', hidle, hactive, hactive', -, -⟩ := at_active .little .powerline
  obtain ⟨m₁, hfirst, hnext, hothers⟩ :=
    hidle.send (t := 0) (e := 4200000) hactive (by decide) (by decide)
  obtain ⟨m₂, ⟨-, a, hreach, hbegins, -, hends⟩, -, -⟩ :=
    hfirst.send (t := 5000000) (e := 9100000) (hothers 1 n' (by decide) hactive') (by decide)
      (by decide)
  have hne : m₀.nextPkt ≠ m₁.nextPkt := by
    rw [hnext]
    apply Nat.ne_of_lt (Nat.lt_succ_self _)
  have hbegins' : ∀ {k t}, a.Begins k t ↔
      k = m₀.nextPkt ∧ t = 0 ∨ k = m₁.nextPkt ∧ t = 5000000 := by
    intro k t
    rw [hbegins]
    simp [Diary.begin, Diary.conclude, Diary.blank]
  have hend : a.Reports m₀.nextPkt txDoneOk 4200000 := by
    apply hends (m₀.nextPkt, txDoneOk, 4200000)
    simp [Diary.begin, Diary.conclude, Diary.blank]
  have hend' : a.Reports m₁.nextPkt txDoneOk 9100000 := by
    apply hends (m₁.nextPkt, txDoneOk, 9100000)
    simp [Diary.begin, Diary.conclude, Diary.blank]
  have hbegin : a.Begins m₀.nextPkt 0 := hbegins'.mpr (Or.inl ⟨rfl, rfl⟩)
  have hbegin' : a.Begins m₁.nextPkt 5000000 := hbegins'.mpr (Or.inr ⟨rfl, rfl⟩)
  obtain ⟨⟨-, hsent⟩, hlooks⟩ := disjoint_sent hreach hbegin hend (by
    intro j t' hj hother
    rcases hbegins'.mp hother with ⟨rfl, -⟩ | ⟨-, rfl⟩
    · apply absurd rfl hj
    · left
      decide)
  obtain ⟨⟨-, hsent'⟩, -⟩ := disjoint_sent hreach hbegin' hend' (by
    intro j t' hj hother
    rcases hbegins'.mp hother with ⟨rfl, -⟩ | ⟨rfl, -⟩
    · right
      exact ⟨_, _, hend, by decide⟩
    · apply absurd rfl hj)
  exact ⟨_, _, _, _, _, _, _, hreach, hne, by decide, hbegin, hend, hbegin', hend', hsent, hsent',
    hlooks _ _ _ hend, hlooks _ _ _ hend'⟩

/-- No node leaves, and every other packet begins after the timer of a packet has expired, and yet
the packet is reported to have collided: the medium has waited until 3.3 ms, and has not yet looked
at the timer, which expires at 4 ms, when the other packet begins at 4.2 ms. -/
theorem expired_collided :
  ∃ c k t x e, (clockedMedium .little .powerline).Reachable c ∧
    (∀ q, .deleteNode q ∉ c.state.med.log) ∧ c.notes.Begins k t ∧ c.notes.expires k = some x ∧
    (∀ j t', j ≠ k → c.notes.Begins j t' → x < t') ∧ c.notes.Reports k txDoneCollided e
  := by
  obtain ⟨m₀, n₀, n₁, hidle, hactive, hactive', -, -⟩ := at_active .little .powerline
  obtain ⟨m, n, pkt, hstart, htx, -, ⟨hid, hnext⟩, hnodes, hinterest, -, -⟩ :=
    hidle.start hactive (le_refl 0)
  have hexpires : (Diary.blank.begin pkt.id 0).expires pkt.id = some 4000000 := by
    simp [Diary.begin]
  have h₁ : At .little .powerline ⟨.interval .tx, m.tick .tx⟩ 1100000 _ :=
    hstart.round htx hexpires (by decide) (by decide)
  have h₂ : At .little .powerline ⟨.interval .tx, (m.tick .tx).tick .tx⟩ 2200000 _ :=
    h₁.round (htx.tick .tx) hexpires (by decide) (by decide)
  have h₃ : At .little .powerline ⟨.interval .tx, ((m.tick .tx).tick .tx).tick .tx⟩ 3300000 _ :=
    h₂.round ((htx.tick .tx).tick .tx) hexpires (by decide) (by decide)
  have hlive : (((m.tick .tx).tick .tx).tick .tx).nodes 1 = .live n₁ :=
    (hnodes 1 (by decide)).trans hactive'.live
  have hinterest' : 1 ∈ (((m.tick .tx).tick .tx).tick .tx).interest := by
    have hjoined := hactive'.interest
    rw [← hinterest] at hjoined
    apply hjoined
  obtain ⟨m', h₄, hentry, hfirst⟩ := h₃.collide (((htx.tick .tx).tick .tx).tick .tx)
    (by decide) hlive ⟨hactive'.curState, hactive'.txTimer⟩ hinterest'
    (show (3300000 : Int) ≤ 4200000 by decide)
  have htxPkt : n.collide.txPkt = some { pkt with collision := true } := by
    simp [DeviceNode.collide, htx.txPkt]
  have hguard : (Effect.conclude 0 0 n.collide { pkt with collision := true } []).Guard m' :=
    ⟨hentry, hfirst, htx.curState, htxPkt, htx.txTimer⟩
  have hexpired : Env.timeUp.Expired 0 := rfl
  have hdone := @processTxEntry_collided _ _ _ .little _ 0 _ hfirst htx.txTimer hexpired
    htx.curState htxPkt rfl []
  have hne : m.nextPkt ≠ pkt.id := by
    rw [hid, hnext]
    apply (Nat.lt_succ_self _).ne'
  have hkept : ((Diary.blank.begin pkt.id 0).begin m.nextPkt 4200000).expires pkt.id
      = some 4000000 := (Function.update_of_ne hne.symm _ _).trans hexpires
  obtain ⟨hleft, a, hreach, hbegins, hexpires', hends⟩ :=
    h₄.conclude hguard hkept (by decide) hdone
  refine ⟨_, pkt.id, 0, 4000000, 4200000, hreach, hleft, ?_, ?_, ?_, ?_⟩
  · rw [hbegins]
    simp [Diary.begin, Diary.conclude, Diary.blank]
  · rw [hexpires']
    apply hkept
  · intro j t' hj hbegin
    rw [hbegins] at hbegin
    simp [Diary.begin, Diary.conclude, Diary.blank, hj] at hbegin
    omega
  · apply hends (pkt.id, txDoneCollided, 4200000)
    apply List.mem_append_right _ (List.mem_singleton_self _)

end X6losim
