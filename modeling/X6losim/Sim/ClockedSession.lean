import X6losim.Sim.Airtime
import X6losim.Sim.Session

/-!
# A session against a clock

Where a medium gets to by the clock when no call to the system fails and no node leaves: a node
transmits a packet, the medium waits for the end of it, and another node transmits.
-/

open Bytes History

namespace X6losim

variable {host : ByteOrder} {kind : Kind} {s s' : Sys} {m m' : Medium} {p q : NodePtr}
  {n n' : DeviceNode} {pkt : NetSimPacket} {pc pc' : Pc} {ph : Phase} {now now' x : Int}

/-- What is known of the transmissions of a session: the packets that have begun, the instants at
which their timers expire, and the results that have been sent. -/
structure Diary where
  begun : List (PktId × Int)
  expires : PktId → Option Int
  ended : List (PktId × Int × Int)

namespace Diary

/-- Nothing has been transmitted. -/
def blank : Diary := ⟨[], fun _ => none, []⟩

/-- A packet begins, and its timer is armed with four milliseconds. -/
def begin (d : Diary) (k : PktId) (t : Int) : Diary :=
  { d with
    begun := d.begun ++ [(k, t)]
    expires := Function.update d.expires k (some (t + 4000000)) }

/-- The result of a packet is sent. -/
def conclude (d : Diary) (k : PktId) (r t : Int) : Diary :=
  { d with ended := d.ended ++ [(k, r, t)] }

end Diary

variable {d : Diary}

/-- A place a medium has got to at an instant, from which no node has left, with what is known of
the transmissions. -/
def At (host : ByteOrder) (kind : Kind) (s : Sys) (now : Int) (d : Diary) : Prop :=
  (∀ q, .deleteNode q ∉ s.med.log) ∧
    ∃ a, (clockedMedium host kind).Reachable ⟨s, now, a⟩ ∧
      (∀ k t, a.Begins k t ↔ (k, t) ∈ d.begun) ∧ a.expires = d.expires ∧
      ∀ v ∈ d.ended, a.Reports v.1 v.2.1 v.2.2

namespace At

/-- A step in which nothing happens that has to do with transmissions. -/
theorem neutral {i : Input} {es : List Event} (h : At host kind s now d)
    (hle : now ≤ now') (henabled : s.Enabled i)
    (hanswers : ∀ a : Airtime, a.expires = d.expires → TimerAnswers ⟨s, now, a⟩ i now')
    (hstep : s.step host kind i = .ok s') (hlog : s'.med.log = s.med.log ++ es)
    (hno : ∀ e ∈ es, e.isTx = false) (hstay : ∀ q, .deleteNode q ∉ es) :
  At host kind s' now' d
  := by
  obtain ⟨hleft, a, hreach, hbegins, hexpires, hends⟩ := h
  have hdata : ∀ q k, Event.dataIndication q k ∉ es := by
    intro q k hmem
    cases hno _ hmem
  constructor
  · intro q hq
    rw [hlog] at hq
    rcases List.mem_append.mp hq with hq | hq
    · apply hleft q hq
    · apply hstay q hq
  · refine ⟨_, hreach.at hle henabled (hanswers a hexpires) hstep, ?_, ?_, ?_⟩
    · intro k t
      rw [begins_kept hlog hdata, hbegins]
    · rw [expires_kept hlog hdata, hexpires]
    · intro v hv
      apply reports_mono hlog now' (hends v hv)

/-- A step of the thread that looks at no timer and logs nothing. -/
theorem go (h : At host kind ⟨pc, m⟩ now d)
    (hpc : ∀ i, pc = .processTxList i → m.txList[i]? = none)
    (henabled : Sys.Enabled ⟨pc, m⟩ (.run .calm))
    (hstep : runStep host kind .calm pc m = .ok pc' m') (hlog : m'.log = m.log) :
  At host kind ⟨pc', m'⟩ now d
  := by
  have hnone : m'.log = m.log ++ [] := by rw [hlog, List.append_nil]
  refine h.neutral (le_refl now) henabled ?_ ?_ hnone (by simp) (by simp)
  · intro a _ i p _ _ _ _ hi hp
    have hnone : m.txList[i]? = none := hpc i hi
    rw [hnone] at hp
    cases hp
  · simp only [Sys.step, stepProg, hstep]

/-- `interval` begins to wait. -/
theorem arm (h : At host kind ⟨.interval ph, m⟩ now d) :
  At host kind ⟨.epollWait ph ph.waitms, m.tick ph⟩ now d
  := by
  have hlog : (m.tick ph).log = m.log ++ [.interval ph.waitms] := rfl
  refine h.neutral (i := .run .calm) (le_refl now) trivial ?_ ?_ hlog (by simp [Event.isTx])
    (by simp)
  · intro a _ i _ _ _ _ _ hi
    cases hi
  · simp [Sys.step, stepProg, runStep, armInterval, Env.calm, Medium.tick]

/-- What `epoll_wait` reports, at some later instant. -/
theorem wait {evs : List PollEvent} (h : At host kind ⟨.interval ph, m⟩ now d)
    (hle : now ≤ now') (hreport : m.Reportable evs) :
  At host kind ⟨match evs with | [] => .timeLeft ph 0 | _ => .poll ph evs, m.tick ph⟩ now' d
  := by
  have hreport' : (m.tick ph).Reportable evs :=
    ⟨hreport.length_le, hreport.nodup, hreport.interest⟩
  refine h.arm.neutral (i := .run { Env.calm with epollWait := .ready evs }) hle ?_ ?_ ?_
    (List.append_nil _).symm (by simp) (by simp)
  · intro evs' hevs
    cases hevs
    apply hreport'
  · intro a _ i _ _ _ _ _ hi
    cases hi
  · cases evs with
    | nil => rfl
    | cons ev evs =>
        have hmax : ¬ epollMaxEvents < (ev :: evs).length := not_lt_of_ge hreport.length_le
        simp only [Sys.step, stepProg, runStep, if_neg hmax]
        rfl

end At

/-! ### Nodes join -/

/-- Where a medium has got to before anything is transmitted, by a clock that stands still. -/
theorem at_calm (h : (medium host kind).Reachable s) (hno : ∀ e ∈ s.med.log, e.isTx = false)
    (hstay : ∀ q, .deleteNode q ∉ s.med.log) :
  At host kind s 0 .blank
  := by
  have hlift : (medium host kind).Reachable s ∧ ((∀ e ∈ s.med.log, e.isTx = false) →
      (∀ q, .deleteNode q ∉ s.med.log) → At host kind s 0 .blank) := by
    apply h.invariant (P := fun s => (medium host kind).Reachable s ∧
      ((∀ e ∈ s.med.log, e.isTx = false) → (∀ q, .deleteNode q ∉ s.med.log) →
        At host kind s 0 .blank))
    · intro s hinit
      refine ⟨.initial hinit, ?_⟩
      intro _ hstay
      refine ⟨hstay, ⟨[], fun _ => none, fun _ => []⟩, .initial ⟨hinit, rfl⟩, ?_, rfl, ?_⟩
      · simp [Airtime.Begins, Diary.blank]
      · simp [Diary.blank]
    · rintro s s' i ⟨hreach, ih⟩ henabled hstep
      refine ⟨hreach.step henabled hstep, ?_⟩
      intro hno hstay
      obtain ⟨es, hlog⟩ := (txNext_of_next (next_of_step henabled hstep)).log
      have hold : ∀ e ∈ s.med.log, e.isTx = false := by
        intro e he
        apply hno
        rw [hlog]
        apply List.mem_append_left _ he
      have hold' : ∀ q, .deleteNode q ∉ s.med.log := by
        intro q hq
        apply hstay q
        rw [hlog]
        apply List.mem_append_left _ hq
      have hempty : s.med.txList = [] := by
        rw [← (tx_reachable hreach).2.visitors, ← List.nil_append s.med.log, onAir_neutral hold]
        rfl
      refine (ih hold hold').neutral (le_refl 0) henabled ?_ hstep hlog ?_ ?_
      · intro a _
        cases i with
        | run env =>
            intro i p n pkt x left _ hp
            rw [hempty] at hp
            cases hp
        | addNode env p socket => trivial
        | stop => trivial
        | deleteMedium env => trivial
      · intro e he
        apply hno
        rw [hlog]
        apply List.mem_append_right _ he
      · intro q hq
        apply hstay q
        rw [hlog]
        apply List.mem_append_right _ hq
  apply hlift.2 hno hstay

/-- Two nodes are active, and nothing has been transmitted. -/
theorem at_active (host : ByteOrder) (kind : Kind) :
  ∃ m n n', At host kind ⟨.interval .idle, m⟩ 0 .blank ∧ m.Active 0 n ∧ m.Active 1 n' ∧
    n.socket = 0 ∧ n'.socket = 1
  := by
  obtain ⟨m₁, m, n, n', hrunning, hjoined, hjoined', hpair⟩ := running_pair host kind
  refine ⟨m, n, n', at_calm hrunning.reachable ?_ ?_, hpair⟩
  · rw [hjoined'.log, hjoined.log]
    simp [Medium.idle, Medium.new, Event.isTx]
  · rw [hjoined'.log, hjoined.log]
    simp [Medium.idle, Medium.new]

/-! ### Transmissions -/

namespace At

/-- A data frame is taken by a node that is ready: its packet begins, and its timer is armed with
four milliseconds. -/
theorem transmit {evs : List PollEvent} (hlive : m.nodes p = .live n) (hready : n.Ready)
    (h : At host kind ⟨.poll ph (frameEvent p (dataFrame host n.socket) :: evs), m⟩ now d) :
  ∃ pkt, pkt.collision = false ∧ pkt.id = m.nextPkt ∧
    pkt.pktBuffer = blankCksum (dataFrame host n.socket) ∧
    At host kind ⟨.poll ph evs, (Effect.transmit p n pkt (txTime false)).apply m⟩ now
      (d.begin m.nextPkt now)
  := by
  have hframe := dispatched_dataFrame host n.socket
  obtain ⟨pkt, hclear, hid, hbuffer, hhandle⟩ :=
    handleDataIndication_ready hframe.received hlive hready
  have hack : (34 / 256 % 8 == 2) = false := rfl
  rw [length_dataFrame, hack] at hhandle
  refine ⟨pkt, hclear, hid, hbuffer, ?_⟩
  obtain ⟨hleft, a, hreach, hbegins, hexpires, hends⟩ := h
  obtain ⟨m', hm'⟩ : ∃ m', (Effect.transmit p n pkt (txTime false)).apply m = m' := ⟨_, rfl⟩
  have hlog : m'.log = m.log ++ transmitEvents p m.nextPkt := by
    rw [← hm', ← hid]
    rfl
  have htime : m'.txTimeNs p = 4000000 := by
    rw [← hm']
    simp [Medium.txTimeNs, Effect.apply, txTime, Timespec.toNs]
  have hstep : Sys.step host kind ⟨.poll ph (frameEvent p (dataFrame host n.socket) :: evs), m⟩
      (.run .calm) = .ok ⟨.poll ph evs, m'⟩ := by
    have hevent : processPollerEvent host .calm (frameEvent p (dataFrame host n.socket)) m
        = .ok true m' := by
      rw [processPollerEvent_frame hframe hlive rfl, callHandler, hhandle, hm']
    simp [Sys.step, stepProg, runStep, hevent]
  rw [hm']
  constructor
  · intro q hq
    rw [hlog] at hq
    rcases List.mem_append.mp hq with hq | hq
    · apply hleft q hq
    · simp [transmitEvents] at hq
  · refine ⟨_, hreach.at (i := Input.run .calm) (le_refl now) trivial ?_ hstep, ?_, ?_, ?_⟩
    · intro i _ _ _ _ _ hi
      cases hi
    · intro k t
      rw [begins_transmit hlog, hbegins, Diary.begin, List.mem_append, List.mem_singleton,
        Prod.mk.injEq]
    · rw [expires_transmit hlog, hexpires, htime, Diary.begin]
    · intro v hv
      apply reports_mono hlog now (hends v hv)

/-- From the events of a round in which some node transmits to the next call of `interval`. -/
theorem busy (h : At host kind ⟨.poll .idle [], m⟩ now d)
    (hstate : m.state ≠ .stopping) (hcca : m.ccaList = []) (htx : m.txList ≠ []) :
  At host kind ⟨.interval .tx, { m with state := .tx802514Frame }⟩ now d
  := by
  have hpolled : At host kind ⟨.polled .idle, m⟩ now d :=
    h.go (by simp) trivial rfl rfl
  have hmark : At host kind ⟨.mark, m⟩ now d := by
    refine hpolled.go (by simp) trivial ?_ rfl
    simp [runStep, hstate]
  have hprocess : At host kind ⟨.processCcaList .idle, { m with state := .tx802514Frame }⟩ now
      d := by
    refine hmark.go (by simp) trivial ?_ rfl
    simp [runStep, htx, setState]
  have hinner : At host kind ⟨.inner, { m with state := .tx802514Frame }⟩ now d := by
    refine hprocess.go (by simp) trivial ?_ rfl
    simp [runStep, hcca]
  refine hinner.go (by simp) trivial ?_ rfl
  simp [runStep, htx]

/-- From `interval` to the check for collisions. -/
theorem check (h : At host kind ⟨.polled .tx, m⟩ now d) (hstate : m.state ≠ .stopping)
    (hcca : m.ccaList = []) :
  At host kind ⟨.txCollisionCheck, m⟩ now d
  := by
  have hprocess : At host kind ⟨.processCcaList .tx, m⟩ now d := by
    refine h.go (by simp) trivial ?_ rfl
    simp [runStep, hstate]
  refine hprocess.go (by simp) trivial ?_ rfl
  simp [runStep, hcca]

/-- An active node starts to transmit when nothing else goes on. -/
theorem start (h : At host kind ⟨.interval .idle, m⟩ now d) (hactive : m.Active p n)
    (hle : now ≤ now') :
  ∃ m' n' pkt, At host kind ⟨.interval .tx, m'⟩ now' (d.begin pkt.id now') ∧
    m'.Transmitting p n' pkt ∧ pkt.pktBuffer = blankCksum (dataFrame host n.socket) ∧
    (pkt.id = m.nextPkt ∧ m'.nextPkt = m.nextPkt + 1) ∧ (∀ q, q ≠ p → m'.nodes q = m.nodes q) ∧
    m'.interest = m.interest ∧ m'.nodeHashMap = m.nodeHashMap ∧ m'.regListMap = m.regListMap
  := by
  have hreport : m.Reportable [frameEvent p (dataFrame host n.socket)] :=
    reportable_node rfl hactive.interest
  have hready : n.Ready := ⟨hactive.curState, hactive.txTimer⟩
  obtain ⟨pkt, hclear, hid, hbuffer, hevent⟩ :=
    At.transmit (hactive.tick .idle).live hready (h.wait hle hreport)
  obtain ⟨m₁, hm₁⟩ : ∃ m₁, (Effect.transmit p n pkt (txTime false)).apply (m.tick .idle) = m₁ :=
    ⟨_, rfl⟩
  rw [hm₁, ← hid] at hevent
  have hcca : m₁.ccaList = [] := by
    rw [← hm₁]
    apply hactive.ccaList
  have hstate : m₁.state ≠ .stopping := by
    rw [← hm₁]
    simp [Effect.apply, (hactive.tick .idle).state]
  have htxList : m₁.txList = [p] := by
    rw [← hm₁]
    simp [Effect.apply, (hactive.tick .idle).txList]
  refine ⟨_, { n with txTimer := ⟨true, txTime false⟩, txPkt := some pkt, curState := .tx }, pkt,
    hevent.busy hstate hcca (by simp [htxList]), ?_, hbuffer, ?_, ?_, ?_, ?_, ?_⟩
  · constructor
    · rfl
    · apply hcca
    · apply htxList
    · rw [← hm₁]
      apply hactive.nodeHashMap
    · rw [← hm₁]
      apply hactive.interest
    · rw [← hm₁]
      apply Function.update_self
    · rfl
    · rfl
    · rfl
    · apply hclear
  · refine ⟨hid, ?_⟩
    rw [← hm₁]
    rfl
  · intro q hq
    rw [← hm₁]
    apply Function.update_of_ne hq
  · rw [← hm₁]
    rfl
  · rw [← hm₁]
    rfl
  · rw [← hm₁]
    rfl

/-- Nothing is reported while a single node transmits, up to the transmit list. -/
theorem alone (h : At host kind ⟨.interval .tx, m⟩ now d) (htx : m.Transmitting p n pkt)
    (hle : now ≤ now') :
  At host kind ⟨.processTxList 0, m.tick .tx⟩ now' d
  := by
  have htx' := htx.tick .tx
  have hnone : m.Reportable [] := ⟨Nat.zero_le _, List.nodup_nil, by simp⟩
  have hleft : At host kind ⟨.timeLeft .tx 0, m.tick .tx⟩ now' d := h.wait hle hnone
  have hpolled : At host kind ⟨.polled .tx, m.tick .tx⟩ now' d :=
    hleft.go (by simp) trivial rfl rfl
  refine (hpolled.check (by simp [htx'.state]) htx'.ccaList).go (by simp) trivial ?_ rfl
  cases kind <;> simp [runStep, txCollisionCheck, htx'.txList]

/-- A round in which nothing is reported and the timer of the only packet has not expired. -/
theorem round (h : At host kind ⟨.interval .tx, m⟩ now d) (htx : m.Transmitting p n pkt)
    (hexpires : d.expires pkt.id = some x) (hle : now ≤ now') (hlt : now' < x) :
  At host kind ⟨.interval .tx, m.tick .tx⟩ now' d
  := by
  have htx' := htx.tick .tx
  have hsecond : At host kind ⟨.processTxList 1, m.tick .tx⟩ now' d := by
    refine (h.alone htx hle).neutral (i := .run .calm) (le_refl now') trivial ?_ ?_
      (List.append_nil _).symm (by simp) (by simp)
    · intro a ha i p' n' pkt' x' left hi hp hn hpkt hx hanswer
      cases hi
      rw [htx'.txList] at hp
      cases hp
      obtain rfl := NodeCell.live.inj (htx'.live.symm.trans hn)
      obtain rfl := Option.some.inj (htx'.txPkt.symm.trans hpkt)
      rw [ha, hexpires] at hx
      cases hx
      cases hanswer
      simp [not_le_of_gt hlt]
    · have hwaiting : processTxEntry host .calm 0 p (m.tick .tx) = .ok (0 + 1) (m.tick .tx) :=
        processTxEntry_waiting htx'.live htx'.txTimer rfl (by simp)
      simp [Sys.step, stepProg, runStep, htx'.txList, hwaiting]
  have hinner : At host kind ⟨.inner, m.tick .tx⟩ now' d := by
    refine hsecond.go ?_ trivial ?_ rfl
    · rintro i ⟨⟩
      simp [htx'.txList]
    · simp [runStep, htx'.txList]
  refine hinner.go (by simp) trivial ?_ rfl
  simp [runStep, htx'.txList]

/-- From the transmit list, when the last transmission has ended, to the next call of
`interval`. -/
theorem settle (h : At host kind ⟨.processTxList 0, m⟩ now d) (hstate : m.state ≠ .stopping)
    (htx : m.txList = []) (hreg : m.regListMap.Walk []) :
  At host kind ⟨.interval .idle, { m with state := .idle }⟩ now d
  := by
  have hinner : At host kind ⟨.inner, m⟩ now d := by
    refine h.go ?_ trivial ?_ rfl
    · rintro i ⟨⟩
      simp [htx]
    · simp [runStep, htx]
  have hleft : At host kind ⟨.left, m⟩ now d := by
    refine hinner.go (by simp) trivial ?_ rfl
    simp [runStep, htx]
  have hresetIdle : At host kind ⟨.resetIdle, m⟩ now d := by
    refine hleft.go (by simp) trivial ?_ rfl
    simp [runStep, hstate]
  have hcheck : At host kind ⟨.checkNodeRegistrationTimeout, { m with state := .idle }⟩ now d :=
    hresetIdle.go (by simp) trivial rfl rfl
  have hagain : At host kind ⟨.again, { m with state := .idle }⟩ now d := by
    refine hcheck.go (by simp) hreg ?_ rfl
    simp [runStep, checkNodeRegistrationTimeout, checkRegTimers, Env.calm]
  have houter : At host kind ⟨.outer, { m with state := .idle }⟩ now d := by
    refine hagain.go (by simp) trivial ?_ rfl
    simp [runStep]
  refine houter.go (by simp) trivial ?_ rfl
  simp [runStep]

/-- Another node starts to transmit, and the packets collide. -/
theorem collide (h : At host .powerline ⟨.interval .tx, m⟩ now d)
    (htx : m.Transmitting p n pkt) (hq : q ≠ p) (hlive : m.nodes q = .live n') (hready : n'.Ready)
    (hinterest : q ∈ m.interest) (hle : now ≤ now') :
  ∃ m', At host .powerline ⟨.processTxList 0, m'⟩ now' (d.begin m.nextPkt now') ∧
    m'.txList[0]? = some p ∧ m'.nodes p = .live n.collide
  := by
  have htx' := htx.tick .tx
  have hreport : m.Reportable [frameEvent q (dataFrame host n'.socket)] :=
    reportable_node rfl hinterest
  have hlive' : (m.tick .tx).nodes q = .live n' := hlive
  obtain ⟨pkt', -, -, -, hevent⟩ := At.transmit hlive' hready (h.wait hle hreport)
  obtain ⟨m₁, hm₁⟩ : ∃ m₁, (Effect.transmit q n' pkt' (txTime false)).apply (m.tick .tx) = m₁ :=
    ⟨_, rfl⟩
  rw [hm₁] at hevent
  have htxList : m₁.txList = [p, q] := by
    rw [← hm₁]
    simp [Effect.apply, htx'.txList]
  have hfirst : m₁.nodes p = .live n := by
    rw [← hm₁]
    apply (Function.update_of_ne hq.symm _ _).trans htx'.live
  have hhas : ∀ r ∈ m₁.txList, m₁.HasPacket r := by
    intro r hr
    rw [htxList] at hr
    simp only [List.mem_cons, List.not_mem_nil, or_false] at hr
    rcases hr with rfl | rfl
    · exact ⟨n, pkt, hfirst, htx'.txPkt⟩
    · refine ⟨{ n' with txTimer := ⟨true, txTime false⟩, txPkt := some pkt', curState := .tx },
        pkt', ?_, rfl⟩
      rw [← hm₁]
      apply Function.update_self
  have hpolled : At host .powerline ⟨.polled .tx, m₁⟩ now' (d.begin m.nextPkt now') :=
    hevent.go (by simp) trivial rfl rfl
  have hstate : m₁.state ≠ .stopping := by
    rw [← hm₁]
    simp [Effect.apply, htx'.state]
  have hcca : m₁.ccaList = [] := by
    rw [← hm₁]
    apply htx'.ccaList
  refine ⟨Effect.collide.apply m₁, (hpolled.check hstate hcca).go (by simp) trivial ?_ rfl, ?_, ?_⟩
  · have hcheck : txCollisionCheck .powerline m₁ = .ok () (Effect.collide.apply m₁) := by
      have hmany : 1 < m₁.txList.length := by simp [htxList]
      simp [txCollisionCheck, hmany, setCollided_ok hhas, Medium.collide, Effect.apply]
    simp [runStep, hcheck]
  · simp [Effect.apply, htxList]
  · simp [Effect.apply, htxList, hfirst, NodeCell.collide]

end At

end X6losim
