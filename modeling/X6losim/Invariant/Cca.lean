import X6losim.Invariant.StateVariable
import X6losim.Invariant.TxHistory
import X6losim.Sim.Session

/-!
# Answers to clear channel assessment requests

While a medium is not being stopped, every request is answered in its turn before `interval` is
entered again and before its node is deleted; the answers of one round are the same, and say
whether the transmit list is empty.
-/

open Bytes History

namespace X6losim

variable {host : ByteOrder} {kind : Kind} {m m' : Medium} {p q : NodePtr} {n : DeviceNode}

/-- The nodes that have asked for an assessment, in order. -/
def ccaRequests (log : List Event) : List NodePtr :=
  log.filterMap (fun e => match e with
    | .ccaRequest p => some p
    | _ => none)

/-- The nodes that have been answered, in order. -/
def ccaAnswers (log : List Event) : List NodePtr :=
  log.filterMap (fun e => match e with
    | .sent p (.ccaCon _) => some p
    | _ => none)

/-- `interval` is entered. -/
def Event.isInterval : Event → Bool
  | .interval _ => true
  | _ => false

/-- The number of times `interval` has been entered. -/
def rounds (log : List Event) : Nat := log.countP Event.isInterval

/-- The events that have to do with assessments. -/
def Event.isCca : Event → Bool
  | .ccaRequest _ => true
  | .sent _ (.ccaCon _) => true
  | .interval _ => true
  | _ => false

/-! ### Logs -/

section Logs

variable {log es past : List Event}

@[simp]
theorem ccaRequests_append :
  ccaRequests (log ++ es) = ccaRequests log ++ ccaRequests es
  := List.filterMap_append

@[simp]
theorem ccaAnswers_append :
  ccaAnswers (log ++ es) = ccaAnswers log ++ ccaAnswers es
  := List.filterMap_append

@[simp]
theorem rounds_append :
  rounds (log ++ es) = rounds log + rounds es
  := List.countP_append

theorem ccaRequests_none (hno : ∀ e ∈ es, e.isCca = false) :
  ccaRequests es = []
  := by
  apply List.filterMap_eq_nil_iff.mpr
  intro e he
  cases e <;> first | rfl | cases hno _ he

theorem ccaAnswers_none (hno : ∀ e ∈ es, e.isCca = false) :
  ccaAnswers es = []
  := by
  apply List.filterMap_eq_nil_iff.mpr
  intro e he
  cases e with
  | sent p msg => cases msg <;> first | rfl | cases hno _ he
  | _ => rfl

theorem rounds_none (hno : ∀ e ∈ es, e.isCca = false) :
  rounds es = 0
  := by
  apply List.countP_eq_zero.mpr
  intro e he hinterval
  cases e with
  | interval w => cases hno _ he
  | _ => cases hinterval

theorem rounds_le (h : past <+: log) :
  rounds past ≤ rounds log
  := h.sublist.countP_le

theorem entry_cca {e : Event} (hno : ∀ e ∈ es, e.isCca = false)
    (hcca : e.isCca) :
  Entry (log ++ es) past e ↔ Entry log past e
  := by
  rw [entry_append]
  constructor
  · rintro (h | ⟨before, -, h⟩)
    · apply h
    · rw [hno e h.mem] at hcca
      cases hcca
  · apply Or.inl

end Logs

theorem deleteEvents_isCca (p : NodePtr) (n : DeviceNode) :
  ∀ e ∈ deleteEvents p n, e.isCca = false
  := by
  intro e he
  rcases mem_deleteEvents he with rfl | rfl
  · rfl
  · rfl

/-- The events of other effects have nothing to do with assessments. -/
theorem events_isCca {eff : Effect} (hother : ¬ eff.IsCca) :
  ∀ e ∈ eff.events m, e.isCca = false
  := by
  intro e he
  cases eff with
  | failedRead p n => cases he
  | confirm p n os osVersion =>
      simp only [Effect.events] at he
      split at he
      · rw [List.mem_singleton.mp he]
        rfl
      · cases he
  | disconnect p n asked =>
      rcases List.mem_append.mp he with he | he
      · cases asked with
        | false => cases he
        | true =>
            rw [List.mem_singleton.mp he]
            rfl
      · apply deleteEvents_isCca p n e he
  | request p n => apply absurd trivial hother
  | transmit p n pkt itValue =>
      simp [Effect.events] at he
      rcases he with rfl | rfl | rfl | rfl <;> rfl
  | answer p rest => apply absurd trivial hother
  | collide => cases he
  | conclude i p n pkt buf =>
      cases hcollided : pkt.collision with
      | true =>
          simp [Effect.events, concludeEvents, hcollided] at he
          rcases he with rfl | rfl | rfl | rfl <;> rfl
      | false =>
          simp [Effect.events, concludeEvents, hcollided] at he
          rcases he with rfl | rfl | rfl | rfl | rfl <;> rfl
  | expire key p n => apply deleteEvents_isCca p n e he
  | dispose map key p n => apply deleteEvents_isCca p n e he
  | add p socket =>
      simp [Effect.events] at he
      rcases he with rfl | rfl | rfl <;> rfl

/-- Only the deletion of a node is logged as one. -/
theorem events_deletes {eff : Effect} (h : .deleteNode q ∈ eff.events m) :
  eff.Deletes q
  := by
  have hdelete : ∀ {p n}, .deleteNode q ∈ deleteEvents p n → p = q := by
    intro p n hmem
    rcases mem_deleteEvents hmem with heq | heq
    · cases heq
    · cases heq
      rfl
  cases eff with
  | disconnect p n asked =>
      rcases List.mem_append.mp h with h | h
      · cases asked <;> simp at h
      · apply hdelete h
  | expire key p n => apply hdelete h
  | dispose map key p n => apply hdelete h
  | confirm p n os osVersion =>
      cases hstarted : n.regTimer.started <;> simp [Effect.events, hstarted] at h
  | conclude i p n pkt buf =>
      cases hcollided : pkt.collision <;> simp [Effect.events, concludeEvents, hcollided] at h
  | _ => simp [Effect.events] at h

/-- Effects of a sequence that have nothing to do with assessments only add events of other
kinds. -/
theorem effects_log {effs : List Effect} (heffs : Effects m effs m')
    (hother : ∀ eff ∈ effs, ¬ eff.IsCca) :
  ∃ es, m'.log = m.log ++ es ∧ ∀ e ∈ es, e.isCca = false
  := by
  apply heffs.invariant
    (P := fun m' => ∃ es, m'.log = m.log ++ es ∧ ∀ e ∈ es, e.isCca = false) _ hother
  · rintro m₁ eff ⟨es, hlog, hno⟩ heff -
    use es ++ eff.events m₁, by rw [eff.log_apply, hlog, List.append_assoc]
    intro e he
    rcases List.mem_append.mp he with he | he
    · apply hno e he
    · apply events_isCca heff e he
  · exact ⟨[], (List.append_nil _).symm, by simp⟩

/-! ### What a step can do to assessments -/

/-- The places of `run` between the call of `interval` and that of `processCcaList`. -/
def Pc.Gathering : Pc → Prop
  | epollWait _ _ => True
  | timeLeft _ _ => True
  | poll _ _ => True
  | polled _ => True
  | mark => True
  | _ => False

/-- Assessments are left as they are.  The nodes that are deleted wait for no answer. -/
structure CcaNeutral (m m' : Medium) (es : List Event) : Prop where
  log : m'.log = m.log ++ es
  other : ∀ e ∈ es, e.isCca = false
  ccaList : m'.ccaList = m.ccaList
  deleted : ∀ q, .deleteNode q ∈ es → q ∉ m.ccaList

/-- What a step of a medium can do to assessments.  When it leaves them as they are, it does not
enter `interval`, and starts to process the list after that only. -/
inductive CcaNext : Sys → Sys → Prop where
  | neutral {s s' : Sys} {es : List Event} : CcaNeutral s.med s'.med es →
      (s'.pc.Gathering → s.pc.Gathering) →
      (∀ ph, s'.pc = .processCcaList ph →
        s.pc.Gathering ∨ s.pc = .processCcaList ph ∧ s'.med.state = s.med.state) →
      CcaNext s s'
  | interval {m : Medium} {ph : Phase} {curTime : Timespec} :
      CcaNext ⟨.interval ph, m⟩
        ⟨.epollWait ph ph.waitms, Medium.record { m with curTime } [.interval ph.waitms]⟩
  | request {m : Medium} {ph : Phase} {ev : PollEvent} {evs : List PollEvent} {p : NodePtr}
      {n : DeviceNode} :
      CcaNext ⟨.poll ph (ev :: evs), m⟩ ⟨.poll ph evs, (Effect.request p n).apply m⟩
  | answer {m : Medium} {ph : Phase} {p : NodePtr} {rest : List NodePtr} :
      (Effect.answer p rest).Guard m →
      CcaNext ⟨.processCcaList ph, m⟩ ⟨.processCcaList ph, (Effect.answer p rest).apply m⟩

/-- Nothing is logged. -/
theorem CcaNeutral.silent (hlog : m'.log = m.log) (hccaList : m'.ccaList = m.ccaList) :
  CcaNeutral m m' []
  where
  log := by rw [hlog, List.append_nil]
  other e he := by cases he
  ccaList := hccaList
  deleted q hq := by cases hq

/-- An effect that has nothing to do with assessments, and deletes no node that waits. -/
theorem CcaNeutral.effect {eff : Effect} (hother : ¬ eff.IsCca)
    (hdeleted : ∀ q, eff.Deletes q → q ∉ m.ccaList) :
  CcaNeutral m (eff.apply m) (eff.events m)
  where
  log := eff.log_apply m
  other := events_isCca hother
  ccaList := apply_ccaList hother
  deleted q hq := hdeleted q (events_deletes hq)

/-- What a step of a medium that is not being stopped does to assessments. -/
theorem ccaNext_of_next {s s' : Sys} {i : Input} (hwaiting : Waiting s)
    (hstate : s.pc.StateOk s.med) (hrunning : s'.med.state ≠ .stopping)
    (hnext : Next host kind s i s') :
  CcaNext s s'
  := by
  cases hnext with
  | move hmove =>
      refine .neutral (.silent rfl rfl) ?_ ?_
      · cases hmove <;> simp [Pc.Gathering]
      · cases hmove <;> simp [Pc.Gathering]
  | start => exact .neutral (.silent rfl rfl) (by simp [Pc.Gathering]) (by simp)
  | interval => apply CcaNext.interval
  | @poll m env ph ev evs p n eff hdata _ heff =>
      by_cases hcca : eff.IsCca
      · cases eff with
        | request q n' =>
            rcases heff.ccaList (m := m) with hsame | hreq
            · simp [Effect.apply] at hsame
            · cases hreq
              apply CcaNext.request
        | answer => cases heff with | handled _ _ _ _ _ _ _ heff => cases heff
        | _ => apply False.elim hcca
      · refine .neutral (.effect hcca ?_) (by simp [Pc.Gathering]) (by simp)
        rintro q hdeletes hq
        obtain rfl := heff.deletes hdeletes
        apply hwaiting.apart rfl p hq
        rw [List.map_cons, hdata]
        apply List.mem_cons_self ..
  | unblocked => apply absurd rfl hrunning
  | mark => exact .neutral (.silent rfl rfl) (by simp [Pc.Gathering]) (by simp [Pc.Gathering])
  | answer hguard => apply CcaNext.answer hguard
  | @collide m =>
      have hkept : CcaNeutral m (Effect.collide.apply m) [] :=
        .effect not_false (fun _ => False.elim)
      exact .neutral hkept (by simp [Pc.Gathering]) (by simp)
  | @conclude m env i p n pkt buf =>
      have hkept :
          CcaNeutral m ((Effect.conclude i p n pkt buf).apply m) (concludeEvents p pkt buf) :=
        .effect not_false (fun _ => False.elim)
      exact .neutral hkept (by simp [Pc.Gathering]) (by simp)
  | resetIdle => exact .neutral (.silent rfl rfl) (by simp [Pc.Gathering]) (by simp)
  | @sweep m m' env effs heffs hexpiry =>
      have hother : ∀ eff ∈ effs, ¬ eff.IsCca := by
        intro eff heff
        obtain ⟨key, p, n, rfl, -⟩ := hexpiry eff heff
        apply not_false
      obtain ⟨es, hlog, hno⟩ := effects_log heffs hother
      have hnil : m.ccaList = [] := hwaiting.empty trivial
      refine .neutral ⟨hlog, hno, expiries_ccaList heffs hexpiry, ?_⟩ (by simp [Pc.Gathering])
        (by simp)
      intro q _
      rw [hnil]
      apply List.not_mem_nil
  | exiting => cases hstate
  | @add m env pc p socket =>
      have hkept : CcaNeutral m ((Effect.add p socket).apply m) _ :=
        .effect not_false (fun _ => False.elim)
      exact .neutral hkept id (fun _ hpc => .inr ⟨hpc, rfl⟩)
  | stop => apply absurd rfl hrunning
  | delete => cases hstate

/-! ### The invariant -/

/-- The log shows the requests answered in their turn, in the round in which they have been
made. -/
structure CcaHistory (s : Sys) : Prop where
  /-- The requests that have not been answered are on the list. -/
  queue : ccaRequests s.med.log = ccaAnswers s.med.log ++ s.med.ccaList
  /-- There are none when `interval` is entered. -/
  interval : ∀ {past w}, Entry s.med.log past (.interval w) → ccaRequests past = ccaAnswers past
  /-- There are none of a node when it is deleted. -/
  deleted : ∀ {past p}, Entry s.med.log past (.deleteNode p) →
    (ccaRequests past).count p = (ccaAnswers past).count p
  /-- The answer says whether the transmit list is empty. -/
  clear : ∀ {past p r}, Entry s.med.log past (.sent p (.ccaCon r)) → (r = true ↔ onAir past = [])
  /-- The answers of a round are the same. -/
  same : ∀ {past past' p p' r r'}, Entry s.med.log past (.sent p (.ccaCon r)) →
    Entry s.med.log past' (.sent p' (.ccaCon r')) → rounds past = rounds past' → r = r'
  /-- No request of this round has been answered before `processCcaList` is called. -/
  gathering : s.pc.Gathering → ∀ {past p r}, Entry s.med.log past (.sent p (.ccaCon r)) →
    rounds past ≠ rounds s.med.log
  /-- The answers of this round are that of the state variable. -/
  answering : ∀ {ph}, s.pc = .processCcaList ph → ∀ {past p r},
    Entry s.med.log past (.sent p (.ccaCon r)) → rounds past = rounds s.med.log →
    r = decide (s.med.state = .idle)

namespace CcaHistory

theorem initial :
  CcaHistory ⟨.start, Medium.new⟩
  where
  queue := rfl
  interval h := by apply absurd h entry_nil
  deleted h := by apply absurd h entry_nil
  clear h := by apply absurd h entry_nil
  same h := by apply absurd h entry_nil
  gathering h := by cases h
  answering h := by cases h

theorem neutral {s s' : Sys} {es : List Event} (h : CcaHistory s)
    (hkept : CcaNeutral s.med s'.med es) (hgathering : s'.pc.Gathering → s.pc.Gathering)
    (hanswering : ∀ ph, s'.pc = .processCcaList ph →
      s.pc.Gathering ∨ s.pc = .processCcaList ph ∧ s'.med.state = s.med.state) :
  CcaHistory s'
  := by
  obtain ⟨hlog, hno, hccaList, hdeleted⟩ := hkept
  have hrounds : rounds s'.med.log = rounds s.med.log := by
    rw [hlog, rounds_append, rounds_none hno, Nat.add_zero]
  have hsent : ∀ {past p r}, Entry s'.med.log past (.sent p (.ccaCon r)) →
      Entry s.med.log past (.sent p (.ccaCon r)) := by
    intro past p r hentry
    rw [hlog] at hentry
    apply (entry_cca hno rfl).mp hentry
  constructor
  · rw [hlog, ccaRequests_append, ccaAnswers_append, ccaRequests_none hno, ccaAnswers_none hno,
      hccaList, List.append_nil, List.append_nil]
    apply h.queue
  · intro past w hentry
    rw [hlog] at hentry
    apply h.interval ((entry_cca hno rfl).mp hentry)
  · intro past p hentry
    rw [hlog] at hentry
    rcases entry_append.mp hentry with hold | ⟨before, rfl, hnew⟩
    · apply h.deleted hold
    · have hbefore : ∀ e ∈ before, e.isCca = false := by
        intro e he
        apply hno e (hnew.beginning.subset he)
      have hcount : s.med.ccaList.count p = 0 :=
        List.count_eq_zero.mpr (hdeleted p hnew.mem)
      rw [ccaRequests_append, ccaAnswers_append, ccaRequests_none hbefore,
        ccaAnswers_none hbefore, h.queue, List.append_nil, List.append_nil, List.count_append,
        hcount, Nat.add_zero]
  · intro past p r hentry
    apply h.clear (hsent hentry)
  · intro past past' p p' r r' hentry hentry'
    apply h.same (hsent hentry) (hsent hentry')
  · intro hpc past p r hentry
    rw [hrounds]
    apply h.gathering (hgathering hpc) (hsent hentry)
  · intro ph hpc past p r hentry hround
    rw [hrounds] at hround
    rcases hanswering ph hpc with hbefore | ⟨hpc', hstate⟩
    · apply absurd hround (h.gathering hbefore (hsent hentry))
    · rw [hstate]
      apply h.answering hpc' (hsent hentry) hround

/-- A round begins when all requests have been answered. -/
theorem enter {ph : Phase} {curTime : Timespec} (h : CcaHistory ⟨.interval ph, m⟩)
    (hnil : m.ccaList = []) :
  CcaHistory ⟨.epollWait ph ph.waitms, Medium.record { m with curTime } [.interval ph.waitms]⟩
  := by
  have hsent : ∀ {past p r},
      Entry (m.log ++ [.interval ph.waitms]) past (.sent p (.ccaCon r)) →
      Entry m.log past (.sent p (.ccaCon r)) := by
    intro past p r hentry
    simpa using hentry
  have hqueue : ccaRequests m.log = ccaAnswers m.log := by
    have hqueue := h.queue
    simpa [hnil] using hqueue
  constructor
  · simp [Medium.record, ccaRequests, ccaAnswers, hnil]
    apply hqueue
  · intro past w hentry
    rcases entry_concat.mp hentry with hentry | ⟨rfl, -⟩
    · apply h.interval hentry
    · apply hqueue
  · intro past p hentry
    rcases entry_concat.mp hentry with hentry | ⟨-, hevent⟩
    · apply h.deleted hentry
    · cases hevent
  · intro past p r hentry
    apply h.clear (hsent hentry)
  · intro past past' p p' r r' hentry hentry'
    apply h.same (hsent hentry) (hsent hentry')
  · intro _ past p r hentry
    have hle := rounds_le (hsent hentry).beginning
    apply Nat.ne_of_lt
    apply Nat.lt_of_le_of_lt hle
    simp [Medium.record, rounds, Event.isInterval]
  · intro ph' hpc
    cases hpc

/-- A request is put on the list. -/
theorem request {ph : Phase} {ev : PollEvent} {evs : List PollEvent}
    (h : CcaHistory ⟨.poll ph (ev :: evs), m⟩) :
  CcaHistory ⟨.poll ph evs, (Effect.request p n).apply m⟩
  := by
  have hold : ∀ {past e}, Entry (m.log ++ [.ccaRequest p]) past e → e ≠ .ccaRequest p →
      Entry m.log past e := by
    intro past e hentry hne
    rcases entry_concat.mp hentry with hentry | ⟨-, rfl⟩
    · apply hentry
    · apply absurd rfl hne
  constructor
  · have hqueue : ccaRequests m.log = ccaAnswers m.log ++ m.ccaList := h.queue
    simp [Effect.apply, hqueue]
    simp [ccaRequests, ccaAnswers]
  · intro past w hentry
    apply h.interval (hold hentry (by simp))
  · intro past q hentry
    apply h.deleted (hold hentry (by simp))
  · intro past q r hentry
    apply h.clear (hold hentry (by simp))
  · intro past past' q q' r r' hentry hentry'
    apply h.same (hold hentry (by simp)) (hold hentry' (by simp))
  · intro _ past q r hentry
    have hround := h.gathering trivial (hold hentry (by simp))
    simpa [Effect.apply, rounds, Event.isInterval] using hround
  · intro ph' hpc
    cases hpc

/-- The first request on the list is answered. -/
theorem answer {ph : Phase} {rest : List NodePtr} (h : CcaHistory ⟨.processCcaList ph, m⟩)
    (hguard : (Effect.answer p rest).Guard m) (hstate : m.state = .idle ↔ onAir m.log = []) :
  CcaHistory ⟨.processCcaList ph, (Effect.answer p rest).apply m⟩
  := by
  have hsent : ∀ {past q r},
      Entry (m.log ++ [.sent p (.ccaCon (m.state = .idle))]) past (.sent q (.ccaCon r)) →
      Entry m.log past (.sent q (.ccaCon r)) ∨ past = m.log ∧ r = decide (m.state = .idle) := by
    intro past q r hentry
    rcases entry_concat.mp hentry with hentry | ⟨rfl, hevent⟩
    · left
      apply hentry
    · right
      cases hevent
      exact ⟨rfl, rfl⟩
  constructor
  · have hqueue : ccaRequests m.log = ccaAnswers m.log ++ m.ccaList := h.queue
    rw [hguard.1] at hqueue
    simp [Effect.apply, hqueue]
    simp [ccaRequests, ccaAnswers]
  · intro past w hentry
    rcases entry_concat.mp hentry with hentry | ⟨-, hevent⟩
    · apply h.interval hentry
    · cases hevent
  · intro past q hentry
    rcases entry_concat.mp hentry with hentry | ⟨-, hevent⟩
    · apply h.deleted hentry
    · cases hevent
  · intro past q r hentry
    rcases hsent hentry with hentry | ⟨rfl, rfl⟩
    · apply h.clear hentry
    · rw [decide_eq_true_iff]
      apply hstate
  · intro past past' q q' r r' hentry hentry' hround
    rcases hsent hentry with hentry | ⟨rfl, rfl⟩
    · rcases hsent hentry' with hentry' | ⟨rfl, rfl⟩
      · apply h.same hentry hentry' hround
      · apply h.answering rfl hentry hround
    · rcases hsent hentry' with hentry' | ⟨rfl, rfl⟩
      · symm
        apply h.answering rfl hentry' hround.symm
      · rfl
  · intro hpc
    cases hpc
  · intro ph' _ past q r hentry hround
    have hround' : rounds past = rounds m.log := by
      simpa [Effect.apply, rounds, Event.isInterval] using hround
    rcases hsent hentry with hentry | ⟨-, rfl⟩
    · apply h.answering rfl hentry hround'
    · rfl

theorem next {s s' : Sys} (h : CcaHistory s) (hwaiting : Waiting s)
    (hstate : s.pc.StateOk s.med) (hhist : TxHistory s.med) (hnext : CcaNext s s') :
  CcaHistory s'
  := by
  cases hnext with
  | neutral hkept hgathering hanswering => apply h.neutral hkept hgathering hanswering
  | interval => apply h.enter (hwaiting.empty trivial)
  | request => apply h.request
  | @answer m ph p rest hguard =>
      apply h.answer hguard
      have hair : onAir m.log = [] ↔ m.txList = [] := by
        rw [← hhist.visitors, List.map_eq_nil_iff]
      rw [hair]
      apply hstate.processCcaList.1

end CcaHistory

/-! ### Runs -/

/-- Requests for clear channel assessments are answered once, in order, in time and truthfully. -/
structure CcaAnswered (host : ByteOrder) (kind : Kind) (s : Sys) : Prop extends CcaHistory s where
  /-- The log shows the transmit list as it is. -/
  visitors : (onAir s.med.log).map Prod.fst = s.med.txList
  /-- When `interval` is entered no request is left. -/
  entered : ∀ {ph}, s.pc = .interval ph → s.med.ccaList = []
  /-- The nodes that wait for an answer are there. -/
  waiting : ∀ p ∈ s.med.ccaList, ∃ n, s.med.nodes p = .live n
  /-- Where `processCcaList` is called, the state variable says whether some node transmits. -/
  agrees : ∀ {ph}, s.pc = .processCcaList ph →
    (s.med.state = .idle ↔ s.med.txList = []) ∧
      (s.med.state = .tx802514Frame ↔ s.med.txList ≠ [])
  /-- It answers the first request that is left. -/
  answers : ∀ {ph p rest} (env : Env), s.pc = .processCcaList ph → s.med.ccaList = p :: rest →
    s.step host kind (.run env) = .ok ⟨.processCcaList ph, (Effect.answer p rest).apply s.med⟩

/-- What is known of the state variable, and of the requests, until the medium is stopped. -/
theorem cca_running {s : Sys} (h : Running host kind s) :
  Waiting s ∧ TxHistory s.med ∧ s.pc.StateOk s.med ∧ CcaHistory s
  := by
  have hinv : Waiting s ∧ TxConsistent s.med ∧ TxHistory s.med ∧
      (s.med.state ≠ .stopping → s.pc.StateOk s.med ∧ CcaHistory s) := by
    apply h.1.invariant (P := fun s => Waiting s ∧ TxConsistent s.med ∧ TxHistory s.med ∧
      (s.med.state ≠ .stopping → s.pc.StateOk s.med ∧ CcaHistory s))
    · rintro s rfl
      exact ⟨.initial, .initial, .initial, fun _ => ⟨rfl, .initial⟩⟩
    · intro s s' i ⟨hwaiting, hcons, hhist, hcca⟩ henabled hrunning hstep
      have hnext := next_of_step henabled hstep
      have htx := txNext_of_next hnext
      obtain ⟨hstate, hanswered⟩ := hcca hrunning
      refine ⟨hwaiting.next hnext, hcons.next htx, hhist.next hcons htx, ?_⟩
      intro hrunning'
      constructor
      · apply hstate.next hrunning hrunning' hnext
      · apply hanswered.next hwaiting hstate hhist (ccaNext_of_next hwaiting hstate hrunning' hnext)
  exact ⟨hinv.1, hinv.2.2.1, hinv.2.2.2 h.2⟩

/-- Until a medium is stopped, every request for a clear channel assessment is answered once, in
the order of the requests, in the round in which it has been made and before its node is deleted;
the answers of a round are the same, and say whether the transmit list is empty. -/
theorem cca_answered {s : Sys} (h : Running host kind s) :
  CcaAnswered host kind s
  := by
  obtain ⟨hwaiting, hhist, hstate, hanswered⟩ := cca_running h
  have hqueued : ∀ p ∈ s.med.ccaList, ∃ n, s.med.nodes p = .live n := by
    apply hwaiting.queued
    intro hpc
    rw [hpc] at hstate
    apply hstate
  refine { hanswered with
    visitors := hhist.visitors
    entered := ?_
    waiting := hqueued
    agrees := ?_
    answers := ?_ }
  · intro ph hpc
    apply hwaiting.empty
    rw [hpc]
    trivial
  · intro ph hpc
    rw [hpc] at hstate
    apply hstate.processCcaList
  · intro ph p rest env hpc hlist
    have hlive : ∃ n, s.med.nodes p = .live n := by
      apply hqueued
      rw [hlist]
      apply List.mem_cons_self ..
    rcases processCcaEntry_cons hlist with ⟨-, hentry⟩ | ⟨hgone, -⟩
    · simp [Sys.step, stepProg, hpc, runStep, hlist, hentry]
    · obtain ⟨n, hlive⟩ := hlive
      apply absurd hlive (hgone n)

/-- A node that has confirmed its registration asks for an assessment. -/
theorem cca_answered_request :
  ∃ s, s.pc = .processCcaList .idle ∧ s.med.ccaList = [1] ∧ CcaAnswered .little .powerline s
  := by
  obtain ⟨m, n, hrunning, hactive, hid⟩ := running_active .little .powerline 1 7
  have hframe : Dispatched .little 7 .handleCcaRequest (sealMsg .little .handleCcaRequest 7 []) :=
    dispatched_sealMsg (by decide) (by decide)
  have hreportable : m.Reportable [frameEvent 1 (sealMsg .little .handleCcaRequest 7 [])] :=
    reportable_node rfl hactive.interest
  have hreport := hrunning.report hreportable (by simp)
  have hcall : callHandler .little .calm 1 (blankCksum (sealMsg .little .handleCcaRequest 7 []))
      .handleCcaRequest (m.tick .idle) = .ok () ((Effect.request 1 n).apply (m.tick .idle)) := by
    have hactive' := hactive.tick .idle
    simp [callHandler, handleCcaRequest_eq hactive'.live, hactive'.curState]
  have hevent := hreport.frame hframe hactive.live hid hcall
    (by simp [Effect.apply, (hactive.tick .idle).state])
  have hassess := hevent.assess hactive.txList
  refine ⟨_, rfl, ?_, cca_answered hassess⟩
  simp [Effect.apply, (hactive.tick .idle).ccaList]

end X6losim
