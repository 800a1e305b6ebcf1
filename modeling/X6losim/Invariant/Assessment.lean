import X6losim.Invariant.Cca
import X6losim.Sim.HandlerError

/-!
# Who asks for a clear channel assessment

Only an active node is to ask for one.  A registering node that does is refused when it is on the
list already; the state object of a transmitting node is not asked at all, for its function has
another signature than the one that is called.
-/

open Bytes

namespace X6losim

variable {host : ByteOrder} {kind : Kind} {m m' : Medium} {p q : NodePtr} {n : DeviceNode}
  {s s' : Sys} {i : Input} {visits : List (Sys × Input)}

/-- The node whose request for a clear channel assessment is handled when an event is processed, and
the state the node is in. -/
def PollEvent.asks (host : ByteOrder) (ev : PollEvent) (m : Medium) :
    Option (NodePtr × NodeState) :=
  match ev.data with
  | .node p =>
      match m.nodes p with
      | .live n =>
          if ev.rdhup = false ∧ ev.input then
            match readMsgFrame host n.getNodeId ev.delivery ev.unread with
            | .ok (.call .handleCcaRequest _) _ => some (p, n.curState)
            | _ => none
          else none
      | .unborn => none
      | .destroyed => none
  | .unblocker => none
  | .null => none

/-- The node whose request is handled in a step, and the state it is in. -/
def asks (host : ByteOrder) (s : Sys) : Input → Option (NodePtr × NodeState)
  | .run _ =>
      match s.pc with
      | .poll _ (ev :: _) => ev.asks host s.med
      | _ => none
  | _ => none

/-- The requests that have been handled in a run, in order. -/
def asked (host : ByteOrder) (visits : List (Sys × Input)) : List (NodePtr × NodeState) :=
  visits.filterMap (fun v => asks host v.1 v.2)

/-- In a run, and a step that is tried after it, only active nodes get assessments: the requests of
other nodes are refused and not put on the list, and of the requests that have been handled, those
that have been answered are of no transmitting node, and those on the list are of active ones. -/
structure OnlyActiveAssessed (host : ByteOrder) (kind : Kind) (visits : List (Sys × Input))
    (s : Sys) (i : Input) : Prop where
  refused : ∀ v ∈ visits ++ [(s, i)], ∀ p state, asks host v.1 v.2 = some (p, state) →
    state ≠ .active → ∃ text m', v.1.step host kind v.2 = .error (.exception text, m') ∧
      m'.ccaList = v.1.med.ccaList
  assessed : ∃ answered waiting, asked host visits = answered ++ waiting ∧
    answered.map Prod.fst = ccaAnswers s.med.log ∧ waiting.map Prod.fst = s.med.ccaList ∧
    (∀ a ∈ answered, a.2 ≠ .tx) ∧ ∀ a ∈ waiting, a.2 = .active

/-! ### Requests -/

/-- A request of a node is handled. -/
theorem PollEvent.asks_of_call {ev : PollEvent} {msg rest : List UInt8} (hdata : ev.data = .node p)
    (hlive : m.nodes p = .live n) (hrdhup : ¬ ev.rdhup) (hinput : ev.input)
    (hread : readMsgFrame host n.getNodeId ev.delivery ev.unread
      = .ok (.call .handleCcaRequest msg) rest) :
  ev.asks host m = some (p, n.curState)
  := by
  have hevent : ev.rdhup = false ∧ ev.input := ⟨by simpa using hrdhup, hinput⟩
  simp only [PollEvent.asks, hdata, hlive, if_pos hevent, hread]

theorem PollEvent.asks_eq_some {ev : PollEvent} {state : NodeState}
    (h : ev.asks host m = some (p, state)) :
  ∃ n msg rest, ev.data = .node p ∧ m.nodes p = .live n ∧ ¬ ev.rdhup ∧ ev.input ∧
    n.curState = state ∧
    readMsgFrame host n.getNodeId ev.delivery ev.unread = .ok (.call .handleCcaRequest msg) rest
  := by
  unfold PollEvent.asks at h
  split at h
  · next q hdata =>
      split at h
      · next n hlive =>
          split at h
          · next hevent =>
              split at h
              · next msg rest hread =>
                  cases h
                  exact ⟨n, msg, rest, hdata, hlive, by simp [hevent.1], hevent.2, rfl, hread⟩
              · cases h
          · cases h
      · cases h
      · cases h
  · cases h
  · cases h

/-- A registering node is refused, and the request of every node is put on the list. -/
theorem step_asks {ev : PollEvent} {state : NodeState} (h : ev.asks host m = some (p, state))
    (kind : Kind) (ph : Phase) (evs : List PollEvent) (env : Env) :
  ∃ n, m.nodes p = .live n ∧ n.curState = state ∧
    Sys.step host kind ⟨.poll ph (ev :: evs), m⟩ (.run env) =
      if state = .registering then
        .error (.exception "RegisteringState: handleCcaRequest", (Effect.request p n).apply m)
      else .ok ⟨.poll ph evs, (Effect.request p n).apply m⟩
  := by
  obtain ⟨n, msg, rest, hdata, hlive, hrdhup, hinput, hstate, hread⟩ := PollEvent.asks_eq_some h
  refine ⟨n, hlive, hstate, ?_⟩
  have hevent : processPollerEvent host env ev m
      = (handleCcaRequest p >>= fun _ => (pure true : Prog Bool)) m := by
    rw [processPollerEvent_input hdata hrdhup hinput, readMsg_eq hlive, hread, Exec.bind_apply]
    simp only [callHandler]
    cases handleCcaRequest p m <;> rfl
  rw [Exec.bind_apply, handleCcaRequest_eq hlive, hstate] at hevent
  cases state <;> simp [Sys.step, stepProg, runStep, hevent]

/-- Where a request is handled. -/
theorem asks_eq_some {state : NodeState} (h : asks host s i = some (p, state)) :
  ∃ ph ev evs env, s.pc = .poll ph (ev :: evs) ∧ i = .run env ∧
    ev.asks host s.med = some (p, state)
  := by
  obtain ⟨pc, m⟩ := s
  cases i with
  | run env =>
      cases pc with
      | poll ph evs =>
          cases evs with
          | nil => cases h
          | cons ev evs => exact ⟨ph, ev, evs, env, rfl, rfl, h⟩
      | _ => cases h
  | addNode env q socket => cases h
  | stop => cases h
  | deleteMedium env => cases h

/-! ### The list -/

/-- What is answered or waits for an answer stays so. -/
theorem queued_kept {es : List Event} (hlog : m'.log = m.log ++ es)
    (hno : ∀ e ∈ es, e.isCca = false) (hccaList : m'.ccaList = m.ccaList) :
  ccaAnswers m'.log ++ m'.ccaList = ccaAnswers m.log ++ m.ccaList
  := by
  rw [hlog, ccaAnswers_append, ccaAnswers_none hno, List.append_nil, hccaList]

theorem queued_effects {effs : List Effect} (heffs : Effects m effs m')
    (hother : ∀ eff ∈ effs, ¬ eff.IsCca) :
  ccaAnswers m'.log ++ m'.ccaList = ccaAnswers m.log ++ m.ccaList
  := by
  apply heffs.invariant
    (P := fun m' => ccaAnswers m'.log ++ m'.ccaList = ccaAnswers m.log ++ m.ccaList) rfl hother
  intro m₁ eff h hother _
  rw [queued_kept (eff.log_apply m₁) (events_isCca hother) (apply_ccaList hother), h]

/-- A step in which no request is handled answers the first one on the list, or none. -/
theorem queued_next (h : asks host s i = none) (hnext : Next host kind s i s') :
  ccaAnswers s'.med.log ++ s'.med.ccaList = ccaAnswers s.med.log ++ s.med.ccaList
  := by
  have heffect : ∀ (m : Medium) (eff : Effect), ¬ eff.IsCca →
      ccaAnswers (eff.apply m).log ++ (eff.apply m).ccaList = ccaAnswers m.log ++ m.ccaList := by
    intro m eff hother
    apply queued_kept (eff.log_apply m) (events_isCca hother) (apply_ccaList hother)
  cases hnext with
  | move | start | unblocked | mark | resetIdle | exiting | stop => rfl
  | interval => simp [Medium.record, ccaAnswers]
  | @poll m env ph ev evs p n eff hdata hlive heff =>
      apply heffect
      intro hcca
      cases heff with
      | closed => apply hcca
      | failedRead => apply hcca
      | handled handler msg rest eff hrdhup hinput hread heff =>
          cases heff with
          | request =>
              have hasks := PollEvent.asks_of_call hdata hlive hrdhup hinput hread
              rw [show ev.asks host m = none from h] at hasks
              cases hasks
          | _ => apply hcca
  | answer hguard =>
      obtain ⟨hlist, -⟩ := hguard
      simp only [Effect.apply, ccaAnswers_append, hlist, List.append_assoc]
      rfl
  | collide => exact heffect _ _ not_false
  | conclude => exact heffect _ _ not_false
  | sweep heffs hexpiry =>
      apply queued_effects heffs
      intro eff heff
      obtain ⟨key, p, n, rfl, -⟩ := hexpiry eff heff
      apply not_false
  | add => exact heffect _ _ not_false
  | delete heffs hdisposal heffs' hdisposal' =>
      have hother : ∀ {map eff}, Effect.IsDisposal map eff → ¬ eff.IsCca := by
        rintro map eff ⟨key, p, n, rfl⟩
        apply not_false
      rw [queued_effects heffs' (fun eff heff => hother (hdisposal' eff heff)),
        queued_effects heffs (fun eff heff => hother (hdisposal eff heff))]

/-- In every run the requests that have been handled are those that have been answered and those on
the list, in order. -/
theorem asked_run {t : Sys} (run : (medium host kind).Run s visits t)
    (hs : s = ⟨.start, Medium.new⟩) :
  (asked host visits).map Prod.fst = ccaAnswers t.med.log ++ t.med.ccaList
  := by
  induction run with
  | nil =>
      rw [hs]
      rfl
  | @snoc t u i visits run henabled hstep ih =>
      have hasked : asked host (visits ++ [(t, i)])
          = asked host visits ++ (asks host t i).toList := by
        rw [asked, List.filterMap_append]
        cases hasks : asks host t i <;> simp [asked, hasks]
      rw [hasked, List.map_append, ih]
      cases hasks : asks host t i with
      | none =>
          rw [queued_next hasks (next_of_step henabled hstep)]
          apply List.append_nil
      | some a =>
          obtain ⟨p, state⟩ := a
          obtain ⟨ph, ev, evs, env, hpc, rfl, hev⟩ := asks_eq_some hasks
          obtain ⟨pc, m⟩ := t
          obtain rfl : pc = .poll ph (ev :: evs) := hpc
          obtain ⟨n, -, -, hresult⟩ := step_asks hev kind ph evs env
          have hok : Sys.step host kind ⟨.poll ph (ev :: evs), m⟩ (.run env) = .ok u := hstep
          rw [hresult] at hok
          split at hok
          · cases hok
          · cases hok
            simp [Effect.apply]
            rfl

/-- In every run, and every step tried after it, only active nodes get assessments exactly when no
request of a node that is not active is handled. -/
theorem onlyActiveAssessed_iff (run : (medium host kind).Run ⟨.start, Medium.new⟩ visits s)
    (i : Input) :
  OnlyActiveAssessed host kind visits s i ↔
    ∀ v ∈ visits ++ [(s, i)], ∀ p state, asks host v.1 v.2 = some (p, state) → state = .active
  := by
  constructor
  · rintro h ⟨⟨pc, m⟩, j⟩ hv p state hasks
    by_contra hstate
    obtain ⟨text, m', hrefused, hlist⟩ := h.refused _ hv p state hasks hstate
    obtain ⟨ph, ev, evs, env, hpc, hj, hev⟩ := asks_eq_some hasks
    simp only at hpc hj hev
    subst hpc hj
    obtain ⟨n, -, -, hresult⟩ := step_asks hev kind ph evs env
    rw [hresult] at hrefused
    split at hrefused
    · cases hrefused
      simp [Effect.apply] at hlist
    · cases hrefused
  · intro h
    constructor
    · intro v hv p state hasks hstate
      apply absurd (h v hv p state hasks) hstate
    · obtain ⟨answered, waiting, hasked, hanswered, hwaiting⟩ :=
        List.map_eq_append_iff.mp (asked_run run rfl)
      have hactive : ∀ a ∈ asked host visits, a.2 = .active := by
        rintro ⟨p, state⟩ ha
        obtain ⟨v, hv, hasks⟩ := List.mem_filterMap.mp ha
        apply h v (List.mem_append_left _ hv) p state hasks
      rw [hasked] at hactive
      refine ⟨answered, waiting, hasked, hanswered, hwaiting, ?_, ?_⟩
      · intro a ha htx
        rw [hactive a (List.mem_append_left _ ha)] at htx
        cases htx
      · intro a ha
        apply hactive a (List.mem_append_right _ ha)

/-- The frame of a request. -/
def ccaReqEvent : PollEvent := frameEvent 1 (sealMsg .little .handleCcaRequest 7 [])

theorem asks_ccaReqEvent (hlive : m.nodes 1 = .live n) (hid : n.socket = 7) :
  ccaReqEvent.asks .little m = some (1, n.curState)
  := by
  have hframe : Dispatched .little 7 .handleCcaRequest (sealMsg .little .handleCcaRequest 7 []) :=
    dispatched_sealMsg (by decide) (by decide)
  apply PollEvent.asks_of_call rfl hlive _ rfl (readMsgFrame_frame hframe hid)
  simp [frameEvent]

/-- A run to where the request of an active node is handled. -/
theorem onlyActiveAssessed_active :
  ∃ visits s, (medium .little .powerline).Run ⟨.start, Medium.new⟩ visits s ∧
    asks .little s (.run .calm) = some (1, .active) ∧
    (OnlyActiveAssessed .little .powerline visits s (.run .calm) ↔
      ∀ v ∈ visits ++ [(s, .run .calm)], ∀ p state,
        asks .little v.1 v.2 = some (p, state) → state = .active)
  := by
  obtain ⟨m, n, hrunning, hactive, hid⟩ := running_active .little .powerline 1 7
  have hreportable : m.Reportable [ccaReqEvent] := reportable_node rfl hactive.interest
  have hasks := asks_ccaReqEvent (hactive.tick .idle).live hid
  rw [hactive.curState] at hasks
  obtain ⟨s₀, visits, rfl, run, -⟩ := (hrunning.report hreportable (by simp)).reachable
  exact ⟨visits, _, run, hasks, onlyActiveAssessed_iff run (.run .calm)⟩

/-- A node that transmits asks for an assessment: it is not refused, and put on the list. -/
theorem asks_while_transmitting :
  ∃ visits s s', (medium .little .powerline).Run ⟨.start, Medium.new⟩ visits s ∧
    1 ∈ s.med.txList ∧ asks .little s (.run .calm) = some (1, .tx) ∧
    s.step .little .powerline (.run .calm) = .ok s' ∧ 1 ∈ s'.med.ccaList ∧
    ¬ OnlyActiveAssessed .little .powerline visits s (.run .calm)
  := by
  obtain ⟨m, n, pkt, hrunning, htx, hid, -⟩ := running_transmitting .little .powerline 1
    (dispatched_dataFrame .little 7)
  have hreportable : m.Reportable [ccaReqEvent] := reportable_node rfl htx.interest
  have hasks := asks_ccaReqEvent (htx.tick .tx).live hid
  rw [htx.curState] at hasks
  obtain ⟨n', -, -, hstep⟩ := step_asks hasks .powerline .tx [] .calm
  obtain ⟨s₀, visits, rfl, run, -⟩ := (hrunning.report hreportable (by simp)).reachable
  refine ⟨visits, _, _, run, by simp [(htx.tick .tx).txList], hasks, hstep, by simp [Effect.apply],
    ?_⟩
  intro h
  obtain ⟨text, m', hrefused, -⟩ := h.refused _
    (List.mem_append_right _ (List.mem_singleton_self _)) 1 .tx hasks (by decide)
  have hok := hstep.symm.trans hrefused
  cases hok

end X6losim
