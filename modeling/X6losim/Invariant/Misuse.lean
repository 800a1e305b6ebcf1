import X6losim.Invariant.Clients
import X6losim.Invariant.TxState

/-!
# Clients that keep to the protocol

When the clients of a medium keep to the protocol, the frame of no client is refused and none of
them is deregistered while its node transmits, however their steps and those of the medium
interleave.
-/

open Bytes

namespace X6losim

variable {host : ByteOrder} {kind : Kind} {m m' : Medium} {p : NodePtr} {n : DeviceNode}
  {c : Client}

/-! ### A medium and its clients -/

/-- A frame is read where an event says that it is there. -/
theorem frameFrom_eq_some {s : Sys} {i : Input} (h : s.frameFrom i = some p) :
  ∃ ph ev evs env, s.pc = .poll ph (ev :: evs) ∧ i = .run env ∧ ev.data = .node p ∧
    ¬ ev.rdhup ∧ ev.input
  := by
  cases i with
  | run env =>
      simp only [Sys.frameFrom] at h
      split at h
      · next ph ev evs hpc =>
          split at h
          · cases h
          · next hrdhup =>
              split at h
              · next hinput =>
                  split at h
                  · next hdata =>
                      cases h
                      exact ⟨ph, ev, evs, env, hpc, rfl, hdata, hrdhup, hinput⟩
                  · cases h
              · cases h
      · cases h
  | _ => cases h

/-- A frame that is dispatched has the effect of its handler. -/
theorem processPollerEvent_dispatched {ev : PollEvent} {env : Env} {handler : Handler}
    {msg rest : List UInt8} {goOn : Bool} (hdata : ev.data = .node p) (hlive : m.nodes p = .live n)
    (hrdhup : ¬ ev.rdhup) (hinput : ev.input)
    (hread : readMsgFrame host n.getNodeId ev.delivery ev.unread = .ok (.call handler msg) rest)
    (hok : processPollerEvent host env ev m = .ok goOn m') :
  goOn = true ∧ ∃ eff, HandlerEffect p n handler eff ∧ eff.Guard m ∧ m' = eff.apply m
  := by
  have hresult := callHandler_result hlive host env msg handler
  rw [processPollerEvent_input hdata hrdhup hinput, readMsg_eq hlive, hread] at hok
  cases hcall : callHandler host env p msg handler m with
  | ok u m₁ =>
      rw [hcall] at hresult
      simp [hcall] at hok
      obtain ⟨eff, heff, hguard, rfl⟩ := hresult
      exact ⟨hok.1, eff, heff, hguard, hok.2.symm⟩
  | error e m₁ => simp [hcall] at hok

/-- The nodes of a medium follow their clients, and none of them is cut off. -/
structure Net.Following (s : Net) : Prop where
  none : NoneCutOff s.sys
  follows : ∀ p state, (s.sys.med.nodes p).awaited = some state →
    ∃ view, (s.clients p).Follows state (s.sent p) view

namespace Net.Following

variable {s : Net} {i : Input}

theorem initial (hsys : s.sys = ⟨.start, Medium.new⟩) (hclients : ∀ p, s.clients p = Client.new) :
  s.Following
  where
  none := by
    rw [hsys]
    apply NoneCutOff.initial
  follows p state hstate := by
    rw [hsys] at hstate
    cases hstate
    rw [hclients, Net.sent, hsys]
    exact ⟨_, Client.new_follows _ rfl⟩

/-- A client does something that its node follows. -/
theorem setClient (h : s.Following)
    (hfollows : ∀ state view, (s.clients p).Follows state (s.sent p) view →
      ∃ view', c.Follows state (s.sent p) view') :
  (s.setClient p c).Following
  where
  none := h.none
  follows q state hstate := by
    obtain ⟨view, hview⟩ := h.follows q state hstate
    by_cases hq : q = p
    · subst hq
      simp only [Net.setClient, Function.update_self]
      apply hfollows state view hview
    · simp only [Net.setClient, Function.update_of_ne hq]
      exact ⟨view, hview⟩

/-- The frame of an event that is reported as it is has been sent first by its client, and is
taken by the node. -/
theorem dispatched {ph : Phase} {ev : PollEvent} {evs : List PollEvent} (h : s.Following)
    (hreported : s.Reported host) (hpc : s.sys.pc = .poll ph (ev :: evs))
    (hdata : ev.data = .node p) (hlive : s.sys.med.nodes p = .live n) (hrdhup : ¬ ev.rdhup)
    (hinput : ev.input) :
  ∃ handler frame outbox rest view, (s.clients p).outbox = (handler, frame) :: outbox ∧
    readMsgFrame host n.getNodeId ev.delivery ev.unread
      = .ok (.call handler (blankCksum frame)) rest ∧
    (s.clients p).Follows n.curState (s.sent p) view ∧
    Takes n.curState (handler :: outbox.map Prod.fst) view
  := by
  obtain ⟨handler, frame, outbox, rest, houtbox, hread⟩ :=
    (hreported ph ev evs p n hpc hdata hlive).dispatched hrdhup hinput
  obtain ⟨view, hview⟩ := h.follows p n.curState (by rw [hlive]; rfl)
  have htakes := hview.takes
  rw [houtbox] at htakes
  exact ⟨handler, frame, outbox, rest, view, houtbox, hread, hview, htakes⟩

/-- No event that is reported as it is disconnects a node that transmits. -/
theorem not_cutsOff (h : s.Following) (hreported : s.Reported host) :
  ¬ CutsOff host s.sys i
  := by
  obtain ⟨sys, clients⟩ := s
  intro hcut
  cases hcut with
  | @event m env ph ev evs p n hdata hlive hp hdisconnects =>
      have hstate := (h.none.consistent.transmitting hp hlive).1
      by_cases hrdhup : ev.rdhup
      · obtain ⟨view, hview⟩ := h.follows p .tx (by rw [hlive, ← hstate]; rfl)
        apply hview.not_answered
        apply hview.closed
        apply (hreported ph ev evs p n rfl hdata hlive).closed hrdhup
      · obtain ⟨hinput, msg, rest, hread⟩ := hdisconnects.resolve_left hrdhup
        obtain ⟨handler, frame, outbox, rest', view, -, hread', -, htakes⟩ :=
          h.dispatched hreported rfl hdata hlive hrdhup hinput
        rw [hread] at hread'
        cases hread'
        rw [hstate] at htakes
        cases htakes with
        | deregReq _ hne => apply hne rfl

/-- The first frame of a client is read. -/
theorem read {sys : Sys} {state : NodeState} (h : s.Following) (hreported : s.Reported host)
    (hframe : s.sys.frameFrom i = some p) (hstep : s.sys.step host kind i = .ok sys)
    (hstate : (sys.med.nodes p).awaited = some state) :
  ∃ view, (s.clients p).frameRead.Follows state (sentTo p sys.med.log) view
  := by
  obtain ⟨⟨pc, m⟩, clients⟩ := s
  obtain ⟨ph, ev, evs, env, rfl, rfl, hdata, hrdhup, hinput⟩ := frameFrom_eq_some hframe
  obtain ⟨n, hlive⟩ : ∃ n, m.nodes p = .live n := by
    rcases h.none.orderly.event with hother | ⟨q, n, hdata', hlive⟩
    · rw [hother] at hdata
      cases hdata
    · rw [hdata'] at hdata
      cases hdata
      exact ⟨n, hlive⟩
  obtain ⟨handler, frame, outbox, rest, view, houtbox, hread, hview, -⟩ :=
    h.dispatched hreported rfl hdata hlive hrdhup hinput
  cases hevent : processPollerEvent host env ev m with
  | error e m₁ => simp [Sys.step, stepProg, runStep, hevent] at hstep
  | ok goOn m₁ =>
      obtain ⟨rfl, eff, heff, hguard, rfl⟩ :=
        processPollerEvent_dispatched hdata hlive hrdhup hinput hread hevent
      simp [Sys.step, stepProg, runStep, hevent] at hstep
      subst hstep
      use view
      have htaken := hview.frameRead houtbox (fun msgs htakes => htakes.handled heff hguard hstate)
      have hcount : txDonesTo p (eff.events m) = 0 := by
        apply txDonesTo_events
        rintro i n' pkt buf rfl
        cases heff
      have hlog : sentTo p (eff.apply m).log = sentTo p m.log ++ sentTo p (eff.events m) := by
        rw [Effect.log_apply, sentTo_append]
      simp only [hlog]
      apply htaken.more (List.prefix_append ..)
      rw [List.countP_append]
      exact Nat.add_eq_left.mpr hcount

/-- A step of the medium keeps the nodes following their clients. -/
theorem thread {sys : Sys} (h : s.Following) (henabled : s.sys.Enabled i)
    (hreported : s.Reported host) (hstep : s.sys.step host kind i = .ok sys) :
  Net.Following ⟨sys, s.read i⟩
  := by
  have hnext := next_of_step henabled hstep
  constructor
  · apply h.none.next (h.not_cutsOff hreported) hnext
  · intro p state hstate
    by_cases hframe : s.sys.frameFrom i = some p
    · simp only [Net.read, if_pos hframe]
      apply h.read hreported hframe hstep hstate
    · obtain ⟨es, hlog⟩ := (txNext_of_next hnext).log
      have hgrow : s.sent p <+: sentTo p sys.med.log := by
        rw [hlog, sentTo_append]
        apply List.prefix_append
      simp only [Net.read, if_neg hframe]
      rcases peer_next hnext hframe with hkept | ⟨htx, hactive, hone⟩
      · obtain ⟨hbefore, hsame⟩ := hkept state hstate
        obtain ⟨view, hview⟩ := h.follows p state hbefore
        exact ⟨view, hview.more hgrow hsame⟩
      · obtain ⟨view, hview⟩ := h.follows p .tx htx
        simp only at hstate
        rw [hactive] at hstate
        cases hstate
        exact ⟨_, hview.txDone hgrow hone⟩

/-- The nodes of a medium follow their clients whatever is done. -/
theorem reachable (h : (exchange host kind).Reachable s) :
  s.Following
  := by
  apply h.invariant
  · rintro s ⟨hsys, hclients⟩
    apply initial hsys hclients
  · intro s s' deed hs henabled hstep
    cases deed with
    | thread i =>
        obtain ⟨henabled, -, hreported⟩ := henabled
        cases hsys : s.sys.step host kind i with
        | error e => simp [exchange, Net.step, hsys] at hstep
        | ok sys =>
            simp [exchange, Net.step, hsys] at hstep
            rw [← hstep]
            apply hs.thread henabled hreported hsys
    | send p handler frame =>
        cases hstep
        apply hs.setClient
        intro state view hview
        apply hview.send henabled.1 henabled.2
    | receive p =>
        cases hstep
        apply hs.setClient
        intro state view hview
        exact ⟨view, hview.receive henabled.1⟩
    | close p =>
        cases hstep
        apply hs.setClient
        intro state view hview
        exact ⟨view, hview.close henabled.2⟩

end Net.Following

/-! ### No misuse -/

/-- What the state objects of nodes throw, in their own functions and in those they call. -/
def stateThrows : List String :=
  ["RegisteringState: handleTxTimerExpired", "RegisteringState: handleCcaRequest",
    "RegisteringState: handleTxRequest", "ActiveState: handleCheckRegTimer",
    "ActiveState: handleTxTimerExpired", "ActiveState: handleRegistrationConfirm",
    "TxState: handleCheckRegTimer", "TxState: handleRegistrationConfirm",
    "TxState: handleCcaRequest", "DeviceNodeTimer::start: failed to create timer",
    "DeviceNodeTimer::start: failed to arm timer"]

/-- The assertions about the maps, the transmissions and the timers of nodes. -/
def nodeAssertions : List Assertion :=
  [.registerNode, .deregisterNode, .processTxList, .handleTxTimerExpired, .timerStart .regTimer,
    .timerStart .txTimer, .timerExpired .regTimer, .timerExpired .txTimer]

/-- The stops to which the misuse of a node leads. -/
def misuses : List Stop := stateThrows.map .exception ++ nodeAssertions.map .assertion

/-- A message that its node takes does not lead to misuse. -/
theorem HandlerError.not_misuse {env : Env} {msg : List UInt8} {handler : Handler} {e : Stop}
    (herror : HandlerError host env m p n msg handler e m') (hcalls : env.CallsSucceed)
    (hplaced : m.Placed p n) (hagrees : n.curState = .active → n.txTimer.started = false)
    (htaken : n.curState.refusal handler = none) :
  e ∉ misuses
  := by
  have hrefused : ∀ {text}, n.curState.refusal handler ≠ some text := by
    intro text
    rw [htaken]
    simp
  cases herror with
  | os => decide
  | osVersion => decide
  | regCon _ _ hrefusal => apply absurd hrefusal hrefused
  | registerNode hstate hreg =>
      rw [hplaced.registering hstate] at hreg
      cases hreg
  | deregisterNode hreg hhash =>
      apply absurd ⟨hreg, hhash⟩ hplaced.not_missed
  | ccaReq hrefusal => apply absurd hrefusal hrefused
  | packet => decide
  | dataInd _ hrefusal => apply absurd hrefusal hrefused
  | isAck => decide
  | timerStart _ hstate hstarted =>
      rw [hagrees hstate] at hstarted
      cases hstarted
  | create _ _ _ _ hcreate =>
      rw [hcalls.nodeTimerCreate] at hcreate
      cases hcreate
  | arm _ _ _ _ _ hsettime =>
      rw [hcalls.nodeTimerSettime] at hsettime
      cases hsettime

/-- In every state of a medium and clients that keep to the protocol, however their steps and the
steps of the medium interleave, no step leads to the misuse of a node, or uses a node that is not
there. -/
theorem clients_no_misuse {s : Net} (h : (exchange host kind).Reachable s) :
  ∀ deed e m', (exchange host kind).Halts s deed (e, m') → e ∉ misuses ∧ ∀ p, e ≠ .noObject p
  := by
  have hfollowing := Net.Following.reachable h
  rintro deed e m' ⟨henabled, hstep⟩
  cases deed with
  | send => cases hstep
  | receive => cases hstep
  | close => cases hstep
  | thread i =>
      obtain ⟨henabled, hcalls, hreported⟩ := henabled
      have hhalts : (medium host kind).Halts s.sys i (e, m') := by
        use henabled
        cases hsys : s.sys.step host kind i with
        | ok sys => simp [exchange, Net.step, hsys] at hstep
        | error e' =>
            simp [exchange, Net.step, hsys] at hstep
            rw [← hstep]
            apply hsys
      constructor
      · obtain ⟨sys, clients⟩ := s
        cases halt_of_halts hfollowing.none.orderly hhalts with
        | @event m _ env ph ev evs p n _ hdata hlive herror =>
            have hplaced := hfollowing.none.lifecycle.placed hlive
            cases herror with
            | closed _ hreg hhash =>
                apply absurd ⟨hreg, hhash⟩ hplaced.not_missed
            | read _ _ hread => cases readMsgFrame_error hread <;> decide
            | @handled handler msg rest _ _ hrdhup hinput hread hhandler =>
                obtain ⟨handler', frame, outbox, rest', view, -, hread', -, htakes⟩ :=
                  hfollowing.dispatched hreported rfl hdata hlive hrdhup hinput
                rw [hread] at hread'
                cases hread'
                apply hhandler.not_misuse hcalls hplaced _ htakes.not_refused
                intro hstate
                have hagrees := hfollowing.none.consistent.agrees hlive
                by_contra hstarted
                have htx := hagrees.curState.mpr (hagrees.txTimer.mp (by simpa using hstarted))
                rw [hstate] at htx
                cases htx
        | addNode _ herror =>
            cases herror with
            | send => decide
            | create _ hcreate =>
                rw [hcalls.nodeTimerCreate] at hcreate
                cases hcreate
            | arm _ _ hsettime =>
                rw [hcalls.nodeTimerSettime] at hsettime
                cases hsettime
            | epoll => decide
        | noObject => simp [misuses]
        | _ => decide
      · rintro p rfl
        apply hfollowing.none.no_noObject hhalts

/-! ### A client that waits for an answer -/

/-- A walk of the thread. -/
theorem exchange_walk {sys sys' : Sys} {clients : NodePtr → Client}
    (h : (exchange host kind).Reachable ⟨sys, clients⟩) (hwalk : Walk host kind sys sys') :
  (exchange host kind).Reachable ⟨sys', clients⟩
  := by
  obtain ⟨hstrides, -⟩ := hwalk
  induction hstrides with
  | refl => apply h
  | @tail sys₁ sys₂ _ hstride ih =>
      obtain ⟨hquiet, env, henabled, hstep, -, hcalls⟩ := hstride
      have hpoll : ∀ ph ev evs, sys₁.pc ≠ .poll ph (ev :: evs) := by
        intro ph ev evs hpc
        rw [hpc] at hquiet
        cases hquiet
      have hread : Net.read ⟨sys₁, clients⟩ (.run env) = clients := by
        funext p
        rw [Net.read, if_neg]
        intro hframe
        obtain ⟨ph, ev, evs, -, hpc, -⟩ := frameFrom_eq_some hframe
        apply hpoll ph ev evs hpc
      refine ih.step (i := .thread (.run env)) ⟨henabled, hcalls, ?_⟩ ?_
      · intro ph ev evs p n hpc
        apply absurd hpc (hpoll ph ev evs)
      · simp only [exchange, Net.step, Sys.step, stepProg, hstep, hread]

/-- The first frame of a client is read. -/
theorem exchange_frame {sys : Sys} {ph : Phase} {evs : List PollEvent} {handler : Handler}
    {frame : List UInt8} {outbox : List (Handler × List UInt8)} {clients : NodePtr → Client}
    (h : (exchange host kind).Reachable ⟨sys, clients⟩)
    (hwalk : Walk host kind sys ⟨.poll ph (frameEvent p frame :: evs), m⟩)
    (houtbox : (clients p).outbox = (handler, frame) :: outbox)
    (hframe : Dispatched host n.socket handler frame) (hlive : m.nodes p = .live n)
    (hcall : callHandler host .calm p (blankCksum frame) handler m = .ok () m') :
  ∃ clients', (exchange host kind).Reachable ⟨⟨.poll ph evs, m'⟩, clients'⟩ ∧
    clients' p = (clients p).frameRead
  := by
  have hbefore := exchange_walk h hwalk
  have hstep : Sys.step host kind ⟨.poll ph (frameEvent p frame :: evs), m⟩ (.run .calm)
      = .ok ⟨.poll ph evs, m'⟩ := by
    simp [Sys.step, stepProg, runStep, processPollerEvent_frame hframe hlive rfl, hcall]
  have hreported : Net.Reported host ⟨⟨.poll ph (frameEvent p frame :: evs), m⟩, clients⟩ := by
    rintro ph' ev evs' q n' ⟨⟩ ⟨⟩ hlive'
    obtain rfl := NodeCell.live.inj (hlive.symm.trans hlive')
    refine ⟨by simp [frameEvent], ?_⟩
    intro _ _
    exact ⟨handler, frame, outbox, [], houtbox, readMsgFrame_frame hframe rfl⟩
  refine ⟨Net.read ⟨⟨.poll ph (frameEvent p frame :: evs), m⟩, clients⟩ (.run .calm), ?_, ?_⟩
  · refine hbefore.step (i := .thread (.run .calm)) ⟨trivial, calm_callsSucceed, hreported⟩ ?_
    simp only [exchange, Net.step, hstep]
  · have hfrom : Sys.frameFrom ⟨.poll ph (frameEvent p frame :: evs), m⟩ (.run .calm) = some p :=
      rfl
    simp only [Net.read, if_pos hfrom]

/-- A client sends a frame. -/
theorem exchange_send {sys : Sys} {clients : NodePtr → Client} (handler : Handler)
    (frame : List UInt8) (h : (exchange host kind).Reachable ⟨sys, clients⟩)
    (hopen : (clients p).closed = false)
    (hmay : (clients p).MaySend (sentTo p sys.med.log) handler) :
  ∃ clients', (exchange host kind).Reachable ⟨sys, clients'⟩ ∧
    clients' p = (clients p).send handler frame
  := by
  refine ⟨Function.update clients p ((clients p).send handler frame),
    h.step (i := .send p handler frame) ⟨hopen, hmay⟩ rfl, Function.update_self ..⟩

/-- The node of a client that has confirmed its registration has joined the medium. -/
theorem exchange_joined (host : ByteOrder) (kind : Kind) (p : NodePtr) (socket : UInt64) :
  ∃ m n clients, (exchange host kind).Reachable ⟨⟨.poll .idle [], m⟩, clients⟩ ∧
    Medium.idle.Joined p n m ∧ n.socket = socket ∧
    clients p = ⟨[], true, 0, 0, false⟩
  := by
  have hstart : (exchange host kind).Reachable ⟨⟨.start, Medium.new⟩, fun _ => Client.new⟩ :=
    .initial ⟨rfl, fun _ => rfl⟩
  have hstarted : Walk host kind ⟨.start, Medium.new⟩ ⟨.outer, Medium.idle⟩ :=
    (Walk.refl (by simp [Medium.new]) _).run rfl calm_callsSucceed trivial (by simp [Medium.idle])
      rfl
  have hinterval := exchange_walk hstart
    (hstarted.run rfl calm_callsSucceed trivial (by simp [Medium.idle]) rfl)
  have hadded : (exchange host kind).Reachable
      ⟨⟨.interval .idle, Medium.added p socket⟩, fun _ => Client.new⟩ := by
    have hadd : addNode .calm p socket Medium.idle = .ok () (Medium.added p socket) :=
      addNode_ok rfl rfl rfl rfl p socket _
    refine hinterval.step (i := .thread (.addNode .calm p socket))
      ⟨⟨by simp, fresh_idle p socket⟩, calm_callsSucceed, ?_⟩ ?_
    · rintro ph ev evs q n ⟨⟩
    · simp [exchange, Net.step, Sys.step, stepProg, hadd]
      rfl
  obtain ⟨clients, hsent, hclient⟩ := exchange_send .handleRegistrationConfirm
    (regConFrame host socket) hadded rfl rfl
  have hreport : Walk host kind ⟨.interval .idle, Medium.added p socket⟩
      ⟨.poll .idle [frameEvent p (regConFrame host socket)],
        (Medium.added p socket).tick .idle⟩ := by
    apply (Walk.refl (by simp [Medium.added, Effect.apply]) _).report _ (by simp)
    apply reportable_node rfl
    apply List.mem_append_right _ (List.mem_singleton_self p)
  have hcalm : Medium.idle.Calm := ⟨rfl, rfl, rfl, rfl⟩
  obtain ⟨hlive, hentry⟩ : ((Medium.added p socket).tick .idle).nodes p
      = .live (DeviceNode.registering socket) ∧ _ := hcalm.registering
  obtain ⟨os, osVersion, hhandle⟩ := handleRegistrationConfirm_frame host hlive hentry
  have hcall : callHandler host .calm p (blankCksum (regConFrame host socket))
      .handleRegistrationConfirm ((Medium.added p socket).tick .idle) = .ok () _ := hhandle
  obtain ⟨clients', hread, hclient'⟩ := exchange_frame hsent hreport (by rw [hclient]; rfl)
    (dispatched_regConFrame host socket) hlive hcall
  refine ⟨_, _, clients', hread, hcalm.joined os osVersion, rfl, ?_⟩
  rw [hclient', hclient]
  rfl

/-- The client has asked for an assessment, and its request has been read. -/
theorem exchange_asked (host : ByteOrder) (kind : Kind) (p : NodePtr) (socket : UInt64) :
  ∃ m n clients, (exchange host kind).Reachable ⟨⟨.poll .idle [], m⟩, clients⟩ ∧
    m.nodes p = .live n ∧ n.curState = .active ∧ m.ccaList = [p] ∧ m.state = .idle ∧
    m.txList = [] ∧ sentTo p m.log = [.regReq] ∧ clients p = ⟨[], true, 0, 0, false⟩
  := by
  obtain ⟨m, n, clients, hreached, hjoined, hsocket, hclient⟩ :=
    exchange_joined host kind p socket
  have hactive := (hjoined.active rfl).tick .idle
  have hmay : (clients p).MaySend (sentTo p m.log) .handleCcaRequest := by
    rw [hclient]
    rfl
  obtain ⟨clients₁, hasked, hclient₁⟩ := exchange_send .handleCcaRequest
    (sealMsg host .handleCcaRequest socket []) hreached (by rw [hclient]) hmay
  have hrunning : m.state ≠ .stopping := by
    rw [hjoined.calm.state]
    decide
  have hreport : Walk host kind ⟨.poll .idle [], m⟩
      ⟨.poll .idle [frameEvent p (sealMsg host .handleCcaRequest socket [])], m.tick .idle⟩ := by
    have hempty : m.regListMap.Walk [] := by
      rw [hjoined.calm.regListMap]
      exact ⟨List.nodup_nil, by simp⟩
    apply ((Walk.refl hrunning _).round hjoined.calm.state hjoined.calm.ccaList hjoined.calm.txList
      hempty).report _ (by simp)
    exact reportable_node rfl (hjoined.active rfl).interest
  have hframe : Dispatched host n.socket .handleCcaRequest
      (sealMsg host .handleCcaRequest socket []) := by
    rw [hsocket]
    apply dispatched_sealMsg
    · decide
    · cases host <;> decide
  have hcall : callHandler host .calm p
      (blankCksum (sealMsg host .handleCcaRequest socket [])) .handleCcaRequest (m.tick .idle)
      = .ok () ((Effect.request p n).apply (m.tick .idle)) := by
    simp only [callHandler]
    rw [handleCcaRequest_eq hactive.live, hactive.curState]
  obtain ⟨clients₂, hread, hclient₂⟩ := exchange_frame hasked hreport
    (by rw [hclient₁, hclient]; rfl) hframe hactive.live hcall
  refine ⟨_, n, clients₂, hread, hactive.live, hactive.curState, ?_, hactive.state, hactive.txList,
    ?_, ?_⟩
  · simp [Effect.apply, hactive.ccaList]
  · simp [Effect.apply, Medium.tick, Medium.record, hjoined.log, sentTo, Event.msgTo, Medium.idle,
      Medium.new, List.filterMap_cons]
  · rw [hclient₂, hclient₁, hclient]
    rfl

/-- The request has been answered, and the client has sent a data indication.  The answer is there
and has not been received, and the data indication has not been read. -/
theorem exchange_answered (host : ByteOrder) (kind : Kind) (p : NodePtr) (socket : UInt64) :
  ∃ s n, (exchange host kind).Reachable s ∧ s.sys.med.nodes p = .live n ∧ n.curState = .active ∧
    (s.clients p).outbox = [(.handleDataIndication, dataFrame host socket)] ∧
    s.sent p = [.regReq, .ccaCon true] ∧ (s.clients p).received = 0
  := by
  obtain ⟨m, n, clients, hasked, hlive, hactive, hcca, hstate, htx, hlog, hclient⟩ :=
    exchange_asked host kind p socket
  have hanswer : Walk host kind ⟨.poll .idle [], m⟩
      ⟨.processCcaList .idle, (Effect.answer p []).apply m⟩ := by
    have hrunning : m.state ≠ .stopping := by
      rw [hstate]
      decide
    refine ((Walk.refl hrunning _).assess htx).run rfl calm_callsSucceed trivial hrunning ?_
    rcases processCcaEntry_cons hcca with ⟨-, hanswered⟩ | ⟨hgone, -⟩
    · simp [runStep, hcca, hanswered]
    · apply absurd hlive (hgone n)
  obtain ⟨clients', hsent, hclient'⟩ := exchange_send .handleDataIndication
    (dataFrame host socket) (exchange_walk hasked hanswer) (by rw [hclient])
    (by rw [hclient]; exact ⟨rfl, Nat.zero_le _⟩)
  rw [hclient] at hclient'
  have hanswers : sentTo p ((Effect.answer p []).apply m).log = [.regReq, .ccaCon true] := by
    have hlog' : ((Effect.answer p []).apply m).log = m.log ++ [.sent p (.ccaCon true)] := by
      simp [Effect.apply, hstate]
    rw [hlog', sentTo_append, hlog]
    simp [sentTo, Event.msgTo]
  refine ⟨_, n, hsent, hlive, hactive, ?_, hanswers, ?_⟩
  · simp only [hclient']
    rfl
  · simp only [hclient']
    rfl

theorem clients_no_misuse_answered :
  ∃ s n, (exchange .little .powerline).Reachable s ∧ s.sys.med.nodes 1 = .live n ∧
    n.curState = .active ∧
    (s.clients 1).outbox = [(.handleDataIndication, dataFrame .little 7)] ∧
    s.sent 1 = [.regReq, .ccaCon true] ∧ (s.clients 1).received = 0 ∧
    ∀ deed e m', (exchange .little .powerline).Halts s deed (e, m') →
      e ∉ misuses ∧ ∀ p, e ≠ .noObject p
  := by
  obtain ⟨s, n, h, hlive, hstate, houtbox, hsent, hreceived⟩ :=
    exchange_answered .little .powerline 1 7
  exact ⟨s, n, h, hlive, hstate, houtbox, hsent, hreceived, clients_no_misuse h⟩

end X6losim
