import X6losim.NodeSim.Sound

/-!
# From one program to the others

In an undisturbed run of a medium and test programs in step, whatever is multicast comes from a call
of `sendTxDataInd` of the program whose node it is multicast for, and every program that receives it
prints the frame that this call has sent.
-/

open Bytes

namespace X6losim

open NodeSim

variable {host : ByteOrder} {kind : Kind} {S : Sockets} {p q : NodePtr}
  {s s' : Session} {deed : SessionDeed} {visits visits' : List (Session × SessionDeed)}

/-- A program has made a call that sends a message. -/
def Sends (visits : List (Session × SessionDeed)) (p : NodePtr) (call : SendCall) : Prop :=
  ∃ s env rest, (s, .call p env) ∈ visits ∧ (s.procs p).rest = .send call :: rest

theorem Sends.mono {call : SendCall} (h : Sends visits p call) (hmore : visits <+: visits') :
  Sends visits' p call
  := by
  obtain ⟨s, env, rest, hcall, hrest⟩ := h
  exact ⟨s, env, rest, hmore.subset hcall, hrest⟩

/-- The handler that a message of a call is dispatched to is the one it is meant for. -/
theorem NodeSim.SendCall.handler_eq {call : SendCall} {memory : Nat → UInt8} {id nodeId : UInt64}
    {handler : Handler} (h : Dispatched host id handler (call.message host memory nodeId)) :
  handler = call.handler
  := by
  have htype := h.received.accepted.msgType
  have hmessage : call.message host memory nodeId
      = NodeSim.message host call.handler.msgType nodeId (call.body host memory) := by
    cases call <;> rfl
  obtain ⟨-, hfield, -⟩ := message_fields host call.handler.msgType nodeId (call.body host memory)
  rw [hmessage, hfield] at htype
  have hsome := handlerOf_eq_some.mpr htype.symm
  rw [handlerOf_eq_some.mpr rfl] at hsome
  exact Option.some.inj hsome

/-- A message is one that the program of a node has sent. -/
def SentBy (host : ByteOrder) (visits : List (Session × SessionDeed)) (p : NodePtr)
    (msg : List UInt8) : Prop :=
  ∃ call memory nodeId, Sends visits p call ∧ msg = call.message host memory nodeId

/-- A message is a data indication that the program of a node has sent, as its handler gets it. -/
def IndicatedBy (host : ByteOrder) (visits : List (Session × SessionDeed)) (p : NodePtr)
    (msg : List UInt8) : Prop :=
  ∃ ind memory nodeId, Sends visits p (.sendTxDataInd ind) ∧
    msg = blankCksum (sendTxDataInd host memory nodeId ind)

/-- What waits to be read from a program, what the packet of its node holds, and what has been
multicast for it, the program has sent. -/
structure Sourced (host : ByteOrder) (visits : List (Session × SessionDeed)) (s : Session) :
    Prop where
  outbox : ∀ p, ∀ msg ∈ (s.procs p).outbox, SentBy host visits p msg
  carrying : Carrying host (IndicatedBy host visits) s.sys.med

namespace Sourced

theorem initial (hinit : (sessions host kind S).init s) :
  Sourced host [] s
  := by
  obtain ⟨hsys, hprocs⟩ := hinit
  constructor
  · intro p msg hmsg
    obtain ⟨node, program, -, hproc⟩ := hprocs p
    rw [hproc] at hmsg
    cases hmsg
  · rw [hsys]
    apply Carrying.initial

theorem mono (h : Sourced host visits s) (hmore : visits <+: visits') :
  Sourced host visits' s
  where
  outbox p msg hmsg := by
    obtain ⟨call, memory, nodeId, hsends, heq⟩ := h.outbox p msg hmsg
    exact ⟨call, memory, nodeId, hsends.mono hmore, heq⟩
  carrying := by
    apply h.carrying.mono
    rintro p msg ⟨ind, memory, nodeId, hsends, heq⟩
    exact ⟨ind, memory, nodeId, hsends.mono hmore, heq⟩

/-- The message of a step that calls `handleDataIndication` is a data indication that the program of
the node has sent. -/
theorem indicates {i : Input} {msg : List UInt8} (h : Sourced host visits s)
    (hsound : s.Sound host S) (hwhole : s.Whole host S (.thread i))
    (hind : Indicates host s.sys i p msg) :
  IndicatedBy host visits p msg
  := by
  obtain ⟨sys, procs⟩ := s
  cases hind with
  | @event m env ph ev evs p n msg rest hdata hlive hrdhup hinput hread =>
      have hframe : Sys.frameFrom ⟨.poll ph (ev :: evs), m⟩ (.run env) = some p := by
        simp [Sys.frameFrom, hrdhup, hinput, hdata]
      obtain ⟨handler, msg', more, hmessage, hfirst, hread', -⟩ :=
        hsound.dispatched (hwhole p hframe ph ev evs rfl) hlive
      rw [hread] at hread'
      cases hread'
      obtain ⟨call, memory, nodeId, hsends, rfl⟩ := h.outbox p msg' hfirst
      have hhandler := SendCall.handler_eq hmessage.dispatched
      cases call with
      | sendTxDataInd ind => exact ⟨ind, memory, nodeId, hsends, rfl⟩
      | _ => cases hhandler

/-- A step of a thread. -/
theorem thread {i : Input} {sys : Sys} (h : Sourced host visits s) (hsound : s.Sound host S)
    (henabled : s.Enabled host S (.thread i)) (hwhole : s.Whole host S (.thread i))
    (hstep : s.sys.step host kind i = .ok sys) :
  Sourced host visits ⟨sys, s.read host i⟩
  where
  outbox p msg hmsg := by
    apply h.outbox p msg
    by_cases hframe : s.sys.frameFrom i = some p
    · obtain ⟨hread, -⟩ := hsound.read hwhole hstep hframe
      simp only [hread] at hmsg
      apply List.mem_of_mem_tail hmsg
    · simp only [Session.read, if_neg hframe] at hmsg
      apply hmsg
  carrying := by
    apply h.carrying.next (pktNext_of_step henabled.1 hstep)
    intro p msg hind
    apply h.indicates hsound hwhole hind

/-- What a call of a program puts in its outbox is the message that it sends, if all of it is
accepted. -/
theorem outbox_call {proc proc' : Proc} {env : CallEnv} {msg : List UInt8}
    (haccepted : ∀ call rest, proc.rest = .send call :: rest →
      (call.message host env.memory proc.node.nodeId).length ≤ env.accepted)
    (hcall : proc.call host env = .ok proc') (hmsg : msg ∈ proc'.outbox) :
  msg ∈ proc.outbox ∨ ∃ call rest, proc.rest = .send call :: rest ∧
    msg = call.message host env.memory proc.node.nodeId
  := by
  cases hrest : proc.rest with
  | nil =>
      simp only [Proc.call, hrest] at hcall
      cases hcall
      exact Or.inl hmsg
  | cons call rest =>
      cases call with
      | send call =>
          simp only [Proc.call, hrest, List.take_of_length_le (haccepted call rest hrest)] at hcall
          cases hcall
          rcases List.mem_append.mp hmsg with hmsg | hmsg
          · exact Or.inl hmsg
          · exact Or.inr ⟨call, rest, rfl, List.mem_singleton.mp hmsg⟩
      | readMsg =>
          left
          simp only [Proc.call, hrest] at hcall
          split at hcall <;> cases hcall
          apply hmsg
      | mcastRxDataPacket =>
          left
          simp only [Proc.call, hrest] at hcall
          split at hcall <;> cases hcall
          apply hmsg

/-- A call of a program. -/
theorem call {proc : Proc} {env : CallEnv} (h : Sourced host visits s)
    (hwhole : s.Whole host S (.call p env)) (hcall : (s.procs p).call host env = .ok proc) :
  Sourced host (visits ++ [(s, .call p env)]) { s with procs := Function.update s.procs p proc }
  := by
  have hmore := h.mono (List.prefix_append visits [(s, .call p env)])
  refine ⟨?_, hmore.carrying⟩
  intro q msg hmsg
  by_cases hq : q = p
  · subst hq
    simp only [Function.update_self] at hmsg
    rcases outbox_call hwhole.1 hcall hmsg with hmsg | ⟨call, rest, hrest, rfl⟩
    · apply hmore.outbox q msg hmsg
    · refine ⟨call, env.memory, _, ?_, rfl⟩
      exact ⟨s, env, rest, List.mem_append_right _ (List.mem_singleton_self _), hrest⟩
  · simp only [Function.update_of_ne hq] at hmsg
    apply hmore.outbox q msg hmsg

theorem run {s₀ : Session} (h : UndisturbedRun host kind S s₀ visits s) :
  s.Sound host S ∧ Sourced host visits s
  := by
  obtain ⟨hinit, run, hfitting, hnone, hgood⟩ := h
  induction run with
  | nil => exact ⟨.initial hinit hfitting, .initial hinit⟩
  | @snoc s s' deed visits run henabled hstep ih =>
      have hwhole := hgood (s, deed) (List.mem_append_right _ (List.mem_singleton_self _))
      obtain ⟨hsound, hsourced⟩ := ih (fun v hv => hgood v (List.mem_append_left _ hv))
      refine ⟨hsound.next hnone henabled hwhole hstep, ?_⟩
      cases deed with
      | thread i =>
          cases hsys : s.sys.step host kind i with
          | error e => simp [sessions, Session.step, hsys] at hstep
          | ok sys =>
              simp [sessions, Session.step, hsys] at hstep
              rw [← hstep]
              apply (hsourced.thread hsound henabled hwhole hsys).mono (List.prefix_append ..)
      | call p env =>
          cases hcall : (s.procs p).call host env with
          | error f => simp [sessions, Session.step, hcall] at hstep
          | ok proc =>
              simp [sessions, Session.step, hcall] at hstep
              rw [← hstep]
              apply hsourced.call hwhole hcall

end Sourced

/-- In every undisturbed run of a medium and programs in step, what is multicast for a node comes
from a call of `sendTxDataInd` of its program, and every program that receives it prints the frame
of that call. -/
theorem multicast_shown {s₀ : Session} {k : PktId} {datagram : List UInt8}
    (h : UndisturbedRun host kind S s₀ visits s) (hlog : .multicast p k datagram ∈ s.sys.med.log) :
  ∃ ind, Sends visits p (.sendTxDataInd ind) ∧
    ∀ memory, mcastRxDataPacket host memory (.received datagram) = .ok (psduLines ind.psdu)
  := by
  obtain ⟨hsound, hsourced⟩ := Sourced.run h
  obtain ⟨msg, ⟨ind, memory, nodeId, hsends, rfl⟩, hrelays⟩ := hsourced.carrying.relays hlog
  obtain ⟨msg', ⟨memory', nodeId', ind', hfits, rfl⟩, hrelays'⟩ := hsound.carrying.relays hlog
  refine ⟨ind, hsends, ?_⟩
  intro mem
  have hshown := mcastRxDataPacket_relayed memory' mem nodeId' ind' hrelays'
  rw [if_pos hfits.2, mcastRxDataPacket_relayed memory mem nodeId ind hrelays] at hshown
  rw [mcastRxDataPacket_relayed memory mem nodeId ind hrelays]
  split at hshown
  · next hshort => rw [if_pos hshort]
  · cases hshown

/-! ### A program whose frame is multicast -/

/-- The first message of a program is read. -/
theorem sessions_frame {sys : Sys} {ph : Phase} {evs : List PollEvent} {m m' : Medium}
    {n : DeviceNode} {handler : Handler} {msg : List UInt8} {outbox : List (List UInt8)}
    {procs : NodePtr → Proc} (h : Session.Reached host kind S ⟨sys, procs⟩)
    (hwalk : Walk host kind sys ⟨.poll ph (frameEvent p msg :: evs), m⟩)
    (houtbox : (procs p).outbox = msg :: outbox)
    (hframe : Dispatched host n.socket handler msg) (hlive : m.nodes p = .live n)
    (hcall : callHandler host .calm p (blankCksum msg) handler m = .ok () m') :
  ∃ procs', Session.Reached host kind S ⟨⟨.poll ph evs, m'⟩, procs'⟩ ∧
    (procs' p).outbox = outbox
  := by
  have hbefore := h.walk hwalk
  have hstep : Sys.step host kind ⟨.poll ph (frameEvent p msg :: evs), m⟩ (.run .calm)
      = .ok ⟨.poll ph evs, m'⟩ := by
    simp [Sys.step, stepProg, runStep, processPollerEvent_frame hframe hlive rfl, hcall]
  have hunread : msg <+: (procs p).outbox.flatten := by
    rw [houtbox, List.flatten_cons]
    apply List.prefix_append
  have hread : (procs p).bytesRead msg.length = (procs p).messageRead := by
    apply Proc.bytesRead_message houtbox
    rintro rfl
    apply absurd hframe.size (by decide)
  have hfirst : (procs p).FirstWhole (frameEvent p msg) := by
    refine ⟨msg, outbox, [], houtbox, (List.append_nil _).symm, ?_⟩
    exact ⟨⟨2, rfl, le_refl 2⟩, msg.length, rfl, Nat.sub_le _ _⟩
  have hbytes : Sys.bytesFrom host ⟨.poll ph (frameEvent p msg :: evs), m⟩ p = msg.length := by
    simp only [Sys.bytesFrom, hlive, readMsgFrame_frame hframe rfl]
    simp [frameEvent]
  refine ⟨Session.read host ⟨⟨.poll ph (frameEvent p msg :: evs), m⟩, procs⟩ (.run .calm), ?_, ?_⟩
  · refine hbefore.step (.thread (.run .calm)) ⟨trivial, by simp, ?_, ?_⟩ ?_ ?_
    · simp [Sockets.Returns]
    · rintro ph' ev evs' q ⟨⟩ ⟨⟩
      exact ⟨by simp [frameEvent], hunread⟩
    · rintro q ⟨⟩ ph' ev evs' ⟨⟩
      apply hfirst
    · simp only [Session.step, hstep]
  · have hfrom : Sys.frameFrom ⟨.poll ph (frameEvent p msg :: evs), m⟩ (.run .calm) = some p := rfl
    simp only [Session.read, if_pos hfrom, hbytes, hread, Proc.messageRead, houtbox, List.tail_cons]

/-- The node of a program that has sent a registration confirm joins the medium. -/
theorem sessions_joined {procs : NodePtr → Proc} {msg : List UInt8} {outbox : List (List UInt8)}
    (h : Session.Reached host kind S ⟨⟨.interval .idle, Medium.added p (S.nodeId p)⟩, procs⟩)
    (houtbox : (procs p).outbox = msg :: outbox)
    (hmessage : MessageFor host (S.nodeId p) .handleRegistrationConfirm msg) :
  ∃ m n procs', Session.Reached host kind S ⟨⟨.poll .idle [], m⟩, procs'⟩ ∧
    Medium.idle.Joined p n m ∧ n.socket = S.nodeId p ∧ (procs' p).outbox = outbox
  := by
  have hcalm : Medium.idle.Calm := ⟨rfl, rfl, rfl, rfl⟩
  obtain ⟨hlive, hentry⟩ : ((Medium.added p (S.nodeId p)).tick .idle).nodes p
      = .live (DeviceNode.registering (S.nodeId p)) ∧ _ := hcalm.registering
  obtain ⟨⟨os, hos⟩, osVersion, hversion⟩ :=
    strncpy_regCon_iff.mpr ((frameFits_blankCksum hmessage.dispatched.size).mpr hmessage.fits)
  have hreport : Walk host kind ⟨.interval .idle, Medium.added p (S.nodeId p)⟩
      ⟨.poll .idle [frameEvent p msg], (Medium.added p (S.nodeId p)).tick .idle⟩ := by
    apply (Walk.refl (by simp [Medium.added, Effect.apply]) _).report _ (by simp)
    apply reportable_node rfl
    apply List.mem_append_right _ (List.mem_singleton_self p)
  have hcall : callHandler host .calm p (blankCksum msg) .handleRegistrationConfirm
      ((Medium.added p (S.nodeId p)).tick .idle) = .ok () ((Effect.confirm p
        (DeviceNode.registering (S.nodeId p)) os osVersion).apply
          ((Medium.added p (S.nodeId p)).tick .idle)) :=
    handleRegistrationConfirm_registering hos hversion hlive hentry
  obtain ⟨procs', hread, houtbox'⟩ :=
    sessions_frame h hreport houtbox hmessage.dispatched hlive hcall
  exact ⟨_, _, procs', hread, hcalm.joined os osVersion, rfl, houtbox'⟩

/-- The node of a program that has sent a data indication transmits its frame. -/
theorem sessions_transmitting {m : Medium} {n : DeviceNode} {procs : NodePtr → Proc}
    {msg : List UInt8} {outbox : List (List UInt8)}
    (h : Session.Reached host kind S ⟨⟨.poll .idle [], m⟩, procs⟩)
    (hjoined : Medium.idle.Joined p n m) (hsocket : n.socket = S.nodeId p)
    (houtbox : (procs p).outbox = msg :: outbox)
    (hmessage : MessageFor host (S.nodeId p) .handleDataIndication msg) :
  ∃ m' n' pkt procs', Session.Reached host kind S ⟨⟨.interval .tx, m'⟩, procs'⟩ ∧
    m'.Transmitting p n' pkt ∧ pkt.pktBuffer = blankCksum msg
  := by
  have hactive := (hjoined.active rfl).tick .idle
  have hround : Walk host kind ⟨.poll .idle [], m⟩
      ⟨.poll .idle [frameEvent p msg], m.tick .idle⟩ := by
    have hrunning : m.state ≠ .stopping := by
      rw [hjoined.calm.state]
      decide
    have hempty : m.regListMap.Walk [] := by
      rw [hjoined.calm.regListMap]
      exact ⟨List.nodup_nil, by simp⟩
    apply ((Walk.refl hrunning _).round hjoined.calm.state hjoined.calm.ccaList hjoined.calm.txList
      hempty).report _ (by simp)
    exact reportable_node rfl (hjoined.active rfl).interest
  obtain ⟨pkt, hclear, -, hbuffer, hhandle⟩ := handleDataIndication_ready
    hmessage.dispatched.received hactive.live ⟨hactive.curState, hactive.txTimer⟩
  have htx := hactive.transmitting hclear (msg.length / 256 % 8 == 2)
  have hframe : Dispatched host n.socket .handleDataIndication msg := by
    rw [hsocket]
    apply hmessage.dispatched
  obtain ⟨procs', hread, -⟩ := sessions_frame h hround houtbox hframe hactive.live hhandle
  refine ⟨_, _, pkt, procs', hread.walk ?_, htx, hbuffer⟩
  exact (Walk.refl (by simp [Effect.apply, hactive.state]) _).busy hactive.ccaList
    (by simp [Effect.apply])

/-- A program sends a frame as soon as it has confirmed its registration, and the frame is multicast
when its time is up. -/
theorem reached_multicast (host : ByteOrder) (kind : Kind) (p : NodePtr) (hnone : S.NoneFails)
    {ind : TxDataInd} (hfits : ind.Fits host) :
  ∃ s k datagram, Session.Reached host kind S s ∧ .multicast p k datagram ∈ s.sys.med.log
  := by
  have hprogram : InStep .told [.send .sendRegCon, .send (.sendTxDataInd ind), .readMsg] :=
    ⟨.joined, rfl, .sending, rfl, .joined, rfl, by simp [InStep]⟩
  have hfitting : Fitting host [.send .sendRegCon, .send (.sendTxDataInd ind), .readMsg] := by
    intro ind' hind
    simp only [List.mem_cons, Call.send.injEq, reduceCtorEq, SendCall.sendTxDataInd.injEq, false_or,
      or_false, List.not_mem_nil] at hind
    rw [hind]
    apply hfits
  obtain ⟨s, node, htold, hsys, hnumber, hproc, -⟩ :=
    reached_told host kind p hnone hprogram hfitting
  obtain ⟨s₁, hconfirmed, hsys₁, hproc₁⟩ := htold.send (by rw [hproc]) (by rw [hproc])
  obtain ⟨⟨sys, procs⟩, hsent, hsys₂, hproc₂⟩ :=
    hconfirmed.send (by rw [hproc₁, hproc]) (by rw [hproc₁])
  have houtbox : (procs p).outbox = [SendCall.sendRegCon.message host (fun _ => 0) (S.nodeId p),
      (SendCall.sendTxDataInd ind).message host (fun _ => 0) (S.nodeId p)] := by
    simp only [hproc₁, hproc, hnumber] at hproc₂
    rw [hproc₂]
    rfl
  simp only [hsys₁, hsys] at hsys₂
  subst hsys₂
  have hconfirm : MessageFor host (S.nodeId p) SendCall.sendRegCon.handler
      (SendCall.sendRegCon.message host (fun _ => 0) (S.nodeId p)) := by
    apply messageFor_call
    rintro ind' ⟨⟩
  have hindication : MessageFor host (S.nodeId p) (SendCall.sendTxDataInd ind).handler
      ((SendCall.sendTxDataInd ind).message host (fun _ => 0) (S.nodeId p)) := by
    apply messageFor_call
    rintro ind' ⟨⟩
    apply hfits
  obtain ⟨m₁, n₁, procs₁, hread, hjoined, hsocket, houtbox₁⟩ :=
    sessions_joined hsent houtbox hconfirm
  obtain ⟨m, n, pkt, procs₂, hbusy, htx, hbuffer⟩ :=
    sessions_transmitting hread hjoined hsocket houtbox₁ hindication
  have hwait := htx.tick .tx
  have hrunning : m.state ≠ .stopping := by
    rw [htx.state]
    decide
  have hpsdu : PsduFits pkt.pktBuffer := by
    rw [hbuffer]
    apply ind.psduFits
  have hexpired : Env.timeUp.Expired p := rfl
  obtain ⟨buf, hdone⟩ := @processTxEntry_fits host _ _ _ _ 0 _ hwait.live hwait.txTimer hexpired
    hwait.curState hwait.txPkt hwait.collision hpsdu
  have hprocess : Walk host kind ⟨.interval .tx, m⟩ ⟨.processTxList 0, m.tick .tx⟩ :=
    (Walk.refl hrunning _).quiet.process hwait.ccaList (by simp [hwait.txList])
  have hstep : runStep host kind .timeUp (.processTxList 0) (m.tick .tx)
      = .ok (.processTxList 0) ((Effect.conclude 0 p n pkt buf).apply (m.tick .tx)) := by
    simp [runStep, hwait.txList, hdone]
  have hconcluded := hprocess.run rfl timeUp_callsSucceed trivial
    (by simp [Effect.apply, hwait.state]) hstep
  refine ⟨_, pkt.id, buf, hbusy.walk hconcluded, ?_⟩
  simp [Effect.apply, concludeEvents, hwait.collision]

theorem multicast_shown_sent :
  ∃ (s₀ : Session) (visits : List (Session × SessionDeed)) (s : Session) (k : PktId)
      (datagram : List UInt8),
    UndisturbedRun .little .powerline .ready s₀ visits s ∧
    .multicast 1 k datagram ∈ s.sys.med.log ∧
    ∃ ind, Sends visits 1 (.sendTxDataInd ind) ∧
      ∀ memory, mcastRxDataPacket .little memory (.received datagram) = .ok (psduLines ind.psdu)
  := by
  have hfits : TxDataInd.Fits .little ⟨0x0102030405060708, 32, 48, -10, 4⟩ := by decide
  obtain ⟨s, k, datagram, ⟨s₀, visits, h⟩, hlog⟩ :=
    reached_multicast .little .powerline 1 Sockets.noneFails_ready hfits
  exact ⟨s₀, visits, s, k, datagram, h, hlog, multicast_shown h hlog⟩

end X6losim
