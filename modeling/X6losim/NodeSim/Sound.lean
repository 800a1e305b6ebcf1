import X6losim.NodeSim.InStep

/-!
# Runs of programs in step

Along every undisturbed run of a medium and test programs that are in step, however their steps
interleave, each program and its node go on with one conversation.  So the simulator stops only
where a call to the system fails, and a program only at the end of what its node has sent before it
was deleted; and where a program waits for a message, its node still has to be added, or owes it the
message.
-/

open Bytes Writes

namespace X6losim

open NodeSim

variable {host : ByteOrder} {kind : Kind} {m m' : Medium} {p q : NodePtr} {n : DeviceNode}
  {S : Sockets} {i : Input}

theorem HandlerEffect.handles {handler : Handler} {eff : Effect}
    (h : HandlerEffect p n handler eff) :
  eff.handles p = some handler
  := by
  cases h <;> simp [Effect.handles]

/-- Every program and its node are somewhere in their conversation. -/
structure Session.Sound (host : ByteOrder) (S : Sockets) (s : Session) : Prop where
  noneCutOff : NoneCutOff s.sys
  carrying : Carrying host (fun _ => Indication host) s.sys.med
  numbered : ∀ p, (s.sys.med.nodes p).Numbered (S.nodeId p)
  talks : ∀ p, (s.procs p).Talks host (S.nodeId p) (s.sys.med.nodes p).standing
    (s.sys.med.ccaList.count p) (sentTo p s.sys.med.log)

namespace Session.Sound

variable {s : Session}

theorem initial (hinit : (sessions host kind S).init s)
    (hfitting : ∀ p, Fitting host (s.procs p).rest) :
  s.Sound host S
  := by
  obtain ⟨hsys, hprocs⟩ := hinit
  constructor
  · rw [hsys]
    apply NoneCutOff.initial
  · rw [hsys]
    apply Carrying.initial
  · intro p id' state hthere
    rw [hsys] at hthere
    cases hthere
  · intro p
    obtain ⟨node, program, hprogram, hproc⟩ := hprocs p
    have hfits := hfitting p
    rw [hproc] at hfits
    rw [hsys, hproc]
    apply Proc.Talks.initial hprogram hfits

/-- The message that is there whole is one that its node does not refuse, and the handler is called
for it. -/
theorem dispatched {ev : PollEvent} (h : s.Sound host S) (hfirst : (s.procs p).FirstWhole ev)
    (hlive : s.sys.med.nodes p = .live n) :
  ∃ handler msg more, MessageFor host (S.nodeId p) handler msg ∧ msg ∈ (s.procs p).outbox ∧
    readMsgFrame host n.getNodeId ev.delivery ev.unread
      = .ok (.call handler (blankCksum msg)) more ∧
    (s.procs p).bytesRead (ev.unread.length - more.length) = (s.procs p).messageRead ∧
    n.curState.refusal handler = none ∧
    (n.curState = .tx → handler ≠ .handleDeregistrationRequest) ∧
    ∀ {sent standing' k'}, NodeNext (S.nodeId p) (s.sys.med.nodes p).standing
      (s.sys.med.ccaList.count p) (some handler) sent standing' k' →
        (s.procs p).messageRead.Talks host (S.nodeId p) standing' k'
          (sentTo p s.sys.med.log ++ sent)
  := by
  obtain ⟨msg, outbox, more, houtbox, hunread, hwhole⟩ := hfirst
  have hsocket := (h.numbered p).socket hlive
  have hstanding : (s.sys.med.nodes p).standing = .there (S.nodeId p) n.curState := by
    rw [hlive, ← hsocket]
    rfl
  have htalks := h.talks p
  rw [hstanding] at htalks
  obtain ⟨handler, hmessage, hrefusal, hnot, hturn⟩ := htalks.first houtbox
  have hread : readMsgFrame host n.getNodeId ev.delivery ev.unread
      = .ok (.call handler (blankCksum msg)) more := by
    rw [DeviceNode.getNodeId, hsocket, hunread]
    apply hmessage.dispatched.whole _ _ hwhole
  have hmem : msg ∈ (s.procs p).outbox := by
    rw [houtbox]
    apply List.mem_cons_self
  have hbytes : (s.procs p).bytesRead (ev.unread.length - more.length)
      = (s.procs p).messageRead := by
    have hnonempty : msg ≠ [] := by
      rintro rfl
      apply absurd hmessage.dispatched.size (by decide)
    rw [hunread, List.length_append, Nat.add_sub_cancel]
    apply Proc.bytesRead_message houtbox hnonempty
  rw [hstanding]
  exact ⟨handler, msg, more, hmessage, hmem, hread, hbytes, hrefusal, hnot, hturn⟩

/-- No event that is reported as it is disconnects a node that transmits. -/
theorem not_cutsOff (h : s.Sound host S) (henabled : s.Enabled host S (.thread i))
    (hwhole : s.Whole host S (.thread i)) :
  ¬ CutsOff host s.sys i
  := by
  obtain ⟨-, -, -, hreports⟩ := henabled
  obtain ⟨sys, procs⟩ := s
  intro hcut
  cases hcut with
  | @event m env ph ev evs p n hdata hlive hp hdisconnects =>
      have hstate := (h.noneCutOff.consistent.transmitting hp hlive).1
      by_cases hrdhup : ev.rdhup
      · apply (h.talks p).closed_not_tx ((hreports ph ev evs p rfl hdata).closed hrdhup) n.socket
        simp only [hlive, NodeCell.standing, hstate]
      · obtain ⟨hinput, msg, rest, hread⟩ := hdisconnects.resolve_left hrdhup
        have hframe : Sys.frameFrom ⟨.poll ph (ev :: evs), m⟩ (.run env) = some p := by
          simp [Sys.frameFrom, hrdhup, hinput, hdata]
        obtain ⟨handler, msg', more, -, -, hread', -, -, hnot, -⟩ :=
          h.dispatched (hwhole p hframe ph ev evs rfl) hlive
        rw [hread] at hread'
        cases hread'
        apply hnot hstate rfl

/-- The message that a step reads from a program is taken by its node. -/
theorem read {sys : Sys} (h : s.Sound host S) (hwhole : s.Whole host S (.thread i))
    (hstep : s.sys.step host kind i = .ok sys) (hframe : s.sys.frameFrom i = some p) :
  s.read host i p = (s.procs p).messageRead ∧
    ∃ handler, s.sys.med.Turns (S.nodeId p) p (some handler) sys.med ∧
      ∀ {sent standing' k'}, NodeNext (S.nodeId p) (s.sys.med.nodes p).standing
        (s.sys.med.ccaList.count p) (some handler) sent standing' k' →
          (s.procs p).messageRead.Talks host (S.nodeId p) standing' k'
            (sentTo p s.sys.med.log ++ sent)
  := by
  obtain ⟨⟨pc, m⟩, procs⟩ := s
  obtain ⟨ph, ev, evs, env, rfl, rfl, hdata, hrdhup, hinput⟩ := frameFrom_eq_some hframe
  obtain ⟨n, hlive⟩ : ∃ n, m.nodes p = .live n := by
    rcases h.noneCutOff.orderly.event with hother | ⟨q, n, hdata', hlive⟩
    · rw [hother] at hdata
      cases hdata
    · rw [hdata'] at hdata
      cases hdata
      exact ⟨n, hlive⟩
  obtain ⟨handler, msg, more, -, -, hread, hbytes, -, -, hturn⟩ :=
    h.dispatched (hwhole p hframe ph ev evs rfl) hlive
  constructor
  · simp only [Session.read, if_pos hframe, Sys.bytesFrom, hlive, hread, hbytes]
  · cases hevent : processPollerEvent host env ev m with
    | error e m₁ => simp [Sys.step, stepProg, runStep, hevent] at hstep
    | ok goOn m₁ =>
        obtain ⟨rfl, eff, heff, hguard, rfl⟩ :=
          processPollerEvent_dispatched hdata hlive hrdhup hinput hread hevent
        simp [Sys.step, stepProg, runStep, hevent] at hstep
        subst hstep
        refine ⟨handler, ?_, hturn⟩
        rw [← heff.handles]
        apply turns_of_effect hguard (h.numbered p)
        rintro socket rfl
        cases heff

/-- A step of a thread goes on with every conversation. -/
theorem thread {sys : Sys} (h : s.Sound host S) (henabled : s.Enabled host S (.thread i))
    (hwhole : s.Whole host S (.thread i)) (hstep : s.sys.step host kind i = .ok sys) :
  Session.Sound host S ⟨sys, s.read host i⟩
  := by
  have hmay := henabled.1
  have hnext := next_of_step hmay hstep
  have hother : ∀ p, s.sys.frameFrom i ≠ some p →
      s.sys.med.Turns (S.nodeId p) p none sys.med := by
    intro p hframe
    apply turns_of_next hnext hframe (h.numbered p)
    rintro env q socket hi rfl
    apply henabled.2.1 env q socket hi
  have hgood : ∀ p msg, Indicates host s.sys i p msg → Indication host msg := by
    intro p msg hind
    obtain ⟨sys₀, procs⟩ := s
    cases hind with
    | @event m env ph ev evs p n msg rest hdata hlive hrdhup hinput hread =>
        have hframe : Sys.frameFrom ⟨.poll ph (ev :: evs), m⟩ (.run env) = some p := by
          simp [Sys.frameFrom, hrdhup, hinput, hdata]
        obtain ⟨handler, msg', more, hmessage, -, hread', -⟩ :=
          h.dispatched (hwhole p hframe ph ev evs rfl) hlive
        rw [hread] at hread'
        cases hread'
        apply hmessage.indication rfl
  constructor
  · apply h.noneCutOff.next (h.not_cutsOff henabled hwhole) hnext
  · apply h.carrying.next (pktNext_of_step hmay hstep) hgood
  · intro p
    by_cases hframe : s.sys.frameFrom i = some p
    · obtain ⟨-, handler, hturns, -⟩ := h.read hwhole hstep hframe
      apply hturns.numbered (h.numbered p)
    · apply (hother p hframe).numbered (h.numbered p)
  · intro p
    by_cases hframe : s.sys.frameFrom i = some p
    · obtain ⟨hread, handler, ⟨sent, hlog, hturn⟩, htalks⟩ := h.read hwhole hstep hframe
      simp only [hread, hlog]
      apply htalks hturn
    · obtain ⟨sent, hlog, hturn⟩ := hother p hframe
      simp only [Session.read, if_neg hframe, hlog]
      apply (h.talks p).turn hturn

/-- What is on its way to a program, when no call of `send` fails. -/
theorem unread_eq (hnone : S.NoneFails) (s : Session) (p : NodePtr) :
  s.unread host S p = ((sentTo p s.sys.med.log).map
    (OutMsg.bytes host (S.nodeId p))).flatten.drop (s.procs p).received
  := by
  rw [Session.unread, hnone.contents_writes]

/-- What is there for a program that may make its next call. -/
theorem call {env : CallEnv} (h : s.Sound host S) (hnone : S.NoneFails)
    (henabled : s.Enabled host S (.call p env)) (hwhole : s.Whole host S (.call p env)) :
  (∃ proc, (s.procs p).call host env = .ok proc ∧
      proc.Talks host (S.nodeId p) (s.sys.med.nodes p).standing (s.sys.med.ccaList.count p)
        (sentTo p s.sys.med.log)) ∨
    (∃ f, (s.procs p).call host env = .error f) ∧
      s.sys.med.nodes p = .destroyed ∧ s.unread host S p = []
  := by
  obtain ⟨hopen, hthere, hdatagram⟩ := henabled
  obtain ⟨haccepted, hall⟩ := hwhole
  have hthere' : ∀ rest, (s.procs p).rest = .readMsg :: rest →
      env.there = s.unread host S p ∧
        (s.unread host S p ≠ [] ∨ (s.sys.med.nodes p).standing = .gone) := by
    intro rest hrest
    refine ⟨hall rest hrest, ?_⟩
    rcases (hthere rest hrest).2 with hbytes | ⟨-, hdestroyed⟩
    · rw [hall rest hrest] at hbytes
      exact Or.inl hbytes
    · right
      rw [hdestroyed]
      rfl
  have hshown : ∀ rest, (s.procs p).rest = .mcastRxDataPacket :: rest →
      ∃ shown, mcastRxDataPacket host env.memory (.received env.datagram) = .ok shown := by
    intro rest hrest
    obtain ⟨q, k, hlog⟩ := hdatagram rest hrest
    obtain ⟨msg, ⟨memory', nodeId, ind, hfits, rfl⟩, hrelays⟩ := h.carrying.relays hlog
    rw [mcastRxDataPacket_relayed memory' env.memory nodeId ind hrelays, if_pos hfits.2]
    exact ⟨_, rfl⟩
  rcases (h.talks p).call hopen (unread_eq hnone s p).symm haccepted hthere' hshown with
    hok | ⟨herror, hgone, hbytes⟩
  · left
    apply hok
  · right
    refine ⟨herror, ?_, hbytes⟩
    cases hcell : s.sys.med.nodes p with
    | unborn => simp [hcell, NodeCell.standing] at hgone
    | live n => simp [hcell, NodeCell.standing] at hgone
    | destroyed => rfl

/-- Whatever is done goes on with every conversation, if nothing disturbs it. -/
theorem next {s' : Session} {deed : SessionDeed} (h : s.Sound host S) (hnone : S.NoneFails)
    (henabled : (sessions host kind S).enabled s deed) (hwhole : s.Whole host S deed)
    (hstep : (sessions host kind S).step s deed = .ok s') :
  s'.Sound host S
  := by
  cases deed with
  | thread i =>
      cases hsys : s.sys.step host kind i with
      | error e => simp [sessions, Session.step, hsys] at hstep
      | ok sys =>
          simp [sessions, Session.step, hsys] at hstep
          rw [← hstep]
          apply h.thread henabled hwhole hsys
  | call p env =>
      have hmay : s.Enabled host S (.call p env) := henabled
      rcases h.call hnone hmay hwhole with ⟨proc, hcall, htalks⟩ | ⟨⟨f, hcall⟩, -⟩
      · simp [sessions, Session.step, hcall] at hstep
        rw [← hstep]
        refine ⟨h.noneCutOff, h.carrying, h.numbered, ?_⟩
        intro q
        by_cases hq : q = p
        · subst hq
          simp only [Function.update_self]
          apply htalks
        · simp only [Function.update_of_ne hq]
          apply h.talks q
      · simp [sessions, Session.step, hcall] at hstep

end Session.Sound

/-- A state in which an undisturbed run ends. -/
def Session.Reached (host : ByteOrder) (kind : Kind) (S : Sockets) (s : Session) : Prop :=
  ∃ s₀ visits, UndisturbedRun host kind S s₀ visits s

namespace Session.Reached

theorem step {s s' : Session} (deed : SessionDeed) (h : s.Reached host kind S)
    (henabled : s.Enabled host S deed) (hwhole : s.Whole host S deed)
    (hstep : s.step host kind deed = .ok s') :
  s'.Reached host kind S
  := by
  obtain ⟨s₀, visits, hinit, run, hfitting, hnone, hgood⟩ := h
  refine ⟨s₀, visits ++ [(s, deed)], hinit, run.snoc henabled hstep, hfitting, hnone, ?_⟩
  intro v hv
  rcases List.mem_append.mp hv with hv | hv
  · apply hgood v hv
  · obtain rfl := List.mem_singleton.mp hv
    apply hwhole

/-- A step of a thread in which it processes no event. -/
theorem thread {pc : Pc} {sys : Sys} {procs : NodePtr → Proc}
    (h : Session.Reached host kind S ⟨⟨pc, m⟩, procs⟩) (hquiet : pc.quiet)
    (henabled : Sys.Enabled ⟨pc, m⟩ i)
    (hadd : ∀ env p socket, i = .addNode env p socket → socket = S.nodeId p)
    (hreturns : S.Returns host (⟨pc, m⟩, i)) (hstep : Sys.step host kind ⟨pc, m⟩ i = .ok sys) :
  Session.Reached host kind S ⟨sys, procs⟩
  := by
  have hpoll : ∀ ph ev evs, pc ≠ .poll ph (ev :: evs) := by
    rintro ph ev evs rfl
    cases hquiet
  have hframe : ∀ p, Sys.frameFrom ⟨pc, m⟩ i ≠ some p := by
    intro p hframe
    obtain ⟨ph, ev, evs, -, hpc, -⟩ := frameFrom_eq_some hframe
    apply hpoll ph ev evs hpc
  have hread : Session.read host ⟨⟨pc, m⟩, procs⟩ i = procs := by
    funext p
    rw [Session.read, if_neg (hframe p)]
  refine h.step (.thread i) ⟨henabled, hadd, hreturns, ?_⟩ ?_ ?_
  · intro ph ev evs p hpc
    apply absurd hpc (hpoll ph ev evs)
  · intro p hp
    apply absurd hp (hframe p)
  · simp only [Session.step, hstep, hread]

/-- A walk of the thread. -/
theorem walk {sys sys' : Sys} {procs : NodePtr → Proc}
    (h : Session.Reached host kind S ⟨sys, procs⟩) (hwalk : Walk host kind sys sys') :
  Session.Reached host kind S ⟨sys', procs⟩
  := by
  obtain ⟨hstrides, -⟩ := hwalk
  induction hstrides with
  | refl => apply h
  | @tail sys₁ sys₂ _ hstride ih =>
      obtain ⟨hquiet, env, henabled, hstep, -⟩ := hstride
      refine ih.thread hquiet henabled (by simp) (by simp [Sockets.Returns]) ?_
      simp only [Sys.step, stepProg, hstep]

/-- A program makes its next call. -/
theorem call {s : Session} {env : CallEnv} {proc : Proc} (h : s.Reached host kind S)
    (henabled : s.Enabled host S (.call p env)) (hwhole : s.Whole host S (.call p env))
    (hcall : (s.procs p).call host env = .ok proc) :
  Session.Reached host kind S { s with procs := Function.update s.procs p proc }
  := by
  apply h.step (.call p env) henabled hwhole
  simp only [Session.step, hcall]

/-- A program sends its next message. -/
theorem send {s : Session} {call : SendCall} {rest : List Call} (h : s.Reached host kind S)
    (hopen : (s.procs p).closed = false) (hrest : (s.procs p).rest = .send call :: rest) :
  ∃ s', Session.Reached host kind S s' ∧ s'.sys = s.sys ∧
    s'.procs p = { s.procs p with
      rest
      outbox := (s.procs p).outbox ++ [call.message host (fun _ => 0) (s.procs p).node.nodeId] }
  := by
  let msg := call.message host (fun _ => 0) (s.procs p).node.nodeId
  have hcall : (s.procs p).call host ⟨fun _ => 0, msg.length, [], []⟩ = .ok { s.procs p with
        rest
        outbox := (s.procs p).outbox ++ [msg] } := by
    simp only [Proc.call, hrest, msg, List.take_length]
  have hother : ∀ {rest' call'}, (s.procs p).rest = call' :: rest' → call' = .send call := by
    intro rest' call' heq
    rw [hrest] at heq
    cases heq
    rfl
  refine ⟨_, h.call ⟨hopen, ?_, ?_⟩ ⟨?_, ?_⟩ hcall, rfl, Function.update_self ..⟩
  · intro rest' heq
    cases hother heq
  · intro rest' heq
    cases hother heq
  · intro call' rest' heq
    cases hother heq
    apply le_refl
  · intro rest' heq
    cases hother heq

end Session.Reached

/-- A node has been added, and its program has not received the registration request. -/
theorem reached_added (host : ByteOrder) (kind : Kind) (p : NodePtr) (hnone : S.NoneFails)
    {program : List Call} (hinStep : InStep .invited program) (hfitting : Fitting host program) :
  ∃ procs node,
    Session.Reached host kind S ⟨⟨.interval .idle, Medium.added p (S.nodeId p)⟩, procs⟩ ∧
    procs p = Proc.new node program
  := by
  obtain ⟨node⟩ : Nonempty NodeSim := ⟨⟨0, List.replicate 256 0, List.length_replicate⟩⟩
  have hstart : Session.Reached host kind S
      ⟨⟨.start, Medium.new⟩, fun _ => Proc.new node program⟩ := by
    refine ⟨_, [], ⟨rfl, ?_⟩, .nil _, fun _ => hfitting, hnone, by simp⟩
    intro q
    exact ⟨node, program, hinStep, rfl⟩
  have hinterval : Session.Reached host kind S
      ⟨⟨.interval .idle, Medium.idle⟩, fun _ => Proc.new node program⟩ := by
    have hstarted : Walk host kind ⟨.start, Medium.new⟩ ⟨.outer, Medium.idle⟩ :=
      (Walk.refl (by simp [Medium.new]) _).run rfl calm_callsSucceed trivial
        (by simp [Medium.idle]) rfl
    exact hstart.walk (hstarted.run rfl calm_callsSucceed trivial (by simp [Medium.idle]) rfl)
  have hadd : addNode .calm p (S.nodeId p) Medium.idle = .ok () (Medium.added p (S.nodeId p)) :=
    addNode_ok rfl rfl rfl rfl p (S.nodeId p) _
  refine ⟨_, node, hinterval.thread (i := .addNode .calm p (S.nodeId p)) rfl
    ⟨by simp, fresh_idle p (S.nodeId p)⟩ ?_ ?_ ?_, rfl⟩
  · rintro env q socket ⟨⟩
    rfl
  · rintro env q socket ⟨⟩
    symm
    apply OutMsg.rv_eq_iff.mpr
    apply not_fails (hnone p)
  · simp [Sys.step, stepProg, hadd]

/-- A program has been told its number, and has not sent anything. -/
theorem reached_told (host : ByteOrder) (kind : Kind) (p : NodePtr) (hnone : S.NoneFails)
    {program : List Call} (hprogram : InStep .told program) (hfitting : Fitting host program) :
  ∃ s node, Session.Reached host kind S s ∧
    s.sys = ⟨.interval .idle, Medium.added p (S.nodeId p)⟩ ∧ node.nodeId = S.nodeId p ∧
    s.procs p = ⟨node, program, [], Hdr.size, false⟩ ∧ s.unread host S p = []
  := by
  have hfits : Fitting host (.readMsg :: program) := by
    intro ind hind
    apply hfitting ind
    simpa using hind
  have hinStep : InStep .invited (.readMsg :: program) := ⟨.told, rfl, hprogram⟩
  obtain ⟨procs, node, hadded, hproc⟩ := reached_added host kind p hnone hinStep hfits
  have hsent : sentTo p (Medium.added p (S.nodeId p)).log = [.regReq] := by
    simp [Medium.added, Effect.apply, sentTo, Event.msgTo, Medium.new, List.filterMap_cons]
  have hunread : Session.unread host S ⟨⟨.interval .idle, Medium.added p (S.nodeId p)⟩, procs⟩ p
      = OutMsg.bytes host (S.nodeId p) .regReq := by
    rw [Session.Sound.unread_eq hnone]
    simp [hsent, hproc, Proc.new]
  obtain ⟨node', hread, hnumber⟩ := readMsg_bytes host (S.nodeId p) .regReq node
  have hcall : (procs p).call host
      ⟨fun _ => 0, 0, OutMsg.bytes host (S.nodeId p) .regReq, []⟩
      = .ok ⟨node', program, [], Hdr.size, false⟩ := by
    simp only [hproc, Proc.call, Proc.new, hread]
    rw [OutMsg.length_bytes]
    rfl
  have hrest : (procs p).rest = .readMsg :: program := by rw [hproc]; rfl
  refine ⟨_, node', hadded.call ⟨?_, ?_, ?_⟩ ⟨?_, ?_⟩ hcall, rfl, hnumber,
    Function.update_self .., ?_⟩
  · simp [hproc, Proc.new]
  · intro rest _
    rw [hunread]
    refine ⟨List.prefix_rfl, Or.inl ?_⟩
    apply List.ne_nil_of_length_pos
    rw [OutMsg.length_bytes]
    decide
  · intro rest hother
    rw [hrest] at hother
    cases hother
  · intro call rest hother
    rw [hrest] at hother
    cases hother
  · intro rest _
    rw [hunread]
  · rw [Session.Sound.unread_eq hnone]
    simp only [hsent, Function.update_self, List.map_cons, List.map_nil,
      List.flatten_cons, List.flatten_nil, List.append_nil]
    apply List.drop_of_length_le
    rw [OutMsg.length_bytes]
    decide

/-- Every socket has the number of its node, and takes every message at once. -/
def Sockets.ready : Sockets where
  nodeId p := UInt64.ofNat p
  outcome _ _ := .accepted Hdr.size

theorem Sockets.noneFails_ready :
  Sockets.ready.NoneFails
  := by
  intro p k
  simp [ready]

end X6losim
