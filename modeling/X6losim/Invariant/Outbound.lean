import X6losim.Invariant.Halting
import X6losim.Sim.Sending
import X6losim.Sim.Session

/-!
# The streams to the nodes

What is written on the sockets of nodes in a run, for every way in which the calls of `send` turn
out.  The streams stay intact, and no assertion fails, exactly when no call fails for a registration
request and nothing is accepted on a socket after a call has failed within a message.
-/

open Bytes Writes

namespace X6losim

variable {host : ByteOrder} {kind : Kind} {env : Env} {m m' : Medium} {p q : NodePtr}
  {n : DeviceNode} {s s' : Sys} {i : Input} {visits last : List (Sys × Input)}

/-- The ids of nodes, and what the calls of `send` on their sockets come to. -/
structure Sockets where
  nodeId : NodePtr → UInt64
  outcome : NodePtr → Nat → SendOutcome

namespace Sockets

/-- The messages sent to a node, each with the number of the first call of `send` for it. -/
def sends (S : Sockets) (host : ByteOrder) (p : NodePtr) (log : List Event) :
    List (Nat × OutMsg) :=
  X6losim.sends host (S.nodeId p) (S.outcome p) 0 (sentTo p log)

/-- What is written on the socket of a node. -/
def writes (S : Sockets) (host : ByteOrder) (p : NodePtr) (log : List Event) :
    List (Write UInt8) :=
  (S.sends host p log).map (fun c => c.2.write host (S.nodeId p) (S.outcome p) c.1)

/-- The number of the next call of `send` on the socket of a node. -/
def nextCall (S : Sockets) (host : ByteOrder) (p : NodePtr) (log : List Event) : Nat :=
  X6losim.nextCall host (S.nodeId p) (S.outcome p) 0 (sentTo p log)

/-- The bytes accepted on the socket of a node are complete messages, with an incomplete one at
most behind them, after which nothing is written. -/
structure StreamIntact (S : Sockets) (host : ByteOrder) (p : NodePtr) (log : List Event) :
    Prop where
  intact : Intact (S.writes host p log)
  streamed : Streamed (Set.range (OutMsg.bytes host (S.nodeId p))) (contents (S.writes host p log))

/-- In a step that adds a node, `sendMsg` returns what the calls of `send` come to. -/
def Returns (S : Sockets) (host : ByteOrder) (v : Sys × Input) : Prop :=
  ∀ env p socket, v.2 = .addNode env p socket → env.sendMsg =
    (sendMsg (S.outcome p) (S.nextCall host p v.1.med.log)
      (OutMsg.regReq.bytes host (S.nodeId p))).rv

/-- In a step that adds a node, a call of `send` for its registration request fails. -/
def RegReqFails (S : Sockets) (host : ByteOrder) (v : Sys × Input) : Prop :=
  ∃ env p socket, v.2 = .addNode env p socket ∧
    Fails (S.outcome p) (S.nextCall host p v.1.med.log) (OutMsg.regReq.bytes host (S.nodeId p))

/-- A call of `send` for a message fails after another one for it has not. -/
def FailsWithin (S : Sockets) (host : ByteOrder) (p : NodePtr) (c : Nat × OutMsg) : Prop :=
  S.outcome p c.1 ≠ .failed ∧ Fails (S.outcome p) c.1 (c.2.bytes host (S.nodeId p))

/-- Once a call of `send` on the socket of a node has failed within a message, all calls for later
messages fail. -/
def FailsForGood (S : Sockets) (host : ByteOrder) (p : NodePtr) (log : List Event) : Prop :=
  (S.sends host p log).Pairwise (fun c d => S.FailsWithin host p c → S.outcome p d.1 = .failed)

end Sockets

variable {S : Sockets}

theorem contents_writes {log : List Event} :
  contents (S.writes host p log) = ((S.sends host p log).map
    (fun c => (c.2.write host (S.nodeId p) (S.outcome p) c.1).written)).flatten
  := by
  rw [contents, Sockets.writes, List.flatMap_map, List.flatMap_def]

/-- A stream is intact exactly when calls that fail within a message are the last that do not fail
in vain. -/
theorem streamIntact_iff {log : List Event} :
  S.StreamIntact host p log ↔ S.FailsForGood host p log
  := by
  have hintact : Intact (S.writes host p log) ↔ S.FailsForGood host p log := by
    rw [Intact, Sockets.writes, List.pairwise_map, Sockets.FailsForGood]
    simp only [OutMsg.write_broken_iff, OutMsg.write_eq_nil_iff, Sockets.FailsWithin]
  constructor
  · intro h
    apply hintact.mp h.intact
  · intro h
    refine ⟨hintact.mpr h, ?_⟩
    apply (hintact.mpr h).streamed
    intro w hw
    obtain ⟨c, -, rfl⟩ := List.mem_map.mp hw
    exact ⟨c.2, rfl⟩

/-! ### The registration request -/

/-- A node is not added when its registration request is not sent whole. -/
theorem addNode_sent {socket : UInt64} {u : Unit} (h : addNode env p socket m = .ok u m') :
  env.sendMsg = Hdr.size
  := by
  by_contra hsend
  rw [addNode_unsent hsend] at h
  cases h

/-- Where a registration request is sent whole, no call for it has failed. -/
theorem Sockets.Returns.not_fails {x : Sys} {socket : UInt64}
    (h : S.Returns host (x, .addNode env p socket)) (hsend : env.sendMsg = Hdr.size) :
  ¬ S.RegReqFails host (x, .addNode env p socket)
  := by
  rintro ⟨env', p', socket', heq, hfails⟩
  cases heq
  apply OutMsg.rv_eq_iff.mp _ hfails
  rw [← h env p socket rfl, hsend]
  rfl

theorem Sockets.Returns.fails {x : Sys} {socket : UInt64}
    (h : S.Returns host (x, .addNode env p socket)) (hsend : env.sendMsg ≠ Hdr.size) :
  S.RegReqFails host (x, .addNode env p socket)
  := by
  refine ⟨env, p, socket, rfl, ?_⟩
  by_contra hfails
  apply hsend
  rw [h env p socket rfl, OutMsg.rv_eq_iff.mpr hfails]
  rfl

/-- The assertion on the length of the registration request fails only where a node is added. -/
theorem Halt.sendRegistrationRequest
    (h : Halt host s i (.assertion .sendRegistrationRequest) m') :
  ∃ env p socket, i = .addNode env p socket ∧ env.sendMsg ≠ Hdr.size
  := by
  cases h with
  | event _ _ herror =>
      cases herror with
      | read _ _ hread => cases readMsgFrame_error hread
      | handled _ _ _ hhandler => cases hhandler
  | addNode _ herror =>
      cases herror with
      | send hsend => exact ⟨_, _, _, rfl, hsend⟩

/-- It fails exactly where a call of `send` for it fails. -/
theorem regReqFails_iff {e : Stop} (hord : Orderly s)
    (hhalts : (medium host kind).Halts s i (e, m')) (hreturns : S.Returns host (s, i)) :
  S.RegReqFails host (s, i) ↔
    ∃ m', (medium host kind).Halts s i (.assertion .sendRegistrationRequest, m')
  := by
  constructor
  · rintro ⟨env, p, socket, heq, hfails⟩
    have hi : i = .addNode env p socket := heq
    subst hi
    have hsend : env.sendMsg ≠ Hdr.size := by
      intro hsend
      apply hreturns.not_fails hsend ⟨env, p, socket, rfl, hfails⟩
    refine ⟨s.med.asked p socket, hhalts.1, ?_⟩
    simp [medium, Sys.step, stepProg, addNode_unsent hsend]
  · rintro ⟨m₁, hhalts'⟩
    obtain ⟨env, p, socket, rfl, hsend⟩ := (halt_of_halts hord hhalts').sendRegistrationRequest
    apply hreturns.fails hsend

/-! ### Runs -/

/-- In a run, the streams to all nodes are intact and no assertion fails because a message could
not be sent, exactly when no call of `send` for a registration request fails, and no call on a
socket after one has failed within a message succeeds. -/
theorem streams_intact_iff {m : Medium}
    (run : (medium host kind).Run ⟨.start, Medium.new⟩ visits s)
    (hend : Ending host kind s last m) (hreturns : ∀ v ∈ visits ++ last, S.Returns host v) :
  ((∀ p, S.StreamIntact host p m.log) ∧
    ∀ v ∈ last, ∀ m', ¬ (medium host kind).Halts v.1 v.2
      (.assertion .sendRegistrationRequest, m')) ↔
    (∀ p, S.FailsForGood host p m.log) ∧ ∀ v ∈ visits ++ last, ¬ S.RegReqFails host v
  := by
  have hsent : ∀ v ∈ visits, ¬ S.RegReqFails host v := by
    rintro ⟨x, i⟩ hv ⟨env, p, socket, heq, hfails⟩
    have hi : i = .addNode env p socket := heq
    subst hi
    obtain ⟨y, hstep, -⟩ := run.successor hv
    cases hadd : addNode env p socket x.med with
    | error e m₁ => simp [medium, Sys.step, stepProg, hadd] at hstep
    | ok u m₁ =>
        have hreturn := hreturns _ (List.mem_append_left _ hv)
        apply hreturn.not_fails (addNode_sent hadd) ⟨env, p, socket, rfl, hfails⟩
  have hlast : (∀ v ∈ last, ∀ m', ¬ (medium host kind).Halts v.1 v.2
      (.assertion .sendRegistrationRequest, m')) ↔ ∀ v ∈ last, ¬ S.RegReqFails host v := by
    apply forall₂_congr
    intro v hv
    cases hend with
    | here => cases hv
    | halted hhalts =>
        obtain rfl := List.mem_singleton.mp hv
        have hreturn := hreturns _ (List.mem_append_right _ (List.mem_singleton_self _))
        rw [regReqFails_iff (.reachable ⟨_, visits, rfl, run, by simp⟩) hhalts hreturn, not_exists]
  constructor
  · rintro ⟨hintact, hno⟩
    refine ⟨fun p => streamIntact_iff.mp (hintact p), ?_⟩
    intro v hv
    rcases List.mem_append.mp hv with hv | hv
    · apply hsent v hv
    · apply hlast.mp hno v hv
  · rintro ⟨hgood, hno⟩
    refine ⟨fun p => streamIntact_iff.mpr (hgood p), ?_⟩
    apply hlast.mpr
    intro v hv
    apply hno v (List.mem_append_right _ hv)

/-! ### New nodes -/

/-- Only the addition of a node creates it. -/
theorem unborn_apply {eff : Effect} (hguard : eff.Guard m) (q : NodePtr) :
  ((eff.apply m).nodes q = .unborn ↔ m.nodes q = .unborn) ∨ ∃ socket, eff = .add q socket
  := by
  have hupdate : ∀ {p n c}, m.nodes p = .live n → c ≠ .unborn →
      (Function.update m.nodes p c q = .unborn ↔ m.nodes q = .unborn) := by
    intro p n c hlive hc
    by_cases hq : q = p
    · subst hq
      simp [hlive, hc]
    · simp [hq]
  cases eff with
  | failedRead p n =>
      left
      exact hupdate hguard (by simp)
  | confirm p n os osVersion =>
      left
      exact hupdate hguard.1 (by simp)
  | disconnect p n asked =>
      left
      exact hupdate hguard.1 (by simp)
  | request p n =>
      left
      rfl
  | transmit p n pkt itValue =>
      left
      exact hupdate hguard.1 (by simp)
  | answer p rest =>
      left
      rfl
  | collide =>
      left
      simp only [Effect.apply]
      split
      · cases m.nodes q <;> simp [NodeCell.collide]
      · rfl
  | conclude i p n pkt buf =>
      left
      exact hupdate hguard.2.1 (by simp)
  | expire key p n =>
      left
      exact hupdate hguard.2.1 (by simp)
  | dispose map key p n =>
      left
      have hdestroyed := hupdate hguard.2.1 (c := .destroyed) (by simp)
      cases map <;> exact hdestroyed
  | add p socket =>
      by_cases hq : q = p
      · right
        exact ⟨socket, by rw [hq]⟩
      · left
        simp [Effect.apply, hq]

/-- What an effect sends is sent to a node that has been created, or is. -/
theorem sentTo_events {eff : Effect} (hguard : eff.Guard m) (hq : m.nodes q = .unborn) :
  sentTo q (eff.events m) = [] ∨ ∃ socket, eff = .add q socket
  := by
  have hne : ∀ {p n}, m.nodes p = .live n → p ≠ q := by
    rintro p n hlive rfl
    rw [hlive] at hq
    cases hq
  cases eff with
  | add p socket =>
      by_cases hp : p = q
      · right
        exact ⟨socket, by rw [hp]⟩
      · left
        simp [sentTo, Effect.events, Event.msgTo, hp]
  | confirm p n os osVersion =>
      left
      cases hstarted : n.regTimer.started <;>
        simp [sentTo, Effect.events, hstarted, Event.msgTo]
  | disconnect p n asked =>
      left
      rw [Effect.events, sentTo_append, sentTo_deleteEvents, List.append_nil]
      cases asked <;> simp [sentTo, Event.msgTo, hne hguard.1]
  | answer p rest =>
      left
      obtain ⟨-, n, hlive⟩ := hguard
      simp [sentTo, Effect.events, Event.msgTo, hne hlive]
  | conclude i p n pkt buf =>
      left
      cases hcollided : pkt.collision <;>
        simp [sentTo, Effect.events, concludeEvents, Event.msgTo, hcollided, hne hguard.2.1]
  | transmit p n pkt itValue =>
      left
      simp [sentTo, Effect.events, Event.msgTo]
  | expire key p n =>
      left
      apply sentTo_deleteEvents
  | dispose map key p n =>
      left
      apply sentTo_deleteEvents
  | _ =>
      left
      rfl

/-- Messages have been sent to exactly those nodes that have been created. -/
def Medium.Greeted (m : Medium) : Prop := ∀ p, sentTo p m.log = [] ↔ m.nodes p = .unborn

theorem Medium.Greeted.effect {eff : Effect} (h : m.Greeted) (hguard : eff.Guard m) :
  (eff.apply m).Greeted
  := by
  intro p
  rw [Effect.log_apply, sentTo_append, List.append_eq_nil_iff, h p]
  rcases unborn_apply hguard p with hunborn | ⟨socket, rfl⟩
  · rw [hunborn]
    constructor
    · rintro ⟨hborn, -⟩
      apply hborn
    · intro hborn
      refine ⟨hborn, ?_⟩
      rcases sentTo_events hguard hborn with hnone | ⟨socket, rfl⟩
      · apply hnone
      · simp [Effect.apply, hborn] at hunborn
  · simp [Effect.events, sentTo, Event.msgTo, Effect.apply]

theorem Medium.Greeted.effects {effs : List Effect} (h : m.Greeted) (heffs : Effects m effs m') :
  m'.Greeted
  := by
  induction heffs with
  | nil => apply h
  | cons hguard _ ih => apply ih (h.effect hguard)

theorem greeted_reachable (h : (medium host kind).Reachable s) :
  s.med.Greeted
  := by
  apply h.invariant (P := fun s => s.med.Greeted)
  · rintro s rfl p
    simp [Medium.new, sentTo]
  · intro s s' i hs henabled hstep
    cases next_of_step henabled hstep with
    | poll _ _ _ hguard => apply hs.effect hguard
    | answer hguard => apply hs.effect hguard
    | collide _ hguard => apply hs.effect hguard
    | conclude hguard => apply hs.effect hguard
    | @add m env pc p socket =>
        have hguard : (Effect.add p socket).Guard m := trivial
        apply hs.effect hguard
    | sweep heffs => apply hs.effects heffs
    | delete heffs _ heffs' =>
        have hmiddle : Medium.Greeted _ := hs.effects heffs
        apply hmiddle.effects heffs'
    | interval m env ph =>
        intro p
        have hsent : sentTo p [.interval ph.waitms] = [] := rfl
        rw [Medium.record, sentTo_append, hsent, List.append_nil]
        apply hs p
    | _ => apply hs

/-! ### A session -/

/-- A node asks for a clear channel assessment and then to be deregistered. -/
theorem running_leaving (host : ByteOrder) (kind : Kind) (p : NodePtr) (socket : UInt64) :
  ∃ m msgs, Running host kind ⟨.poll .idle [], m⟩ ∧ msgs ≠ [] ∧
    sentTo p m.log = msgs ++ [.ccaCon true, .deregCon]
  := by
  obtain ⟨m₀, n, hrunning, hactive₀, hid⟩ := running_active host kind p socket
  have hsent : sentTo p m₀.log ≠ [] := by
    intro hnone
    have hunborn := (greeted_reachable hrunning.reachable p).mp hnone
    rw [hactive₀.live] at hunborn
    cases hunborn
  have hframe : ∀ handler, Dispatched host socket handler (sealMsg host handler socket []) := by
    intro handler
    apply dispatched_sealMsg (by decide)
    cases host <;> decide
  -- The request is made, and answered in the same round.
  obtain ⟨m₁, hm₁⟩ : ∃ m₁, m₀.tick .idle = m₁ := ⟨_, rfl⟩
  have hactive₁ : m₁.Active p n := by
    rw [← hm₁]
    apply hactive₀.tick
  have hrequest : callHandler host .calm p (blankCksum (sealMsg host .handleCcaRequest socket []))
      .handleCcaRequest m₁ = .ok () ((Effect.request p n).apply m₁) := by
    simp [callHandler, handleCcaRequest_eq hactive₁.live, hactive₁.curState]
  have hreport : Running host kind
      ⟨.poll .idle [frameEvent p (sealMsg host .handleCcaRequest socket [])], m₁⟩ := by
    rw [← hm₁]
    apply hrunning.report _ (by simp)
    apply reportable_node rfl hactive₀.interest
  have hasked := hreport.frame (hframe .handleCcaRequest) hactive₁.live hid hrequest
    (by simp [Effect.apply, hactive₁.state])
  have hlist : ((Effect.request p n).apply m₁).ccaList = p :: [] := by
    simp [Effect.apply, hactive₁.ccaList]
  obtain ⟨m₂, hm₂⟩ : ∃ m₂, (Effect.answer p []).apply ((Effect.request p n).apply m₁) = m₂ :=
    ⟨_, rfl⟩
  have hanswered : Running host kind ⟨.processCcaList .idle, m₂⟩ := by
    rcases processCcaEntry_cons hlist with ⟨-, hentry⟩ | ⟨hgone, -⟩
    · rw [← hm₂]
      apply (hasked.assess hactive₁.txList).run .calm trivial
      · simp [Effect.apply, hactive₁.state]
      · simp [runStep, hlist, hentry]
    · apply absurd hactive₁.live (hgone n)
  have hactive₂ : m₂.Active p n := by
    rw [← hm₂]
    exact ⟨hactive₁.state, rfl, hactive₁.txList, hactive₁.regListMap, hactive₁.nodeHashMap,
      hactive₁.interest, hactive₁.live, hactive₁.curState, hactive₁.txTimer⟩
  have hinner : Running host kind ⟨.inner, m₂⟩ := by
    apply hanswered.run .calm trivial hanswered.2
    simp [runStep, hactive₂.ccaList]
  have hidle : Running host kind ⟨.interval .idle, m₂⟩ := by
    apply hinner.settle hactive₂.state hactive₂.txList
    rw [hactive₂.regListMap]
    exact ⟨List.nodup_nil, by simp⟩
  -- In the next round the node leaves.
  obtain ⟨m₃, hm₃⟩ : ∃ m₃, m₂.tick .idle = m₃ := ⟨_, rfl⟩
  have hactive₃ : m₃.Active p n := by
    rw [← hm₃]
    apply hactive₂.tick
  have hmem : (m₃.regListMap n.socket).isSome ∨ (m₃.nodeHashMap n.socket).isSome := by
    right
    rw [hactive₃.nodeHashMap]
    rfl
  have hreport' : Running host kind
      ⟨.poll .idle [frameEvent p (sealMsg host .handleDeregistrationRequest socket [])], m₃⟩ := by
    rw [← hm₃]
    apply hidle.report _ (by simp)
    apply reportable_node rfl hactive₂.interest
  have hleft := hreport'.frame (hframe .handleDeregistrationRequest) hactive₃.live hid
    (handleDeregistrationRequest_ok hactive₃.live hmem)
    (by simp [Effect.apply, Medium.delete, hactive₃.state])
  refine ⟨_, sentTo p m₀.log, hleft, hsent, ?_⟩
  rw [Effect.log_apply, ← hm₃, ← hm₂, ← hm₁, sentTo_append, Effect.events, sentTo_append,
    sentTo_deleteEvents]
  simp [Medium.tick, Medium.record, Effect.apply, sentTo, List.filterMap_cons, Event.msgTo,
    hactive₀.state]

/-- Calls of `send` that accept a whole message each, but for one, which accepts one byte, and the
next, which fails. -/
def Sockets.within (nodeId : UInt64) (k : Nat) : Sockets where
  nodeId _ := nodeId
  outcome _ j := if j = k then .accepted 0 else if j = k + 1 then .failed else .accepted Hdr.size

/-- When the first call on every socket accepts a whole message, `sendMsg` returns what the calls
come to in all steps of a run. -/
theorem Sockets.returns_run (run : (medium host kind).Run ⟨.start, Medium.new⟩ visits s)
    (h : ∀ p, S.outcome p 0 = .accepted Hdr.size) :
  ∀ v ∈ visits, S.Returns host v
  := by
  rintro ⟨x, i⟩ hv env p socket hi
  have hi' : i = .addNode env p socket := hi
  subst hi'
  obtain ⟨before, hrun, -, henabled⟩ := run.visited hv
  obtain ⟨y, hstep, -⟩ := run.successor hv
  have hgreeted := greeted_reachable ⟨_, before, rfl, hrun, by simp⟩
  have hnone : sentTo p x.med.log = [] := (hgreeted p).mpr henabled.2.1
  have hfirst : S.nextCall host p x.med.log = 0 := by rw [Sockets.nextCall, hnone]; rfl
  cases hadd : addNode env p socket x.med with
  | error e m₁ => simp [medium, Sys.step, stepProg, hadd] at hstep
  | ok u m₁ =>
      rw [hfirst, OutMsg.sendMsg_whole host (S.nodeId p) .regReq (h p)]
      apply addNode_sent hadd

/-- The message of which one byte has been written, with the one behind it, is no stream of
messages. -/
theorem not_streamed (nodeId : UInt64) :
  ¬ Streamed (Set.range (OutMsg.bytes host nodeId)) (0 :: OutMsg.deregCon.bytes host nodeId)
  := by
  rintro ⟨whole, part, hwhole, hpart, heq⟩
  have hlength : (OutMsg.deregCon.bytes host nodeId).length = 18 := OutMsg.length_bytes
  cases whole with
  | nil =>
      have hpart' : part = 0 :: OutMsg.deregCon.bytes host nodeId := by simpa using heq.symm
      rcases hpart with rfl | ⟨_, ⟨msg, rfl⟩, ⟨t, ht⟩, hne⟩
      · cases hpart'
      · have hmsg : (msg.bytes host nodeId).length = 18 + msg.body.length := OutMsg.length_bytes
        have hbody := msg.length_body_le
        have hsum := congrArg List.length ht
        rw [hpart', List.length_append, List.length_cons, hlength] at hsum
        have hempty : t = [] := List.eq_nil_of_length_eq_zero (by omega)
        rw [hempty, List.append_nil] at ht
        apply hne ht
  | cons c whole =>
      obtain ⟨msg, rfl⟩ := hwhole c (List.mem_cons_self ..)
      have hword := congrArg (List.take 2) heq
      rw [List.flatten_cons, List.append_assoc, List.take_append_of_le_length,
        OutMsg.take_bytes, List.take_succ_cons, OutMsg.take_one] at hword
      · have hvalue := congrArg ofBE hword
        have hzero : ofBE [0, 0] = 0 := by decide
        have hbody := msg.length_body_le
        have hsize : Hdr.size = 18 := rfl
        rw [ofBE_toBE, hzero] at hvalue
        omega
      · rw [OutMsg.length_bytes]
        apply le_trans (by decide) (Nat.le_add_right _ _)

/-- A call of `send` fails within a clear channel assessment confirm, and the deregistration
confirm is written behind the byte of it that has been accepted. -/
theorem send_fails_within :
  ∃ (S : Sockets) (visits : _) (s : _),
    (medium .little .powerline).Run ⟨.start, Medium.new⟩ visits s ∧
    (∀ v ∈ visits, S.Returns .little v) ∧
    ¬ Streamed (Set.range (OutMsg.bytes .little (S.nodeId 1)))
      (contents (S.writes .little 1 s.med.log))
  := by
  obtain ⟨m, msgs, hrunning, hne, hsent⟩ := running_leaving .little .powerline 1 7
  obtain ⟨s₀, visits, rfl, run, -⟩ := hrunning.reachable
  obtain ⟨S, hS⟩ : ∃ S, Sockets.within 7 msgs.length = S := ⟨_, rfl⟩
  have hpos : 0 < msgs.length := List.length_pos_iff.mpr hne
  have hwhole : ∀ j, 0 ≤ j → j < 0 + msgs.length → S.outcome 1 j = .accepted Hdr.size := by
    intro j _ hj
    rw [← hS, Sockets.within]
    simp only
    rw [if_neg (by omega), if_neg (by omega)]
  refine ⟨S, visits, _, run, ?_, ?_⟩
  · apply Sockets.returns_run run
    intro p
    rw [← hS]
    simp [Sockets.within, hpos.ne]
  · have hcon : sendMsg (S.outcome 1) msgs.length ((OutMsg.ccaCon true).bytes .little (S.nodeId 1))
        = ⟨[0], -1, msgs.length + 2⟩ := by
      have hfirst : S.outcome 1 msgs.length = .accepted 0 := by rw [← hS]; simp [Sockets.within]
      have hsecond : S.outcome 1 (msgs.length + 1) = .failed := by rw [← hS]; simp [Sockets.within]
      rw [sendMsg, sendLoop_part hfirst]
      · simp only [Nat.zero_add, sendLoop_failed hsecond, OutMsg.take_one, List.append_nil]
      · rw [OutMsg.length_bytes]
        decide
    have hlast : S.outcome 1 (msgs.length + 2) = .accepted Hdr.size := by
      rw [← hS]
      simp [Sockets.within]
    obtain ⟨hnext, hwritten⟩ :
        nextCall .little (S.nodeId 1) (S.outcome 1) 0 msgs = 0 + msgs.length ∧ _ :=
      sends_whole (S.nodeId 1) hwhole
    have hsends : S.sends .little 1 m.log
        = sends .little (S.nodeId 1) (S.outcome 1) 0 msgs ++
          [(msgs.length, .ccaCon true), (msgs.length + 2, .deregCon)] := by
      rw [Sockets.sends, hsent, sends_append, hnext, Nat.zero_add]
      simp only [sends, hcon]
    rw [contents_writes, hsends, List.map_append, List.flatten_append, hwritten]
    rw [(selfDelimiting_bytes .little (S.nodeId 1)).streamed_flatten]
    · have hdereg := OutMsg.deregCon.sendMsg_whole .little (S.nodeId 1) hlast
      have htail : ([(msgs.length, OutMsg.ccaCon true), (msgs.length + 2, .deregCon)].map
          (fun c => (c.2.write .little (S.nodeId 1) (S.outcome 1) c.1).written)).flatten
          = 0 :: OutMsg.deregCon.bytes .little (S.nodeId 1) := by
        simp [OutMsg.write, hcon, hdereg]
      rw [htail]
      apply not_streamed
    · intro c hc
      obtain ⟨msg, -, rfl⟩ := List.mem_map.mp hc
      exact ⟨msg, rfl⟩

/-- When every call of `send` accepts a whole message, the stream to a node that leaves is
intact. -/
theorem streams_intact_leaving :
  ∃ (S : Sockets) (visits : _) (s : _),
    (medium .little .powerline).Run ⟨.start, Medium.new⟩ visits s ∧
    sentTo 1 s.med.log ≠ [] ∧ S.StreamIntact .little 1 s.med.log
  := by
  obtain ⟨m, msgs, hrunning, hne, hsent⟩ := running_leaving .little .powerline 1 7
  obtain ⟨s₀, visits, rfl, run, -⟩ := hrunning.reachable
  obtain ⟨S, hS⟩ : ∃ S : Sockets, ∀ p j, S.outcome p j = .accepted Hdr.size :=
    ⟨⟨fun _ => 7, fun _ _ => .accepted Hdr.size⟩, fun _ _ => rfl⟩
  have hreturns := Sockets.returns_run run (fun p => hS p 0)
  have hfails : ∀ {p k} {msg : OutMsg},
      ¬ Fails (S.outcome p) k (msg.bytes .little (S.nodeId p)) := by
    intro p k msg
    apply OutMsg.rv_eq_iff.mp
    rw [msg.sendMsg_whole .little (S.nodeId p) (hS p k)]
  refine ⟨S, visits, _, run, by simp [hsent], ?_⟩
  apply ((streams_intact_iff run .here (by simpa using hreturns)).mpr ⟨?_, ?_⟩).1 1
  · intro p
    apply List.pairwise_of_forall
    intro c d hwithin
    apply absurd hwithin.2 hfails
  · rintro ⟨x, i⟩ - ⟨env, p, socket, -, hregReq⟩
    apply hfails hregReq

end X6losim
