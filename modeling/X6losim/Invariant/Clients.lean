import X6losim.Invariant.Transmit
import X6losim.Sim.Clients

/-!
# Nodes that follow their clients

The state a medium keeps for a node is behind its client by the frames that have not been read, and
ahead of it by the answers that have not been received.  `Client.Follows` relates the two: the node
takes what its client has sent.  What the client does keeps the relation, and so does a step of the
medium.
-/

open Bytes

namespace X6losim

variable {host : ByteOrder} {kind : Kind} {m m' m'' : Medium} {p q : NodePtr} {n : DeviceNode}
  {c : Client} {state state' : NodeState} {sent sent' : List OutMsg} {view : Option NodeState}

/-! ### A client and its node -/

/-- A node will take what its client has sent, and be in the state `view` of it then. -/
structure Client.Follows (c : Client) (state : NodeState) (sent : List OutMsg)
    (view : Option NodeState) : Prop where
  takes : Takes state (c.outbox.map Prod.fst) view
  /-- A client that has not confirmed its registration has sent nothing. -/
  confirmed : c.confirmed = false ↔ view = some .registering
  /-- Its data indications have been answered, but for the one that is transmitted then. -/
  dataInds : ∀ last, view = some last →
    c.dataInds = sent.countP OutMsg.isTxDone + if last = .tx then 1 else 0
  closed : c.closed → c.Answered sent

theorem Client.new_follows (sent : List OutMsg) (hsent : sent.countP OutMsg.isTxDone = 0) :
  Client.new.Follows .registering sent (some .registering)
  where
  takes := .nil _
  confirmed := by simp [Client.new]
  dataInds last hlast := by
    cases hlast
    simp [Client.new, hsent]
  closed hclosed := by cases hclosed

/-- A client knows of no more transmissions that are done than are done. -/
theorem Client.txDones_le (c : Client) (sent : List OutMsg) :
  c.txDones sent ≤ sent.countP OutMsg.isTxDone
  := (List.take_sublist ..).countP_le

/-- What a client knows of stays so when more is sent. -/
theorem Client.Answered.more (h : c.Answered sent) (hgrow : sent <+: sent') :
  c.Answered sent'
  := le_trans h (hgrow.take c.received).sublist.countP_le

namespace Client.Follows

/-- While the node of a client transmits, the client has not got its answer. -/
theorem not_answered (h : c.Follows .tx sent view) :
  ¬ c.Answered sent
  := by
  intro hanswered
  have hcount := h.dataInds .tx h.takes.txDone.1
  have hle := le_trans hanswered (c.txDones_le sent)
  rw [if_pos rfl] at hcount
  omega

/-- When a client has got all answers, its node will not be transmitting. -/
theorem answered (h : c.Follows state sent view) (hanswered : c.Answered sent) :
  view ≠ some .tx
  := by
  intro hview
  have hcount := h.dataInds .tx hview
  have hle := le_trans hanswered (c.txDones_le sent)
  rw [if_pos rfl] at hcount
  omega

/-- Messages are sent to a client, and no transmission is done. -/
theorem more (h : c.Follows state sent view) (hgrow : sent <+: sent')
    (hsame : sent'.countP OutMsg.isTxDone = sent.countP OutMsg.isTxDone) :
  c.Follows state sent' view
  where
  takes := h.takes
  confirmed := h.confirmed
  dataInds last hlast := by
    rw [hsame]
    apply h.dataInds last hlast
  closed hclosed := (h.closed hclosed).more hgrow

/-- The transmission of a node is done, and its client is told so. -/
theorem txDone (h : c.Follows .tx sent view) (hgrow : sent <+: sent')
    (hone : sent'.countP OutMsg.isTxDone = sent.countP OutMsg.isTxDone + 1) :
  c.Follows .active sent' (some .active)
  := by
  obtain ⟨hview, hactive⟩ := h.takes.txDone
  constructor
  · apply hactive
  · rw [h.confirmed, hview]
    simp
  · intro last hlast
    cases hlast
    rw [hone, h.dataInds .tx hview]
    simp
  · intro hclosed
    apply (h.closed hclosed).more hgrow

/-- A client that keeps to the protocol sends a message. -/
theorem send {handler : Handler} (h : c.Follows state sent view) (hopen : c.closed = false)
    (hmay : c.MaySend sent handler) (frame : List UInt8) :
  ∃ view', (c.send handler frame).Follows state sent view'
  := by
  have houtbox : (c.send handler frame).outbox.map Prod.fst
      = c.outbox.map Prod.fst ++ [handler] := by
    rw [Client.send, List.map_append]
    rfl
  have hclosed : ¬ (c.send handler frame).closed := by simp [Client.send, hopen]
  cases hview : view with
  | none =>
      have htakes := h.takes
      have hconfirmed := h.confirmed
      rw [hview] at htakes hconfirmed
      use none
      constructor
      · rw [houtbox]
        apply htakes.append_none
      · simp at hconfirmed
        simp [Client.send, hconfirmed]
      · intro last hlast
        cases hlast
      · intro hclose
        apply absurd hclose hclosed
  | some last =>
      have htakes := h.takes
      have hconfirmed := h.confirmed
      have hcount := h.dataInds last hview
      rw [hview] at htakes hconfirmed
      have hfollows : ∀ view', Takes last [handler] view' →
          ((c.send handler frame).confirmed = false ↔ view' = some .registering) →
          (∀ last', view' = some last' → (c.send handler frame).dataInds
            = sent.countP OutMsg.isTxDone + if last' = .tx then 1 else 0) →
          (c.send handler frame).Follows state sent view' := by
        intro view' htake hconfirmed' hcount'
        constructor
        · rw [houtbox]
          apply htakes.append htake
        · apply hconfirmed'
        · apply hcount'
        · intro hclose
          apply absurd hclose hclosed
      cases handler with
      | handleRegistrationConfirm =>
          obtain rfl := Option.some.inj (hconfirmed.mp hmay)
          use some .active
          apply hfollows _ (.regCon (.nil _))
          · simp [Client.send]
          · intro last' hlast'
            cases hlast'
            simpa [Client.send] using hcount
      | handleDeregistrationRequest =>
          have hnot := h.answered hmay.2
          rw [hview] at hnot
          use none
          apply hfollows _ (.deregReq [] (by simpa using hnot))
          · simp [Client.send, hmay.1]
          · intro last' hlast'
            cases hlast'
      | handleCcaRequest =>
          have hconfirm : c.confirmed = true := hmay
          have hregistered : last ≠ .registering := by
            intro hlast
            simp [hconfirm, hlast] at hconfirmed
          use some last
          apply hfollows _ (.ccaReq hregistered (.nil _))
          · simp [Client.send, hconfirm, hregistered]
          · intro last' hlast'
            cases hlast'
            simpa [Client.send] using hcount
      | handleDataIndication =>
          have hconfirm : c.confirmed = true := hmay.1
          have hnot := h.answered hmay.2
          rw [hview] at hnot
          have hactive : last = .active := by
            cases last with
            | registering => simp [hconfirm] at hconfirmed
            | active => rfl
            | tx => apply absurd rfl hnot
          subst hactive
          use some .tx
          apply hfollows _ (.dataInd (.nil _))
          · simp [Client.send, hconfirm]
          · intro last' hlast'
            cases hlast'
            simpa [Client.send] using hcount

/-- A client receives a message. -/
theorem receive (h : c.Follows state sent view) (hopen : c.closed = false) :
  c.receive.Follows state sent view
  where
  takes := h.takes
  confirmed := h.confirmed
  dataInds := h.dataInds
  closed hclosed := by
    rw [Client.receive, hopen] at hclosed
    cases hclosed

/-- A client that has got all answers closes its socket. -/
theorem close (h : c.Follows state sent view) (hanswered : c.Answered sent) :
  c.close.Follows state sent view
  where
  takes := h.takes
  confirmed := h.confirmed
  dataInds := h.dataInds
  closed _ := hanswered

/-- The first frame of a client is read, and taken. -/
theorem frameRead {handler : Handler} {frame : List UInt8} {rest : List (Handler × List UInt8)}
    (h : c.Follows state sent view) (houtbox : c.outbox = (handler, frame) :: rest)
    (htakes : ∀ msgs, Takes state (handler :: msgs) view → Takes state' msgs view) :
  c.frameRead.Follows state' sent view
  where
  takes := by
    rw [Client.frameRead, houtbox, List.tail_cons]
    apply htakes
    have hbefore := h.takes
    rw [houtbox] at hbefore
    apply hbefore
  confirmed := h.confirmed
  dataInds := h.dataInds
  closed := h.closed

end Client.Follows

/-! ### Steps of the medium -/

/-- The state of a node for its client: a node that has not been added yet will be registering. -/
def NodeCell.awaited : NodeCell → Option NodeState
  | .unborn => some .registering
  | .live n => some n.curState
  | .destroyed => none

/-- How many of its transmissions a node has been told to be done. -/
def txDonesTo (p : NodePtr) (log : List Event) : Nat := (sentTo p log).countP OutMsg.isTxDone

theorem txDonesTo_append (p : NodePtr) (log es : List Event) :
  txDonesTo p (log ++ es) = txDonesTo p log + txDonesTo p es
  := by
  rw [txDonesTo, sentTo_append, List.countP_append]
  rfl

/-- A node stays as it is for its client, or is deleted. -/
def Medium.PeerKept (m m' : Medium) (p : NodePtr) : Prop :=
  ∀ state, (m'.nodes p).awaited = some state →
    (m.nodes p).awaited = some state ∧ txDonesTo p m'.log = txDonesTo p m.log

theorem Medium.PeerKept.trans (h : m.PeerKept m' p) (h' : m'.PeerKept m'' p) :
  m.PeerKept m'' p
  := by
  intro state hstate
  obtain ⟨hmiddle, hcount⟩ := h' state hstate
  obtain ⟨hbefore, hcount'⟩ := h state hmiddle
  exact ⟨hbefore, hcount.trans hcount'⟩

/-- Nothing but events of other kinds is new. -/
theorem Medium.PeerKept.same {es : List Event} (hnodes : (m'.nodes p).awaited = (m.nodes p).awaited)
    (hlog : m'.log = m.log ++ es) (hes : txDonesTo p es = 0) :
  m.PeerKept m' p
  := by
  intro state hstate
  rw [hnodes] at hstate
  use hstate
  rw [hlog, txDonesTo_append, hes]
  rfl

/-- An effect that ends no transmission of a node tells it of none. -/
theorem txDonesTo_events {eff : Effect} (m : Medium)
    (hnot : ∀ i n pkt buf, eff ≠ .conclude i p n pkt buf) :
  txDonesTo p (eff.events m) = 0
  := by
  have hdelete : ∀ q n, txDonesTo p (deleteEvents q n) = 0 := by
    intro q n
    rw [txDonesTo, sentTo_deleteEvents]
    rfl
  have hsent : ∀ q msg, OutMsg.isTxDone msg = false → txDonesTo p [.sent q msg] = 0 := by
    intro q msg hmsg
    by_cases hq : q = p
    · simp [txDonesTo, sentTo, Event.msgTo, hq, hmsg]
    · simp [txDonesTo, sentTo, Event.msgTo, hq]
  cases eff with
  | failedRead q n => rfl
  | confirm q n os osVersion =>
      rw [Effect.events]
      split <;> rfl
  | disconnect q n asked =>
      rw [Effect.events, txDonesTo_append, hdelete]
      cases asked with
      | false => rfl
      | true => apply hsent q _ rfl
  | request q n => rfl
  | transmit q n pkt itValue => rfl
  | answer q rest => apply hsent q _ rfl
  | collide => rfl
  | conclude i q n pkt buf =>
      have hq : q ≠ p := by
        rintro rfl
        apply hnot i n pkt buf rfl
      cases hcollided : pkt.collision <;>
        simp [Effect.events, concludeEvents, hcollided, txDonesTo, sentTo, Event.msgTo, hq]
  | expire key q n => apply hdelete
  | dispose map key q n => apply hdelete
  | add q socket => apply hsent q _ rfl

/-- The effects that change the state of a node and do not delete it. -/
def Effect.Turns (p : NodePtr) : Effect → Prop
  | .confirm q _ _ _ => q = p
  | .transmit q _ _ _ => q = p
  | .conclude _ q _ _ _ => q = p
  | _ => False

/-- Every other effect leaves a node as it is for its client, or deletes it. -/
theorem peerKept_apply {eff : Effect} (hguard : eff.Guard m) (hnot : ¬ eff.Turns p)
    (hfresh : ∀ q socket, eff = .add q socket → m.Fresh q socket) :
  m.PeerKept (eff.apply m) p
  := by
  have hcount : txDonesTo p (eff.events m) = 0 := by
    apply txDonesTo_events
    rintro i n pkt buf rfl
    apply hnot rfl
  have hlog := eff.log_apply m
  -- An effect on one node leaves the others as they are.
  have hupdate : ∀ q cell, (eff.apply m).nodes = Function.update m.nodes q cell →
      (q = p → cell.awaited = none ∨ cell.awaited = (m.nodes p).awaited) →
      m.PeerKept (eff.apply m) p := by
    intro q cell hnodes hcell
    by_cases hq : q = p
    · rcases hcell hq with hnone | hsame
      · intro state hstate
        rw [hnodes, ← hq, Function.update_self, hnone] at hstate
        cases hstate
      · apply Medium.PeerKept.same _ hlog hcount
        rw [hnodes, ← hq, Function.update_self, hsame, hq]
    · apply Medium.PeerKept.same _ hlog hcount
      rw [hnodes, Function.update_of_ne (Ne.symm hq)]
  cases eff with
  | failedRead q n =>
      apply hupdate q _ rfl
      rintro rfl
      right
      rw [hguard]
      rfl
  | confirm q n os osVersion =>
      apply hupdate q _ rfl
      intro hq
      apply absurd hq hnot
  | disconnect q n asked => exact hupdate q .destroyed rfl (fun _ => Or.inl rfl)
  | request q n => exact .same rfl hlog hcount
  | transmit q n pkt itValue =>
      apply hupdate q _ rfl
      intro hq
      apply absurd hq hnot
  | answer q rest => exact .same rfl hlog hcount
  | collide =>
      apply Medium.PeerKept.same _ hlog hcount
      simp only [Effect.apply]
      split
      · cases m.nodes p <;> rfl
      · rfl
  | conclude i q n pkt buf =>
      apply hupdate q _ rfl
      intro hq
      apply absurd hq hnot
  | expire key q n => exact hupdate q .destroyed rfl (fun _ => Or.inl rfl)
  | dispose map key q n =>
      cases map with
      | regListMap => exact hupdate q .destroyed rfl (fun _ => Or.inl rfl)
      | nodeHashMap => exact hupdate q .destroyed rfl (fun _ => Or.inl rfl)
  | add q socket =>
      apply hupdate q _ rfl
      rintro rfl
      right
      rw [(hfresh q socket rfl).1]
      rfl

/-- A sequence of other effects leaves a node as it is for its client, or deletes it. -/
theorem peerKept_effects {effs : List Effect} (heffs : Effects m effs m')
    (hnot : ∀ eff ∈ effs, ¬ eff.Turns p ∧ ∀ q socket, eff ≠ .add q socket) :
  m.PeerKept m' p
  := by
  apply heffs.invariant (P := fun m' => m.PeerKept m' p) _ hnot
  · intro m₁ eff hm₁ heff hguard
    apply hm₁.trans
    apply peerKept_apply hguard heff.1
    intro q socket heq
    apply absurd heq (heff.2 q socket)
  · intro state hstate
    exact ⟨hstate, rfl⟩

/-- The end of a transmission makes a node active and tells it so. -/
theorem conclude_peer {i : Nat} {pkt : NetSimPacket} {buf : List UInt8}
    (hguard : (Effect.conclude i p n pkt buf).Guard m) :
  (m.nodes p).awaited = some .tx ∧
    (((Effect.conclude i p n pkt buf).apply m).nodes p).awaited = some .active ∧
    txDonesTo p ((Effect.conclude i p n pkt buf).apply m).log = txDonesTo p m.log + 1
  := by
  obtain ⟨-, hlive, hstate, -⟩ := hguard
  refine ⟨?_, ?_, ?_⟩
  · rw [hlive, NodeCell.awaited, hstate]
  · simp [Effect.apply, NodeCell.awaited]
  · rw [Effect.log_apply, txDonesTo_append]
    cases hcollided : pkt.collision <;>
      simp [Effect.events, concludeEvents, hcollided, txDonesTo, sentTo, Event.msgTo,
        List.filterMap_cons, OutMsg.isTxDone]

/-- The effect of a message that a node takes. -/
theorem Takes.handled {handler : Handler} {eff : Effect} (heff : HandlerEffect p n handler eff)
    (hguard : eff.Guard m) (hstate : ((eff.apply m).nodes p).awaited = some state')
    {msgs : List Handler} (h : Takes n.curState (handler :: msgs) view) :
  Takes state' msgs view
  := by
  cases heff with
  | confirm os osVersion =>
      simp [Effect.apply, NodeCell.awaited] at hstate
      rw [hguard.2.1] at h
      cases h with
      | regCon h =>
          rw [← hstate]
          apply h
  | disconnect => simp [Effect.apply, Medium.delete, NodeCell.awaited] at hstate
  | request =>
      simp [Effect.apply, hguard.1, NodeCell.awaited] at hstate
      rw [hstate] at h
      cases h with
      | ccaReq _ h => apply h
  | transmit pkt itValue =>
      simp [Effect.apply, NodeCell.awaited] at hstate
      rw [hguard.2.1] at h
      cases h with
      | dataInd h =>
          rw [← hstate]
          apply h

/-- A step of the medium that reads no frame of a client leaves the node as it is for its client,
deletes it, or ends its transmission. -/
theorem peer_next {s s' : Sys} {i : Input} (hnext : Next host kind s i s')
    (hframe : s.frameFrom i ≠ some p) :
  s.med.PeerKept s'.med p ∨
    (s.med.nodes p).awaited = some .tx ∧ (s'.med.nodes p).awaited = some .active ∧
      txDonesTo p s'.med.log = txDonesTo p s.med.log + 1
  := by
  have hsilent : ∀ {m m' : Medium}, m'.nodes = m.nodes → m'.log = m.log → m.PeerKept m' p := by
    intro m m' hnodes hlog
    have hlog' : m'.log = m.log ++ [] := by rw [hlog, List.append_nil]
    exact .same (by rw [hnodes]) hlog' rfl
  have hadd : ∀ {eff : Effect}, (∀ q socket, eff ≠ .add q socket) → ∀ {m : Medium} q socket,
      eff = .add q socket → m.Fresh q socket := by
    intro eff hnot m q socket heq
    apply absurd heq (hnot q socket)
  cases hnext with
  | move => exact Or.inl (hsilent rfl rfl)
  | start => exact Or.inl (hsilent rfl rfl)
  | interval m env ph =>
      left
      exact .same rfl rfl rfl
  | @poll m env ph ev evs q n eff hdata hlive heff hguard =>
      left
      apply peerKept_apply hguard _ (hadd heff.not_add)
      intro hturns
      cases heff with
      | closed => apply hturns
      | failedRead => apply hturns
      | handled handler msg rest eff hrdhup hinput hread heff =>
          apply hframe
          have hq : q = p := by cases heff <;> first | exact hturns | cases hturns
          simp [Sys.frameFrom, hrdhup, hinput, hdata, hq]
  | unblocked => exact Or.inl (hsilent rfl rfl)
  | mark => exact Or.inl (hsilent rfl rfl)
  | answer hguard => exact Or.inl (peerKept_apply hguard not_false (hadd (by simp)))
  | collide _ hguard => exact Or.inl (peerKept_apply hguard not_false (hadd (by simp)))
  | @conclude m env i q n pkt buf hguard =>
      by_cases hq : q = p
      · subst hq
        right
        apply conclude_peer hguard
      · left
        apply peerKept_apply hguard hq (hadd (by simp))
  | resetIdle => exact Or.inl (hsilent rfl rfl)
  | sweep heffs hexpiry =>
      left
      apply peerKept_effects heffs
      intro eff heff
      refine ⟨?_, (hexpiry eff heff).not_add⟩
      obtain ⟨key, q, n, rfl, -⟩ := hexpiry eff heff
      apply not_false
  | exiting => exact Or.inl (hsilent rfl rfl)
  | @add m env pc q socket hfresh =>
      have hguard : (Effect.add q socket).Guard m := trivial
      left
      apply peerKept_apply hguard not_false
      intro q' socket' heq
      cases heq
      apply hfresh
  | stop => exact Or.inl (hsilent rfl rfl)
  | delete heffs hdisposal heffs' hdisposal' =>
      have hnot : ∀ {map eff}, Effect.IsDisposal map eff →
          ¬ eff.Turns p ∧ ∀ q socket, eff ≠ .add q socket := by
        intro map eff heff
        refine ⟨?_, heff.not_add⟩
        obtain ⟨key, q, n, rfl⟩ := heff
        apply not_false
      left
      apply (peerKept_effects heffs _).trans (peerKept_effects heffs' _)
      · intro eff heff
        apply hnot (hdisposal eff heff)
      · intro eff heff
        apply hnot (hdisposal' eff heff)

end X6losim
