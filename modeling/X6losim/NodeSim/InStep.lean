import X6losim.Invariant.Bounds
import X6losim.Invariant.Relay
import X6losim.NodeSim.Talk

/-!
# Programs that are in step

What a program in step sends is taken for what it is, and a frame in it stays as long as it says in
the packet of the node and in what is multicast from it.  `Proc.Talks` says that a program is
somewhere in the conversation with its node: each turn of the node goes on with it, and so does each
call of the program, unless the node has been deleted and there is nothing left to read.
-/

open Bytes

namespace X6losim

open NodeSim

variable {host : ByteOrder} {kind : Kind} {m m' : Medium} {p q : NodePtr} {n : DeviceNode}
  {id : UInt64} {ids : NodePtr → UInt64} {s s' : Sys} {i : Input} {handler : Handler}
  {msg : List UInt8}

/-! ### What packets hold -/

/-- A packet that a node has after a step holds what one of its packets has held before, or the
message that the step calls `handleDataIndication` for. -/
theorem PktNext.packet {pkt : NetSimPacket} (hnext : PktNext host s i s')
    (hlive : s'.med.nodes p = .live n) (hpkt : n.txPkt = some pkt) :
  (∃ n' pkt', s.med.nodes p = .live n' ∧ n'.txPkt = some pkt' ∧ pkt'.pktBuffer = pkt.pktBuffer) ∨
    Indicates host s i p pkt.pktBuffer
  := by
  cases hnext with
  | neutral hkept _ =>
      obtain ⟨n', hlive', hpkt'⟩ := hkept.txPkt hlive hpkt
      exact Or.inl ⟨n', pkt, hlive', hpkt', rfl⟩
  | transmit hind hnew hguard hmed =>
      rw [hmed] at hlive
      rcases live_of_update hlive with ⟨rfl, ⟨⟩⟩ | ⟨hq, hlive⟩
      · cases hpkt
        right
        rw [(hind.new_pktBuffer hnew).2]
        apply hind
      · exact Or.inl ⟨n, pkt, hlive, hpkt, rfl⟩
  | collide hguard hmed _ =>
      left
      rw [hmed] at hlive
      by_cases hp : p ∈ s.med.txList
      · obtain ⟨n', pkt', hlive', hpkt'⟩ := hguard.2 p hp
        simp only [Effect.apply, if_pos hp, hlive', NodeCell.collide, NodeCell.live.injEq] at hlive
        subst hlive
        rw [DeviceNode.collide, hpkt', Option.map_some, Option.some.injEq] at hpkt
        subst hpkt
        exact ⟨n', pkt', hlive', hpkt', rfl⟩
      · simp only [Effect.apply, if_neg hp] at hlive
        exact ⟨n, pkt, hlive, hpkt, rfl⟩
  | conclude hguard hrelays hmed _ =>
      left
      rw [hmed] at hlive
      rcases live_of_update hlive with ⟨rfl, ⟨⟩⟩ | ⟨hq, hlive⟩
      · cases hpkt
      · exact ⟨n, pkt, hlive, hpkt, rfl⟩

/-- What has been multicast after a step has been so before, or is relayed from a packet. -/
theorem PktNext.multicast {k : PktId} {buf : List UInt8} (hnext : PktNext host s i s')
    (hlog : .multicast p k buf ∈ s'.med.log) :
  .multicast p k buf ∈ s.med.log ∨
    ∃ n pkt, s.med.nodes p = .live n ∧ n.txPkt = some pkt ∧ Relays host pkt.pktBuffer buf
  := by
  cases hnext with
  | neutral hkept _ =>
      left
      obtain ⟨es, hes, hno⟩ := hkept.log
      rw [hes] at hlog
      rcases List.mem_append.mp hlog with hlog | hlog
      · apply hlog
      · cases hno _ hlog
  | transmit hind hnew hguard hmed =>
      left
      rw [hmed] at hlog
      simpa [Effect.apply] using hlog
  | collide hguard hmed _ =>
      left
      rw [hmed] at hlog
      apply hlog
  | @conclude j q n pkt buf' hguard hrelays hmed _ =>
      rw [hmed] at hlog
      rcases List.mem_append.mp hlog with hlog | hlog
      · exact Or.inl hlog
      · right
        by_cases hcollided : pkt.collision
        · simp [concludeEvents, hcollided] at hlog
        · simp [concludeEvents, hcollided] at hlog
          obtain ⟨rfl, rfl, rfl⟩ := hlog
          exact ⟨n, pkt, hguard.2.1, hguard.2.2.2.1, hrelays (by simpa using hcollided)⟩

/-- The packets of nodes hold messages of one kind, and what has been multicast from a node is
relayed from such. -/
structure Carrying (host : ByteOrder) (Good : NodePtr → List UInt8 → Prop) (m : Medium) : Prop where
  packets : ∀ {p n pkt}, m.nodes p = .live n → n.txPkt = some pkt → Good p pkt.pktBuffer
  relays : ∀ {p k buf}, .multicast p k buf ∈ m.log → ∃ msg, Good p msg ∧ Relays host msg buf

namespace Carrying

variable {Good Good' : NodePtr → List UInt8 → Prop}

theorem initial (host : ByteOrder) (Good : NodePtr → List UInt8 → Prop) :
  Carrying host Good Medium.new
  where
  packets h := by cases h
  relays h := by cases h

theorem mono (h : Carrying host Good m) (hgood : ∀ p msg, Good p msg → Good' p msg) :
  Carrying host Good' m
  where
  packets hlive hpkt := hgood _ _ (h.packets hlive hpkt)
  relays hlog := by
    obtain ⟨msg, hmsg, hrelays⟩ := h.relays hlog
    exact ⟨msg, hgood _ _ hmsg, hrelays⟩

/-- When `handleDataIndication` is called for messages of one kind only, packets hold no others. -/
theorem next (h : Carrying host Good s.med) (hnext : PktNext host s i s')
    (hgood : ∀ p msg, Indicates host s i p msg → Good p msg) :
  Carrying host Good s'.med
  where
  packets hlive hpkt := by
    rcases hnext.packet hlive hpkt with ⟨n', pkt', hlive', hpkt', hbuffer⟩ | hind
    · rw [← hbuffer]
      apply h.packets hlive' hpkt'
    · apply hgood _ _ hind
  relays hlog := by
    rcases hnext.multicast hlog with hlog | ⟨n, pkt, hlive, hpkt, hrelays⟩
    · apply h.relays hlog
    · exact ⟨pkt.pktBuffer, h.packets hlive hpkt, hrelays⟩

end Carrying

/-! ### Messages of programs in step -/

/-- A data indication of the test node, as its handler gets it, whose frame fits. -/
def Indication (host : ByteOrder) (msg : List UInt8) : Prop :=
  ∃ memory nodeId ind, TxDataInd.Fits host ind ∧
    msg = blankCksum (sendTxDataInd host memory nodeId ind)

/-- A message that a program in step has sent for a handler. -/
structure MessageFor (host : ByteOrder) (id : UInt64) (handler : Handler) (msg : List UInt8) :
    Prop where
  dispatched : Dispatched host id handler msg
  fits : FrameFits handler msg
  indication : handler = .handleDataIndication → Indication host (blankCksum msg)

/-- A data indication of the test node is as long as it says. -/
theorem NodeSim.TxDataInd.psduFits (ind : TxDataInd) {memory : Nat → UInt8} {nodeId : UInt64} :
  PsduFits (blankCksum (sendTxDataInd host memory nodeId ind))
  := by
  have hlength : ((SendCall.sendTxDataInd ind).message host memory nodeId).length
      = DataInd.pktData + ind.psduLen.toNat := SendCall.length_message
  have hsize : Hdr.size ≤ ((SendCall.sendTxDataInd ind).message host memory nodeId).length := by
    rw [hlength]
    apply le_trans _ (Nat.le_add_right ..)
    decide
  have hvalue : DataInd.psduLen.value (blankCksum ((SendCall.sendTxDataInd ind).message host
      memory nodeId)) = ind.psduLen.toNat := (ind.fields rfl).2.1
  have hblank : (blankCksum ((SendCall.sendTxDataInd ind).message host memory nodeId)).length
      = DataInd.pktData + ind.psduLen.toNat := (length_blankCksum hsize).trans hlength
  exact le_of_eq ((congrArg (DataInd.pktData + ·) hvalue).trans hblank.symm)

/-- A call whose data indication fits, if it sends one, sends a message that is taken for what it
is. -/
theorem messageFor_call {call : SendCall} (memory : Nat → UInt8) (id : UInt64)
    (hfits : ∀ ind, call = .sendTxDataInd ind → TxDataInd.Fits host ind) :
  MessageFor host id call.handler (call.message host memory id)
  := by
  have hpasses : call.Passes host := by
    cases call with
    | sendTxDataInd ind => apply (hfits ind rfl).1
    | _ => cases host <;> decide
  have hdispatched : Dispatched host id call.handler (call.message host memory id) :=
    hpasses.dispatched
  refine ⟨hdispatched, ?_, ?_⟩
  · cases call with
    | sendRegCon =>
        right
        rw [SendCall.length_message]
        decide
    | sendDeregReq => trivial
    | sendCcaReq => trivial
    | sendTxDataInd ind =>
        rw [← frameFits_blankCksum hdispatched.size]
        apply ind.psduFits
  · intro hhandler
    cases call with
    | sendTxDataInd ind => exact ⟨memory, id, ind, hfits ind rfl, rfl⟩
    | _ => cases hhandler

/-! ### Programs and their nodes -/

namespace NodeSim.Proc

/-- A program is at a stage of its conversation: it is in step from there on, its data indications
fit, and the messages sent to it are those it has received and those on their way.  While its node
has not been deleted, it knows its number, and what it has sent is taken for what it is. -/
structure At (host : ByteOrder) (id : UInt64) (proc : Proc) (standing : Standing) (k : Nat)
    (sent : List OutMsg) (stage : Stage) (handlers : List Handler) (got unread : List OutMsg) :
    Prop where
  inStep : InStep stage proc.rest
  fitting : Fitting host proc.rest
  sent : sent = got ++ unread
  received : proc.received = (got.map (OutMsg.bytes host id)).flatten.length
  talk : Talk id stage standing k handlers unread
  number : standing ≠ .gone → stage ≠ .invited → proc.node.nodeId = id
  outbox : standing ≠ .gone → List.Forall₂ (MessageFor host id) handlers proc.outbox
  closed : proc.closed → proc.rest = []

/-- A program is somewhere in its conversation. -/
def Talks (host : ByteOrder) (id : UInt64) (proc : Proc) (standing : Standing) (k : Nat)
    (sent : List OutMsg) : Prop :=
  ∃ stage handlers got unread, proc.At host id standing k sent stage handlers got unread

variable {proc : Proc} {standing standing' : Standing} {k k' : Nat} {sent more : List OutMsg}
  {stage : Stage} {handlers : List Handler} {got unread : List OutMsg}

theorem Talks.initial {node : NodeSim} {program : List Call}
    (h : InStep .invited program) (hfitting : Fitting host program) (id : UInt64) :
  (Proc.new node program).Talks host id .unborn 0 []
  := by
  refine ⟨.invited, [], [], [], ?_⟩
  constructor
  · apply h
  · apply hfitting
  · rfl
  · rfl
  · apply Talk.unborn
  · intro _ hstage
    apply absurd rfl hstage
  · intro _
    apply List.Forall₂.nil
  · intro hclosed
    cases hclosed

/-- A turn of its node that reads no message of it. -/
theorem Talks.turn (h : proc.Talks host id standing k sent)
    (hturn : NodeNext id standing k none more standing' k') :
  proc.Talks host id standing' k' (sent ++ more)
  := by
  obtain ⟨stage, handlers, got, unread, hat⟩ := h
  have hback : standing' ≠ .gone → standing ≠ .gone := by
    rintro hgone rfl
    cases hturn
    apply hgone rfl
  refine ⟨stage, handlers, got, unread ++ more, ?_⟩
  constructor
  · apply hat.inStep
  · apply hat.fitting
  · rw [hat.sent, List.append_assoc]
  · apply hat.received
  · exact hat.talk.turn hturn
  · intro hgone
    apply hat.number (hback hgone)
  · intro hgone
    apply hat.outbox (hback hgone)
  · apply hat.closed

/-- The first message of a program: the turn of its node that reads it goes on with the
conversation. -/
theorem Talks.first {state : NodeState} {msg : List UInt8} {outbox : List (List UInt8)}
    (h : proc.Talks host id (.there id state) k sent) (houtbox : proc.outbox = msg :: outbox) :
  ∃ handler, MessageFor host id handler msg ∧ state.refusal handler = none ∧
    (state = .tx → handler ≠ .handleDeregistrationRequest) ∧
    ∀ {more standing' k'}, NodeNext id (.there id state) k (some handler) more standing' k' →
      proc.messageRead.Talks host id standing' k' (sent ++ more)
  := by
  obtain ⟨stage, handlers, got, unread, hat⟩ := h
  have hmessages := hat.outbox (by simp)
  rw [houtbox] at hmessages
  obtain ⟨handler, handlers', hmessage, hrest, rfl⟩ := List.forall₂_cons_right_iff.mp hmessages
  obtain ⟨-, hrefusal, hnot⟩ := hat.talk.not_refused
  refine ⟨handler, hmessage, hrefusal, hnot, ?_⟩
  intro more standing' k' hturn
  refine ⟨stage, handlers', got, unread ++ more, ?_⟩
  constructor
  · apply hat.inStep
  · apply hat.fitting
  · rw [hat.sent, List.append_assoc]
  · apply hat.received
  · exact hat.talk.turn hturn
  · intro _
    apply hat.number (by simp)
  · intro _
    rw [messageRead, houtbox]
    apply hrest
  · apply hat.closed

/-- A program that has exited has no node that transmits. -/
theorem Talks.closed_not_tx (h : proc.Talks host id standing k sent) (hclosed : proc.closed) :
  ∀ id', standing ≠ .there id' .tx
  := by
  obtain ⟨stage, handlers, got, unread, hat⟩ := h
  apply hat.talk.not_tx
  have hinStep := hat.inStep
  rw [hat.closed hclosed] at hinStep
  apply hinStep

/-- The bytes on their way to a program are those of the messages on their way. -/
theorem At.unread_bytes
    (h : proc.At host id standing k sent stage handlers got unread) :
  (sent.map (OutMsg.bytes host id)).flatten.drop proc.received
    = (unread.map (OutMsg.bytes host id)).flatten
  := by
  rw [h.sent, h.received, List.map_append, List.flatten_append, List.drop_left]

/-- A program that goes on has fitting data indications left. -/
theorem At.rest_fitting {call : Call} {rest : List Call}
    (h : proc.At host id standing k sent stage handlers got unread)
    (hrest : proc.rest = call :: rest) :
  Fitting host rest
  := by
  intro ind hind
  apply h.fitting ind
  rw [hrest]
  apply List.mem_cons_of_mem _ hind

/-- A program sends the message that it has next. -/
theorem At.send {call : SendCall} {rest : List Call} (memory : Nat → UInt8)
    (h : proc.At host id standing k sent stage handlers got unread) (hopen : proc.closed = false)
    (hrest : proc.rest = .send call :: rest) :
  Talks host id { proc with
    rest
    outbox := proc.outbox ++ [call.message host memory proc.node.nodeId] } standing k sent
  := by
  have hinStep := h.inStep
  rw [hrest] at hinStep
  obtain ⟨stage', hnext, hinStep⟩ := hinStep
  have hinvited : stage ≠ .invited := by
    rcases Stage.next_send hnext with ⟨rfl, -⟩ | ⟨rfl, -⟩ <;> simp
  have hfits : ∀ ind, call = .sendTxDataInd ind → TxDataInd.Fits host ind := by
    rintro ind rfl
    apply h.fitting ind
    rw [hrest]
    apply List.mem_cons_self
  refine ⟨stage', handlers ++ [call.handler], got, unread, ?_⟩
  constructor
  · apply hinStep
  · apply h.rest_fitting hrest
  · apply h.sent
  · apply h.received
  · apply h.talk.send hnext
  · intro hgone _
    apply h.number hgone hinvited
  · intro hgone
    rw [h.number hgone hinvited]
    apply List.rel_append (h.outbox hgone)
    exact List.Forall₂.cons (messageFor_call memory id hfits) .nil
  · intro hclosed
    rw [hopen] at hclosed
    cases hclosed

/-- A program that reads a message receives the one that it waits for. -/
theorem At.receive {rest : List Call} {msg : OutMsg} {env : CallEnv}
    (h : proc.At host id standing k sent stage handlers got (msg :: unread))
    (hopen : proc.closed = false) (hrest : proc.rest = .readMsg :: rest)
    (hthere : env.there = ((msg :: unread).map (OutMsg.bytes host id)).flatten) :
  ∃ proc', proc.call host env = .ok proc' ∧ proc'.Talks host id standing k sent
  := by
  have hinStep := h.inStep
  rw [hrest] at hinStep
  obtain ⟨stage', hnext, hinStep⟩ := hinStep
  obtain ⟨rfl, hawaits, htalk⟩ : unread = [] ∧ stage.Awaits msg ∧ ∀ stage',
      stage.next .readMsg = some stage' → Talk id stage' standing k handlers [] :=
    h.talk.receive
  obtain ⟨node, hread, hnumber⟩ := readMsg_bytes host id msg proc.node
  have hbytes : ([msg].map (OutMsg.bytes host id)).flatten = msg.bytes host id := by simp
  have hmax : (msg.bytes host id).length ≤ 128 := by
    have hbody := msg.length_body_le
    rw [OutMsg.length_bytes, Hdr.size]
    omega
  rw [hbytes] at hthere
  have hcall : proc.call host env = .ok { proc with
      node, rest, received := proc.received + min 128 (msg.bytes host id).length } := by
    simp only [call, hrest, hthere, hread]
  refine ⟨_, hcall, stage', handlers, got ++ [msg], [], ?_⟩
  constructor
  · apply hinStep
  · apply h.rest_fitting hrest
  · rw [h.sent, List.append_nil]
  · rw [h.received, min_eq_right hmax]
    simp
  · apply htalk stage' hnext
  · intro hgone _
    rw [hnumber]
    split
    · rfl
    · next hmsg =>
        apply h.number hgone
        rintro rfl
        cases hawaits
        apply hmsg rfl
  · apply h.outbox
  · intro hclosed
    rw [hopen] at hclosed
    cases hclosed

/-- A program that has found the end of what has been sent, and goes on. -/
theorem At.ended {rest : List Call} {node : NodeSim} {received : Nat}
    (h : proc.At host id .gone k sent stage handlers got []) (hopen : proc.closed = false)
    (hrest : proc.rest = .readMsg :: rest) (hreceived : received = proc.received) :
  Talks host id { proc with node, rest, received } .gone k sent
  := by
  have hinStep := h.inStep
  rw [hrest] at hinStep
  obtain ⟨stage', -, hinStep⟩ := hinStep
  refine ⟨stage', handlers, got, [], ?_⟩
  constructor
  · apply hinStep
  · apply h.rest_fitting hrest
  · apply h.sent
  · rw [hreceived, h.received]
  · exact .gone _ _ (Or.inl rfl)
  · intro hgone
    apply absurd rfl hgone
  · intro hgone
    apply absurd rfl hgone
  · intro hclosed
    rw [hopen] at hclosed
    cases hclosed

/-- The next call of a program goes on with the conversation, or fails at the end of what its node
has sent before it was deleted. -/
theorem Talks.call {env : CallEnv} {bytes : List UInt8}
    (h : proc.Talks host id standing k sent) (hopen : proc.closed = false)
    (hbytes : (sent.map (OutMsg.bytes host id)).flatten.drop proc.received = bytes)
    (haccepted : ∀ call rest, proc.rest = .send call :: rest →
      (call.message host env.memory proc.node.nodeId).length ≤ env.accepted)
    (hthere : ∀ rest, proc.rest = .readMsg :: rest →
      env.there = bytes ∧ (bytes ≠ [] ∨ standing = .gone))
    (hdatagram : ∀ rest, proc.rest = .mcastRxDataPacket :: rest →
      ∃ shown, mcastRxDataPacket host env.memory (.received env.datagram) = .ok shown) :
  (∃ proc', proc.call host env = .ok proc' ∧ proc'.Talks host id standing k sent) ∨
    (∃ f, proc.call host env = .error f) ∧ standing = .gone ∧ bytes = []
  := by
  obtain ⟨stage, handlers, got, unread, hat⟩ := h
  rw [hat.unread_bytes] at hbytes
  subst hbytes
  cases hrest : proc.rest with
  | nil =>
      left
      have hcall : proc.call host env = .ok { proc with closed := true } := by
        simp only [Proc.call, hrest]
      refine ⟨_, hcall, stage, handlers, got, unread, ?_⟩
      exact { hat with closed := fun _ => hrest }
  | cons call rest =>
      cases call with
      | send call =>
          left
          have hwhole := List.take_of_length_le (haccepted call rest hrest)
          have hcall : proc.call host env = .ok { proc with
              rest
              outbox := proc.outbox ++
                [call.message host env.memory proc.node.nodeId] } := by
            simp only [Proc.call, hrest, hwhole]
          exact ⟨_, hcall, hat.send env.memory hopen hrest⟩
      | readMsg =>
          obtain ⟨hthere, hwaits⟩ := hthere rest hrest
          cases unread with
          | nil =>
              have hgone : standing = .gone := hwaits.resolve_left (fun hbytes => hbytes rfl)
              have hempty : env.there = [] := hthere
              subst hgone
              cases hread : proc.node.readMsg host (some []) with
              | ok reply =>
                  left
                  have hcall : proc.call host env = .ok { proc with
                      node := reply.1, rest, received := proc.received + 0 } := by
                    simp only [Proc.call, hrest, hempty, hread]
                    rfl
                  exact ⟨_, hcall, hat.ended hopen hrest rfl⟩
              | error f =>
                  right
                  refine ⟨⟨f, ?_⟩, rfl, rfl⟩
                  simp only [Proc.call, hrest, hempty, hread]
          | cons msg unread =>
              left
              apply hat.receive hopen hrest hthere
      | mcastRxDataPacket =>
          left
          obtain ⟨shown, hshown⟩ := hdatagram rest hrest
          have hcall : proc.call host env = .ok { proc with rest } := by
            simp only [Proc.call, hrest, hshown]
          refine ⟨_, hcall, stage, handlers, got, unread, ?_⟩
          have hinStep := hat.inStep
          rw [hrest] at hinStep
          obtain ⟨stage', hnext, hinStep⟩ := hinStep
          have hsame : stage' = stage := by
            cases stage <;> cases hnext <;> rfl
          rw [hsame] at hinStep
          exact { hat with
            inStep := hinStep
            fitting := hat.rest_fitting hrest
            closed := fun hclosed => by simp [hopen] at hclosed }

end NodeSim.Proc

end X6losim
