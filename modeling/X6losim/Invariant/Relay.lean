import X6losim.Invariant.Accounting
import X6losim.Invariant.Halting
import X6losim.Wire.Received

/-!
# The relay of a frame

A frame is read by `readMsg`, copied into a packet, and multicast when its transmission has ended
well.  The identity of the packet ties the three together: what is multicast for a packet is
relayed from the message that a step of the run has called `handleDataIndication` for.
-/

open Bytes History

namespace X6losim

variable {host : ByteOrder} {kind : Kind} {env : Env} {m m' : Medium} {p q : NodePtr}
  {n : DeviceNode} {pkt : NetSimPacket} {msg msg' : List UInt8} {s s' : Sys} {i : Input}
  {visits last : List (Sys × Input)}

/-- A step of the thread calls `handleDataIndication` for a message of a node. -/
inductive Indicates (host : ByteOrder) : Sys → Input → NodePtr → List UInt8 → Prop where
  | event {m : Medium} {env : Env} {ph : Phase} {ev : PollEvent} {evs : List PollEvent}
      {p : NodePtr} {n : DeviceNode} {msg rest : List UInt8} : ev.data = .node p →
      m.nodes p = .live n → ¬ ev.rdhup → ev.input →
      readMsgFrame host n.getNodeId ev.delivery ev.unread
        = .ok (.call .handleDataIndication msg) rest →
      Indicates host ⟨.poll ph (ev :: evs), m⟩ (.run env) p msg

theorem Indicates.unique (h : Indicates host s i p msg) (h' : Indicates host s i q msg') :
  p = q ∧ msg = msg'
  := by
  cases h with
  | event hdata hlive _ _ hread =>
      cases h' with
      | event hdata' hlive' _ _ hread' =>
          rw [hdata] at hdata'
          cases hdata'
          rw [hlive] at hlive'
          cases hlive'
          rw [hread] at hread'
          cases hread'
          exact ⟨rfl, rfl⟩

/-! ### Steps -/

/-- What `handleDataIndication` does when it does not stop. -/
theorem handleDataIndication_ok {u : Unit} (h : m.nodes p = .live n)
    (hok : handleDataIndication host env p msg m = .ok u m') :
  (env.nodeTimerCreate ∧ env.nodeTimerSettime) ∧
    ∃ pkt itValue, NetSimPacket.new host m.nextPkt msg p = .ok pkt ∧
      (Effect.transmit p n pkt itValue).Guard m ∧ m' = (Effect.transmit p n pkt itValue).apply m
  := by
  cases hnew : NetSimPacket.new host m.nextPkt msg p with
  | error e =>
      simp only [handleDataIndication, Exec.bind_apply, Exec.get_apply, hnew,
        Exec.ofExcept_error] at hok
      cases hok
  | ok pkt =>
      obtain ⟨hid, hclear⟩ := NetSimPacket.new_ok hnew
      cases hrefusal : n.curState.refusal .handleDataIndication with
      | some text =>
          rw [handleDataIndication_refused h hnew hrefusal] at hok
          cases hok
      | none =>
          have hstate : n.curState = .active := by
            cases hstate : n.curState <;> rw [hstate] at hrefusal <;> first | rfl | cases hrefusal
          cases hack : pkt.isAck with
          | error e =>
              simp only [handleDataIndication, Exec.bind_apply, Exec.get_apply, hnew,
                Exec.ofExcept_ok, Exec.modify_apply, record_apply, deref_apply, Medium.record, h,
                hstate, handleTxRequest, hack, Exec.ofExcept_error] at hok
              cases hok
          | ok isAck =>
              rw [handleDataIndication_eq h hnew hack, hstate] at hok
              simp only at hok
              split at hok
              · cases hok
              · next hstarted =>
                  split at hok
                  · cases hok
                  · next hcreate =>
                      split at hok
                      · cases hok
                      · next hsettime =>
                          cases hok
                          have hstopped : n.txTimer.started = false := by simpa using hstarted
                          refine ⟨⟨by simpa using hcreate, by simpa using hsettime⟩, pkt,
                            txTime isAck, rfl, ⟨h, hstate, hstopped, hid, hclear⟩, rfl⟩

/-- A step that calls `handleDataIndication` starts the transmission of a copy of the message. -/
theorem Indicates.transmits (h : Indicates host s i p msg)
    (hstep : s.step host kind i = .ok s') :
  ∃ n pkt itValue, NetSimPacket.new host s.med.nextPkt msg p = .ok pkt ∧
    (Effect.transmit p n pkt itValue).Guard s.med ∧
    s'.med = (Effect.transmit p n pkt itValue).apply s.med
  := by
  cases h with
  | @event m env ph ev evs p n msg rest hdata hlive hrdhup hinput hread =>
      cases hcall : handleDataIndication host env p msg m with
      | error e m₁ =>
          simp [Sys.step, stepProg, runStep, processPollerEvent_input hdata hrdhup hinput,
            readMsg_eq hlive, hread, callHandler, hcall] at hstep
      | ok u m₁ =>
          simp [Sys.step, stepProg, runStep, processPollerEvent_input hdata hrdhup hinput,
            readMsg_eq hlive, hread, callHandler, hcall] at hstep
          obtain ⟨-, pkt, itValue, hnew, hguard, rfl⟩ := handleDataIndication_ok hlive hcall
          exact ⟨n, pkt, itValue, hnew, hguard, by rw [← hstep]⟩

/-- A step that ends a transmission well multicasts what is relayed from the packet. -/
theorem processTxEntry_relays {j : Nat} {k : Nat} (h : m.nodes p = .live n)
    (hstarted : n.txTimer.started) (hstate : n.curState = .tx) (hpkt : n.txPkt = some pkt)
    (hok : processTxEntry host env j p m = .ok k m') :
  m' = m ∨ ∃ buf, (pkt.collision = false → Relays host pkt.pktBuffer buf) ∧
    m' = (Effect.conclude j p n pkt buf).apply m
  := by
  have hresult := processTxEntry_result h hstarted hstate hpkt host env j
  rw [hok] at hresult
  cases hresult with
  | waits =>
      left
      rfl
  | collided _ hcollided =>
      right
      exact ⟨[], by simp [hcollided], rfl⟩
  | @done pkt₁ pkt₂ bytes _ _ hrssi hcksum hbytes =>
      right
      refine ⟨pkt₂.pktBuffer, ?_, rfl⟩
      intro _
      exact ⟨{ pkt with txDoneResult := txDoneOk }, pkt₁, pkt₂, rfl, hrssi, hcksum, rfl⟩

/-- What a step of a medium can do to packets. -/
inductive PktNext (host : ByteOrder) (s : Sys) (i : Input) (s' : Sys) : Prop where
  | neutral : TxNeutral s.med s'.med → (∀ p msg, ¬ Indicates host s i p msg) → PktNext host s i s'
  | transmit {p : NodePtr} {msg : List UInt8} {n : DeviceNode} {pkt : NetSimPacket}
      {itValue : Timespec} : Indicates host s i p msg →
      NetSimPacket.new host s.med.nextPkt msg p = .ok pkt →
      (Effect.transmit p n pkt itValue).Guard s.med →
      s'.med = (Effect.transmit p n pkt itValue).apply s.med → PktNext host s i s'
  | collide : Effect.collide.Guard s.med → s'.med = Effect.collide.apply s.med →
      (∀ p msg, ¬ Indicates host s i p msg) → PktNext host s i s'
  | conclude {j : Nat} {p : NodePtr} {n : DeviceNode} {pkt : NetSimPacket} {buf : List UInt8} :
      (Effect.conclude j p n pkt buf).Guard s.med →
      (pkt.collision = false → Relays host pkt.pktBuffer buf) →
      s'.med = (Effect.conclude j p n pkt buf).apply s.med →
      (∀ p msg, ¬ Indicates host s i p msg) → PktNext host s i s'

/-- A step that gives the identity of a packet out calls `handleDataIndication`. -/
theorem indicates_of_next {ph : Phase} {ev : PollEvent} {evs : List PollEvent}
    (hnext : Next host kind ⟨.poll ph (ev :: evs), m⟩ i s')
    (hpkt : s'.med.nextPkt ≠ m.nextPkt) :
  ∃ p msg, Indicates host ⟨.poll ph (ev :: evs), m⟩ i p msg
  := by
  cases hnext with
  | poll hdata hlive heff hguard =>
      cases heff with
      | closed => apply absurd rfl hpkt
      | failedRead => apply absurd rfl hpkt
      | handled _ _ _ _ hrdhup hinput hread heff =>
          cases heff with
          | transmit => exact ⟨_, _, .event hdata hlive hrdhup hinput hread⟩
          | _ => apply absurd rfl hpkt
  | _ => apply absurd rfl hpkt

/-- A step that changes the transmit list while it is processed is one of the thread. -/
theorem run_of_next {j : Nat} (hnext : Next host kind ⟨.processTxList j, m⟩ i s')
    (hlist : s'.med.txList ≠ m.txList) :
  ∃ env, i = .run env
  := by
  cases hnext with
  | move => exact ⟨_, rfl⟩
  | conclude => exact ⟨_, rfl⟩
  | _ => apply absurd rfl hlist

/-- What a step of a medium does to packets. -/
theorem pktNext_of_step (henabled : s.Enabled i) (hstep : s.step host kind i = .ok s') :
  PktNext host s i s'
  := by
  by_cases hind : ∃ p msg, Indicates host s i p msg
  · obtain ⟨p, msg, hind⟩ := hind
    obtain ⟨n, pkt, itValue, hnew, hguard, hmed⟩ := hind.transmits hstep
    exact .transmit hind hnew hguard hmed
  · have hnone : ∀ p msg, ¬ Indicates host s i p msg := by simpa using hind
    have hnext := next_of_step henabled hstep
    cases txNext_of_next hnext with
    | neutral hkept _ => exact .neutral hkept hnone
    | collide _ hguard => exact .collide hguard rfl hnone
    | transmit hguard =>
        apply absurd _ hind
        apply indicates_of_next hnext
        simp [Effect.apply]
    | @conclude m j p n pkt buf hguard =>
        have hshorter : (m.txList.eraseIdx j).length ≠ m.txList.length := by
          obtain ⟨hj, -⟩ := List.getElem?_eq_some_iff.mp hguard.1
          rw [List.length_eraseIdx_of_lt hj]
          omega
        obtain ⟨env, rfl⟩ := run_of_next hnext (fun h => hshorter (congrArg List.length h))
        obtain ⟨hentry, hlive, hstate, hpkt, hstarted⟩ := hguard
        cases htx : processTxEntry host env j p m with
        | error e m₁ => simp [Sys.step, stepProg, runStep, hentry, htx] at hstep
        | ok k m₁ =>
            simp [Sys.step, stepProg, runStep, hentry, htx] at hstep
            rcases processTxEntry_relays hlive hstarted hstate hpkt htx with
              rfl | ⟨buf', hrelays, rfl⟩
            · rw [← hstep.2]
              exact .neutral (.refl _) hnone
            · rw [← hstep.2]
              exact .conclude ⟨hentry, hlive, hstate, hpkt, hstarted⟩ hrelays rfl hnone

/-! ### Packets and their messages -/

/-- A step of a run has called `handleDataIndication` for a message of a node, and made the packet
with the given identity. -/
def Source (host : ByteOrder) (visits : List (Sys × Input)) (p : NodePtr) (k : PktId)
    (msg : List UInt8) : Prop :=
  ∃ x i, (x, i) ∈ visits ∧ x.med.nextPkt = k ∧ Indicates host x i p msg

theorem Source.mono {visits' : List (Sys × Input)} {k : PktId} (h : Source host visits p k msg)
    (hsub : visits ⊆ visits') :
  Source host visits' p k msg
  := by
  obtain ⟨x, i, hx, hk, hind⟩ := h
  exact ⟨x, i, hsub hx, hk, hind⟩

/-- The packets of a medium hold the messages that they have been made from, and what has been
multicast is relayed from these. -/
structure Relaying (host : ByteOrder) (visits : List (Sys × Input)) (m : Medium) : Prop where
  visited : ∀ {x i p msg}, (x, i) ∈ visits → Indicates host x i p msg → x.med.nextPkt < m.nextPkt
  distinct : ∀ {k p msg p' msg'}, Source host visits p k msg → Source host visits p' k msg' →
    p = p' ∧ msg = msg'
  packets : ∀ {p n pkt}, m.nodes p = .live n → n.txPkt = some pkt →
    Source host visits p pkt.id pkt.pktBuffer
  relays : ∀ {p k buf}, .multicast p k buf ∈ m.log →
    ∃ msg, Source host visits p k msg ∧ Relays host msg buf

/-- A node with a packet had it before, when transmissions are left as they are. -/
theorem TxNeutral.txPkt (h : TxNeutral m m') (hlive : m'.nodes p = .live n)
    (hpkt : n.txPkt = some pkt) :
  ∃ n', m.nodes p = .live n' ∧ n'.txPkt = some pkt
  := by
  have hnode := h.nodes p
  rw [hlive] at hnode
  generalize m.nodes p = c at hnode
  cases hnode with
  | same => exact ⟨n, rfl, hpkt⟩
  | alike halike => exact ⟨_, rfl, halike.txPkt.symm.trans hpkt⟩
  | added hidle =>
      rw [hidle.txPkt] at hpkt
      cases hpkt

/-- The message that `handleDataIndication` is called for has been received. -/
theorem Indicates.received (h : Indicates host s i p msg) :
  ∃ frame, (∃ nodeId, Received host nodeId .handleDataIndication frame) ∧ msg = blankCksum frame
  := by
  cases h with
  | event _ _ _ _ hread =>
      obtain ⟨frame, hframe, hmsg⟩ := readMsgFrame_call hread
      exact ⟨frame, ⟨_, hframe⟩, hmsg⟩

/-- A packet holds the message it has been made from. -/
theorem Indicates.new_pktBuffer {k : PktId} (h : Indicates host s i p msg)
    (hnew : NetSimPacket.new host k msg p = .ok pkt) :
  pkt.id = k ∧ pkt.pktBuffer = msg
  := by
  use (NetSimPacket.new_ok hnew).1
  obtain ⟨frame, ⟨nodeId, hframe⟩, rfl⟩ := h.received
  have hsize : Hdr.size ≤ (blankCksum frame).length := by
    rw [length_blankCksum hframe.size]
    apply hframe.size
  obtain ⟨pkt', hnew', hbuffer⟩ := NetSimPacket.new_whole host hsize hframe.len_value k p
  rw [hnew'] at hnew
  cases hnew
  apply hbuffer

namespace Relaying

theorem initial :
  Relaying host [] Medium.new
  where
  visited h := by cases h
  distinct h := by
    obtain ⟨x, i, hx, -⟩ := h
    cases hx
  packets h := by cases h
  relays h := by cases h

/-- A step that calls `handleDataIndication` for no message adds no source. -/
theorem quiet (h : Relaying host visits m) (hnone : ∀ p msg, ¬ Indicates host s i p msg)
    (hnext : m.nextPkt ≤ m'.nextPkt)
    (hpackets : ∀ {p n pkt}, m'.nodes p = .live n → n.txPkt = some pkt →
      Source host visits p pkt.id pkt.pktBuffer)
    (hrelays : ∀ {p k buf}, .multicast p k buf ∈ m'.log →
      ∃ msg, Source host visits p k msg ∧ Relays host msg buf) :
  Relaying host (visits ++ [(s, i)]) m'
  where
  visited hx hind := by
    rcases List.mem_append.mp hx with hx | hx
    · apply lt_of_lt_of_le (h.visited hx hind) hnext
    · obtain ⟨rfl, rfl⟩ := Prod.mk.inj (List.mem_singleton.mp hx)
      apply absurd hind (hnone _ _)
  distinct hp hp' := by
    have hold : ∀ {p k msg}, Source host (visits ++ [(s, i)]) p k msg →
        Source host visits p k msg := by
      rintro p k msg ⟨x, j, hx, hk, hind⟩
      rcases List.mem_append.mp hx with hx | hx
      · exact ⟨x, j, hx, hk, hind⟩
      · obtain ⟨rfl, rfl⟩ := Prod.mk.inj (List.mem_singleton.mp hx)
        apply absurd hind (hnone _ _)
    apply h.distinct (hold hp) (hold hp')
  packets hlive hpkt := (hpackets hlive hpkt).mono (List.subset_append_left _ _)
  relays hlog := by
    obtain ⟨msg, hsource, hrelay⟩ := hrelays hlog
    exact ⟨msg, hsource.mono (List.subset_append_left _ _), hrelay⟩

/-- A step that calls `handleDataIndication` makes a packet with a new identity. -/
theorem transmit {itValue : Timespec} (h : Relaying host visits s.med)
    (hind : Indicates host s i p msg)
    (hnew : NetSimPacket.new host s.med.nextPkt msg p = .ok pkt) :
  Relaying host (visits ++ [(s, i)]) ((Effect.transmit p n pkt itValue).apply s.med)
  := by
  have hsource : Source host (visits ++ [(s, i)]) p s.med.nextPkt msg :=
    ⟨s, i, List.mem_append_right _ (List.mem_singleton_self _), rfl, hind⟩
  have hmono : ∀ {q k msg}, Source host visits q k msg →
      Source host (visits ++ [(s, i)]) q k msg := by
    intro q k msg hq
    apply hq.mono (List.subset_append_left _ _)
  have hcases : ∀ {q k msg'}, Source host (visits ++ [(s, i)]) q k msg' →
      Source host visits q k msg' ∧ k < s.med.nextPkt ∨ k = s.med.nextPkt ∧ q = p ∧ msg' = msg := by
    rintro q k msg' ⟨x, j, hx, rfl, hind'⟩
    rcases List.mem_append.mp hx with hx | hx
    · left
      exact ⟨⟨x, j, hx, rfl, hind'⟩, h.visited hx hind'⟩
    · right
      obtain ⟨rfl, rfl⟩ := Prod.mk.inj (List.mem_singleton.mp hx)
      exact ⟨rfl, hind'.unique hind⟩
  constructor
  · intro x j q msg' hx hind'
    have hlt : x.med.nextPkt ≤ s.med.nextPkt := by
      rcases hcases ⟨x, j, hx, rfl, hind'⟩ with ⟨-, hlt⟩ | ⟨heq, -⟩
      · apply le_of_lt hlt
      · apply le_of_eq heq
    apply Nat.lt_succ_of_le hlt
  · intro k q msg' q' msg'' hq hq'
    rcases hcases hq with ⟨hq, hlt⟩ | ⟨rfl, rfl, rfl⟩
    · rcases hcases hq' with ⟨hq', -⟩ | ⟨rfl, -⟩
      · apply h.distinct hq hq'
      · apply absurd hlt (lt_irrefl _)
    · rcases hcases hq' with ⟨-, hlt⟩ | ⟨-, rfl, rfl⟩
      · apply absurd hlt (lt_irrefl _)
      · exact ⟨rfl, rfl⟩
  · intro q n' pkt' hlive hpkt
    rcases live_of_update hlive with ⟨rfl, ⟨⟩⟩ | ⟨hq, hlive⟩
    · cases hpkt
      obtain ⟨hid, hbuffer⟩ := hind.new_pktBuffer hnew
      rw [hid, hbuffer]
      apply hsource
    · apply hmono (h.packets hlive hpkt)
  · intro q k buf hlog
    have hold : .multicast q k buf ∈ s.med.log := by simpa [Effect.apply] using hlog
    obtain ⟨msg', hq, hrelay⟩ := h.relays hold
    exact ⟨msg', hmono hq, hrelay⟩

/-- Every step of a run keeps the packets and what has been relayed from them. -/
theorem next (h : Relaying host visits s.med) (hnext : PktNext host s i s') :
  Relaying host (visits ++ [(s, i)]) s'.med
  := by
  cases hnext with
  | transmit hind hnew hguard hmed =>
      rw [hmed]
      apply h.transmit hind hnew
  | neutral hkept hnone =>
      apply h.quiet hnone (le_of_eq hkept.nextPkt.symm)
      · intro p n pkt hlive hpkt
        obtain ⟨n', hlive', hpkt'⟩ := hkept.txPkt hlive hpkt
        apply h.packets hlive' hpkt'
      · intro p k buf hlog
        obtain ⟨es, hes, hno⟩ := hkept.log
        rw [hes] at hlog
        rcases List.mem_append.mp hlog with hlog | hlog
        · apply h.relays hlog
        · cases hno _ hlog
  | collide hguard hmed hnone =>
      have hpkt : s.med.nextPkt ≤ (Effect.collide.apply s.med).nextPkt := le_refl _
      rw [hmed]
      apply h.quiet hnone hpkt
      · intro p n pkt hlive hpkt
        by_cases hp : p ∈ s.med.txList
        · obtain ⟨n', pkt', hlive', hpkt'⟩ := hguard.2 p hp
          simp only [Effect.apply, if_pos hp, hlive', NodeCell.collide,
            NodeCell.live.injEq] at hlive
          subst hlive
          rw [DeviceNode.collide, hpkt', Option.map_some, Option.some.injEq] at hpkt
          subst hpkt
          apply h.packets hlive' hpkt'
        · simp only [Effect.apply, if_neg hp] at hlive
          apply h.packets hlive hpkt
      · exact h.relays
  | @conclude j p n pkt buf hguard hrelays hmed hnone =>
      have hpkt : s.med.nextPkt ≤ ((Effect.conclude j p n pkt buf).apply s.med).nextPkt :=
        le_refl _
      rw [hmed]
      apply h.quiet hnone hpkt
      · intro q n' pkt' hlive hpkt
        rcases live_of_update hlive with ⟨rfl, ⟨⟩⟩ | ⟨hq, hlive⟩
        · cases hpkt
        · apply h.packets hlive hpkt
      · intro q k buf' hlog
        rcases List.mem_append.mp hlog with hlog | hlog
        · apply h.relays hlog
        · by_cases hcollided : pkt.collision
          · simp [concludeEvents, hcollided] at hlog
          · simp [concludeEvents, hcollided] at hlog
            obtain ⟨rfl, rfl, rfl⟩ := hlog
            exact ⟨_, h.packets hguard.2.1 hguard.2.2.2.1, hrelays (by simpa using hcollided)⟩

/-- The packets of a medium hold the messages of its run, and these have been relayed. -/
theorem run (run : (medium host kind).Run ⟨.start, Medium.new⟩ visits s) :
  Relaying host visits s.med
  := by
  induction run with
  | nil => apply Relaying.initial
  | snoc _ henabled hstep ih => apply ih.next (pktNext_of_step henabled hstep)

end Relaying

/-! ### The end of a run -/

/-- The log of a medium that halts in the relay of a packet. -/
theorem RelayError.log {m₀ : Medium} (h : RelayError host m p n pkt m₀) :
  m₀.log = m.log ∧ pkt.pktBuffer.length < DataInd.pktData ∨
    ∃ buf, m₀.log = m.log ++ [.multicast p pkt.id buf] ∧ Relays host pkt.pktBuffer buf
  := by
  cases h with
  | short hshort =>
      left
      exact ⟨rfl, hshort⟩
  | @dump pkt₁ pkt₂ hrssi hcksum =>
      right
      have hid : pkt₂.id = pkt.id := by
        rw [(NetSimPacket.write_id hcksum).1, (NetSimPacket.write_id hrssi).1]
      exact ⟨pkt₂.pktBuffer, by rw [← hid]; rfl, pkt, pkt₁, pkt₂, rfl, hrssi, hcksum, rfl⟩

/-- What has been multicast at the end of a run is relayed from messages of the run. -/
theorem Relaying.endsWith (run : (medium host kind).Run ⟨.start, Medium.new⟩ visits s)
    (hend : Ending host kind s last m) {k : PktId} {buf : List UInt8}
    (hlog : .multicast p k buf ∈ m.log) :
  ∃ msg, Source host visits p k msg ∧ Relays host msg buf
  := by
  have hkept := Relaying.run run
  cases hend with
  | here => apply hkept.relays hlog
  | halted hhalts =>
    have horderly : Orderly s := .reachable ⟨_, visits, rfl, run, by simp⟩
    rcases (halt_of_halts horderly hhalts).log horderly with
      ⟨es, hes, hno⟩ | ⟨j, q, n, pkt, hguard, -, hrelay⟩
    · rw [hes] at hlog
      rcases List.mem_append.mp hlog with hlog | hlog
      · apply hkept.relays hlog
      · cases hno _ hlog
    · have hdone : .multicast p k buf ∈ (s.med.txDone q n pkt).log →
          .multicast p k buf ∈ s.med.log := by
        simp [Medium.txDone, Medium.record, Medium.putNode]
      rcases hrelay.log with ⟨hsame, -⟩ | ⟨buf', hes, hrelays⟩
      · rw [hsame] at hlog
        apply hkept.relays (hdone hlog)
      · rw [hes] at hlog
        rcases List.mem_append.mp hlog with hlog | hlog
        · apply hkept.relays (hdone hlog)
        · have hsource : Source host visits q pkt.id pkt.pktBuffer :=
            hkept.packets hguard.2.1 hguard.2.2.2.1
          cases List.mem_singleton.mp hlog
          exact ⟨pkt.pktBuffer, hsource, hrelays⟩

/-- At the end of a run every packet of which a node has been told that it has been sent, and that
is as long as a data indication, has been multicast. -/
theorem multicast_of_txDone (run : (medium host kind).Run ⟨.start, Medium.new⟩ visits s)
    (hend : Ending host kind s last m) {k : PktId} (hsource : Source host visits p k msg)
    (hsize : DataInd.pktData ≤ msg.length) {past : List Event}
    (hdone : Entry m.log past (.sent p (.txDoneInd txDoneOk)))
    (hair : (p, some k) ∈ onAir past) :
  ∃ buf, .multicast p k buf ∈ m.log
  := by
  have hreach : (medium host kind).Reachable s := ⟨_, visits, rfl, run, by simp⟩
  have haccount := TxAccount.reachable hreach
  cases hend with
  | here => apply (haccount.multicast p k).mpr ⟨past, hdone, hair⟩
  | halted hhalts =>
    have horderly : Orderly s := .reachable hreach
    have hold : Entry s.med.log past (.sent p (.txDoneInd txDoneOk)) → s.med.log <+: m.log →
        ∃ buf, .multicast p k buf ∈ m.log := by
      intro hentry hprefix
      obtain ⟨buf, hbuf⟩ := (haccount.multicast p k).mpr ⟨past, hentry, hair⟩
      exact ⟨buf, hprefix.subset hbuf⟩
    rcases (halt_of_halts horderly hhalts).log horderly with
      ⟨es, hes, hno⟩ | ⟨j, q, n, pkt, hguard, -, hrelay⟩
    · apply hold
      · rw [hes, entry_neutral hno rfl] at hdone
        apply hdone
      · rw [hes]
        apply List.prefix_append
    · have hlog : (s.med.txDone q n pkt).log
          = (s.med.log ++ [.timerDelete q .txTimer]) ++ [.sent q (.txDoneInd txDoneOk)] := by
        simp [Medium.txDone, Medium.record, Medium.putNode]
      have hprefix : s.med.log <+: m.log := by
        rcases hrelay.log with ⟨hsame, -⟩ | ⟨buf, hes, -⟩
        · rw [hsame, hlog, List.append_assoc]
          apply List.prefix_append
        · rw [hes, hlog, List.append_assoc, List.append_assoc]
          apply List.prefix_append
      have hentry : Entry (s.med.txDone q n pkt).log past (.sent p (.txDoneInd txDoneOk)) := by
        rcases hrelay.log with ⟨hsame, -⟩ | ⟨buf, hes, -⟩
        · rw [← hsame]
          apply hdone
        · rw [hes, entry_concat] at hdone
          rcases hdone with hdone | ⟨-, hother⟩
          · apply hdone
          · cases hother
      rw [hlog, entry_concat, entry_concat] at hentry
      rcases hentry with (hentry | ⟨-, hother⟩) | ⟨rfl, hsent⟩
      · apply hold hentry hprefix
      · cases hother
      · cases hsent
        obtain ⟨-, hlive, -, hpkt, -⟩ := hguard
        rw [onAir_neutral (by simp [Event.isTx])] at hair
        have hid := (tx_reachable hreach).2.carried hair hlive
        rw [hpkt, Option.map_some, Option.some.injEq] at hid
        have hkept := Relaying.run run
        have hpacket := hkept.packets hlive hpkt
        rw [hid] at hpacket
        obtain ⟨-, hbuffer⟩ := hkept.distinct hpacket hsource
        rcases hrelay.log with ⟨-, hshort⟩ | ⟨buf, hes, -⟩
        · rw [← hbuffer] at hsize
          apply absurd hshort (not_lt_of_ge hsize)
        · refine ⟨buf, ?_⟩
          rw [hes, ← hid]
          apply List.mem_append_right _ (List.mem_singleton_self _)

/-- For every frame, as long as a data indication at least, that `readMsg` dispatches in a run,
and whose transmission has ended well: what is multicast for it is the frame but for the signal
strength and the checksum, and the checksum verifies. -/
theorem relay_transparent (run : (medium host kind).Run ⟨.start, Medium.new⟩ visits s)
    (hend : Ending host kind s last m) {x : Sys} {frame : List UInt8} (hx : (x, i) ∈ visits)
    (hind : Indicates host x i p (blankCksum frame)) (hsize : DataInd.pktData ≤ frame.length)
    {past : List Event} (hdone : Entry m.log past (.sent p (.txDoneInd txDoneOk)))
    (hair : (p, some x.med.nextPkt) ∈ onAir past) :
  (∃ buf, .multicast p x.med.nextPkt buf ∈ m.log) ∧
    ∀ q buf, .multicast q x.med.nextPkt buf ∈ m.log → q = p ∧ Transparent host frame buf
  := by
  have hheader : Hdr.size ≤ frame.length := le_trans (by decide) hsize
  have hsource : Source host visits p x.med.nextPkt (blankCksum frame) := ⟨x, i, hx, rfl, hind⟩
  constructor
  · apply multicast_of_txDone run hend hsource _ hdone hair
    rw [length_blankCksum hheader]
    apply hsize
  · intro q buf hlog
    obtain ⟨msg', hsource', hrelays⟩ := Relaying.endsWith run hend hlog
    obtain ⟨rfl, rfl⟩ := (Relaying.run run).distinct hsource' hsource
    exact ⟨rfl, hrelays.transparent hheader⟩

/-- The frame of the only node is relayed. -/
theorem relay_transparent_frame :
  ∃ visits s x i frame buf, (medium .little .powerline).Run ⟨.start, Medium.new⟩ visits s ∧
    (x, i) ∈ visits ∧ Indicates .little x i 1 (blankCksum frame) ∧
    .multicast 1 x.med.nextPkt buf ∈ s.med.log ∧ Transparent .little frame buf
  := by
  obtain ⟨m, n, pkt, buf, htx, hrunning⟩ := running_concluded .little .powerline 1
    (dispatched_dataFrame .little 7) (psduFits_dataFrame .little 7)
  have haccount := TxAccount.reachable hrunning.reachable
  obtain ⟨s₀, visits, rfl, run, -⟩ := hrunning.reachable
  have hlog : .multicast 1 pkt.id buf ∈ ((Effect.conclude 0 1 n pkt buf).apply m).log := by
    simp [Effect.apply, concludeEvents, htx.collision]
  obtain ⟨msg, ⟨x, i, hx, hk, hind⟩, hrelays⟩ := (Relaying.run run).relays hlog
  obtain ⟨past, hdone, hair⟩ := (haccount.multicast 1 pkt.id).mp ⟨buf, hlog⟩
  obtain ⟨frame, ⟨nodeId, hframe⟩, rfl⟩ := hind.received
  have hsize : DataInd.pktData ≤ frame.length := by
    rw [← length_blankCksum hframe.size]
    apply hrelays.size
  rw [← hk] at hair hlog
  have htransparent := relay_transparent run .here hx hind hsize hdone hair
  exact ⟨visits, _, x, i, frame, buf, run, hx, hind, hlog, (htransparent.2 1 buf hlog).2⟩

end X6losim
