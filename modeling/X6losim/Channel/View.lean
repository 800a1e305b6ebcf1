import X6losim.Channel.Spec
import X6losim.Invariant.Relay
import X6losim.Invariant.Dangling

/-!
# A medium as a channel

The channel that a medium is: its nodes are the stations, and the packets of transmitting nodes are
the frames that are sent.  Packets that are on the transmit list together are not marked as collided
at once, so `unmarked` tells whether those on the list will be.  Each effect of a thread is a step
of the channel, or none.
-/

open Bytes

namespace X6losim

variable {host : ByteOrder} {kind : Kind} {m m' : Medium} {p q : NodePtr} {n n' : DeviceNode}
  {pkt : NetSimPacket} {c : NodeCell} {unmarked unmarked' collides : Prop}

/-- A node that has not confirmed its registration. -/
def NodeCell.Invited (c : NodeCell) : Prop := ∃ n, c = .live n ∧ n.curState = .registering

/-- A node that has confirmed its registration. -/
def NodeCell.Joined (c : NodeCell) : Prop := ∃ n, c = .live n ∧ n.curState ≠ .registering

/-- The packet that a node transmits. -/
def NodeCell.txPkt : NodeCell → Option NetSimPacket
  | .live n => n.txPkt
  | .unborn => none
  | .destroyed => none

/-- The packet of a node is marked as collided, or will be. -/
def NodeCell.Spoilt (unmarked : Prop) (c : NodeCell) : Prop :=
  ∃ pkt, c.txPkt = some pkt ∧ (pkt.collision ∨ unmarked)

/-- A medium as a channel. -/
def Medium.channel (m : Medium) (unmarked : Prop) : Channel NodePtr (List UInt8) where
  invited := {p | (m.nodes p).Invited}
  joined := {p | (m.nodes p).Joined}
  sending p := (m.nodes p).txPkt.map NetSimPacket.pktBuffer
  spoilt := {p | (m.nodes p).Spoilt unmarked}
  asking := m.ccaList

/-- What an event is seen as. -/
def Event.act (m : Medium) : Event → Option (Channel.Act NodePtr (List UInt8))
  | .sent p .regReq => some (.invite p)
  | .sent p .deregCon => some (.release p)
  | .sent p (.ccaCon result) => some (.answer p result)
  | .sent p (.txDoneInd result) => some (.finish p (result = txDoneOk))
  | .ccaRequest p => some (.ask p)
  | .dataIndication p _ => (m.nodes p).txPkt.map (fun pkt => .send p pkt.pktBuffer)
  | .multicast p _ buf => some (.deliver p buf)
  | .deleteNode p => some (.leave p)
  | _ => none

/-- What events are seen as, when a medium is as it is after them. -/
def acts (m : Medium) (es : List Event) : List (Channel.Act NodePtr (List UInt8)) :=
  es.filterMap (Event.act m)

/-- What is seen of a medium that goes from one state to another. -/
def Medium.look (m m' : Medium) : List (Channel.Act NodePtr (List UInt8)) :=
  acts m' (m'.log.drop m.log.length)

theorem Medium.look_eq {es : List Event} (hlog : m'.log = m.log ++ es) :
  m.look m' = acts m' es
  := by
  rw [Medium.look, hlog, List.drop_left]

/-! ### The nodes of a channel -/

theorem NodeCell.invited_live :
  (NodeCell.live n).Invited ↔ n.curState = .registering
  := by
  simp [NodeCell.Invited]

theorem NodeCell.joined_live :
  (NodeCell.live n).Joined ↔ n.curState ≠ .registering
  := by
  simp [NodeCell.Joined]

theorem NodeCell.not_invited_destroyed :
  ¬ NodeCell.destroyed.Invited
  := by
  simp [NodeCell.Invited]

theorem NodeCell.not_joined_destroyed :
  ¬ NodeCell.destroyed.Joined
  := by
  simp [NodeCell.Joined]

theorem NodeCell.spoilt_iff (h : c.txPkt = some pkt) :
  c.Spoilt unmarked ↔ pkt.collision ∨ unmarked
  := by
  simp [NodeCell.Spoilt, h]

theorem NodeCell.not_spoilt (h : c.txPkt = none) :
  ¬ c.Spoilt unmarked
  := by
  simp [NodeCell.Spoilt, h]

/-- A channel shows at a pointer what the pointer leads to. -/
structure Channel.Shows (ch : Channel NodePtr (List UInt8)) (unmarked : Prop) (p : NodePtr)
    (c : NodeCell) : Prop where
  invited : p ∈ ch.invited ↔ c.Invited
  joined : p ∈ ch.joined ↔ c.Joined
  sending : ch.sending p = c.txPkt.map NetSimPacket.pktBuffer
  spoilt : p ∈ ch.spoilt ↔ c.Spoilt unmarked

theorem Medium.channel_shows (m : Medium) (unmarked : Prop) (p : NodePtr) :
  (m.channel unmarked).Shows unmarked p (m.nodes p)
  := ⟨Iff.rfl, Iff.rfl, rfl, Iff.rfl⟩

/-- The channel of a medium is the one that shows all its nodes. -/
theorem Medium.channel_eq {ch : Channel NodePtr (List UInt8)}
    (hshows : ∀ q, ch.Shows unmarked q (m.nodes q)) (hasking : ch.asking = m.ccaList) :
  m.channel unmarked = ch
  := by
  refine Channel.ext (Set.ext ?_) (Set.ext ?_) (funext ?_) (Set.ext ?_) hasking.symm
  · intro q
    apply (hshows q).invited.symm
  · intro q
    apply (hshows q).joined.symm
  · intro q
    apply (hshows q).sending.symm
  · intro q
    apply (hshows q).spoilt.symm

/-- The channel of a medium of which nothing but one node has changed. -/
theorem Medium.channel_update {ch : Channel NodePtr (List UInt8)}
    (hnodes : m'.nodes = Function.update m.nodes p c) (hasking : ch.asking = m'.ccaList)
    (hp : ch.Shows unmarked p c) (hother : ∀ q, q ≠ p → ch.Shows unmarked q (m.nodes q)) :
  m'.channel unmarked = ch
  := by
  apply Medium.channel_eq _ hasking
  intro q
  rw [hnodes]
  by_cases hq : q = p
  · subst hq
    rw [Function.update_self]
    apply hp
  · rw [Function.update_of_ne hq]
    apply hother q hq

/-! ### Transmissions of a channel -/

/-- The nodes that transmit are those on the transmit list. -/
theorem TxConsistent.txPkt_iff (h : TxConsistent m) (hthere : m.TxThere) :
  (m.nodes p).txPkt ≠ none ↔ p ∈ m.txList
  := by
  constructor
  · intro hne
    by_contra hp
    cases hnode : m.nodes p with
    | live n =>
        rw [hnode] at hne
        apply hne (h.idle hp hnode).txPkt
    | unborn =>
        rw [hnode] at hne
        apply hne rfl
    | destroyed =>
        rw [hnode] at hne
        apply hne rfl
  · intro hp
    obtain ⟨n, hlive⟩ := hthere p hp
    obtain ⟨-, -, pkt, hpkt⟩ := h.transmitting hp hlive
    simp [hlive, NodeCell.txPkt, hpkt]

/-- The channel is clear when the transmit list is empty. -/
theorem TxConsistent.clear_iff (h : TxConsistent m) (hthere : m.TxThere) :
  (m.channel unmarked).Clear ↔ m.txList = []
  := by
  have hsending : ∀ q, (m.channel unmarked).sending q = none ↔ q ∉ m.txList := by
    intro q
    rw [Medium.channel, Option.map_eq_none_iff, ← h.txPkt_iff hthere, not_not]
  simp only [Channel.Clear, hsending]
  rw [List.eq_nil_iff_forall_not_mem]

/-! ### Effects -/

/-- What is seen of an effect is done on the channel. -/
def Effect.Seen (collides : Prop) (carries : List UInt8 → List UInt8 → Prop) (m : Medium)
    (eff : Effect) (unmarked unmarked' : Prop) : Prop :=
  (Channel.spec collides carries).Does (m.channel unmarked) (acts (eff.apply m) (eff.events m))
    ((eff.apply m).channel unmarked')

variable {carries : List UInt8 → List UInt8 → Prop}

/-- What is seen of a medium that has an effect. -/
theorem Effect.Seen.look {eff : Effect} (h : eff.Seen collides carries m unmarked unmarked') :
  (Channel.spec collides carries).Does (m.channel unmarked) (m.look (eff.apply m))
    ((eff.apply m).channel unmarked')
  := by
  rw [Medium.look_eq (eff.log_apply m)]
  apply h

/-- An effect that is not seen and leaves the channel as it is. -/
theorem Effect.Seen.silent {eff : Effect} (hacts : acts (eff.apply m) (eff.events m) = [])
    (hsame : (eff.apply m).channel unmarked' = m.channel unmarked) :
  eff.Seen collides carries m unmarked unmarked'
  := by
  rw [Effect.Seen, hacts, hsame]
  apply Specification.Does.nil

/-- An effect that is a step of the channel. -/
theorem Effect.Seen.step {eff : Effect} {seen : List (Channel.Act NodePtr (List UInt8))}
    {ch : Channel NodePtr (List UInt8)}
    (hstep : Channel.Step collides carries (m.channel unmarked) seen ch)
    (hacts : acts (eff.apply m) (eff.events m) = seen)
    (hchannel : (eff.apply m).channel unmarked' = ch) :
  eff.Seen collides carries m unmarked unmarked'
  := by
  rw [Effect.Seen, hacts, hchannel]
  apply hstep.does

theorem seen_failedRead (hlive : m.nodes p = .live n) :
  (Effect.failedRead p n).Seen collides carries m unmarked unmarked
  := by
  apply Effect.Seen.silent rfl
  apply Medium.channel_update rfl rfl
  · have hp := m.channel_shows unmarked p
    rw [hlive] at hp
    exact ⟨by simp [hp.invited, NodeCell.invited_live], by simp [hp.joined, NodeCell.joined_live],
      hp.sending, hp.spoilt⟩
  · intro q _
    apply m.channel_shows

/-- A node that confirms its registration joins. -/
theorem seen_confirm {os osVersion : List UInt8}
    (hguard : (Effect.confirm p n os osVersion).Guard m) :
  (Effect.confirm p n os osVersion).Seen collides carries m unmarked unmarked
  := by
  obtain ⟨hlive, hstate, -⟩ := hguard
  have hacts : acts ((Effect.confirm p n os osVersion).apply m)
      ((Effect.confirm p n os osVersion).events m) = [] := by
    simp only [acts, Effect.events]
    split <;> rfl
  have hp := m.channel_shows unmarked p
  rw [hlive] at hp
  have hinvited : p ∈ (m.channel unmarked).invited := by
    rw [hp.invited, NodeCell.invited_live]
    apply hstate
  apply Effect.Seen.step (.join hinvited) hacts
  apply Medium.channel_update rfl rfl
  · exact ⟨by simp [NodeCell.invited_live], by simp [NodeCell.joined_live], hp.sending,
      hp.spoilt⟩
  · intro q hq
    have hother := m.channel_shows unmarked q
    exact ⟨by simp [hq, hother.invited], by simp [hq, hother.joined], hother.sending,
      hother.spoilt⟩

/-- The events of the deletion of a node show that it leaves. -/
theorem acts_deleteEvents (m : Medium) (p : NodePtr) (n : DeviceNode) :
  acts m (deleteEvents p n) = [.leave p]
  := by
  simp only [acts, deleteEvents]
  split <;> rfl

/-- A medium without a node, as a channel. -/
theorem Medium.channel_delete (hlive : m.nodes p = .live n) (hidle : n.txPkt = none)
    (hnodes : m'.nodes = Function.update m.nodes p .destroyed) (hcca : m'.ccaList = m.ccaList) :
  m'.channel unmarked = (m.channel unmarked).leave p
  := by
  apply Medium.channel_update hnodes hcca.symm
  · have hp := m.channel_shows unmarked p
    rw [hlive] at hp
    refine ⟨?_, ?_, ?_, ?_⟩
    · simp [Channel.leave, NodeCell.not_invited_destroyed]
    · simp [Channel.leave, NodeCell.not_joined_destroyed]
    · rw [Channel.leave, hp.sending, NodeCell.txPkt, hidle]
      rfl
    · rw [Channel.leave, hp.spoilt]
      simp [NodeCell.Spoilt, NodeCell.txPkt, hidle]
  · intro q hq
    have hother := m.channel_shows unmarked q
    exact ⟨by simp [Channel.leave, hq, hother.invited], by simp [Channel.leave, hq, hother.joined],
      hother.sending, hother.spoilt⟩

/-- A node that is there and neither transmits nor waits for an assessment may leave. -/
theorem step_leave (hlive : m.nodes p = .live n) (hidle : n.txPkt = none) (hcca : p ∉ m.ccaList)
    (told : Bool) :
  Channel.Step collides carries (m.channel unmarked)
    ((if told then [.release p] else []) ++ [.leave p]) ((m.channel unmarked).leave p)
  := by
  have hp := m.channel_shows unmarked p
  rw [hlive] at hp
  apply Channel.Step.leave
  · rw [Set.mem_union, hp.invited, hp.joined, NodeCell.invited_live, NodeCell.joined_live]
    apply em
  · rw [hp.sending, NodeCell.txPkt, hidle]
    rfl
  · apply hcca

/-- A node that is deregistered leaves, and is told so if it has asked for it. -/
theorem seen_disconnect {asked : Bool} (hguard : (Effect.disconnect p n asked).Guard m)
    (hidle : n.txPkt = none) (hcca : p ∉ m.ccaList) :
  (Effect.disconnect p n asked).Seen collides carries m unmarked unmarked
  := by
  have hlive := hguard.1
  apply Effect.Seen.step (step_leave hlive hidle hcca asked)
  · rw [acts, Effect.events, List.filterMap_append, ← acts, ← acts, acts_deleteEvents]
    cases asked <;> rfl
  · exact Medium.channel_delete hlive hidle rfl rfl

/-- A node that has not confirmed its registration in time leaves. -/
theorem seen_expire {key : UInt64} (hguard : (Effect.expire key p n).Guard m)
    (hidle : n.txPkt = none) (hcca : p ∉ m.ccaList) :
  (Effect.expire key p n).Seen collides carries m unmarked unmarked
  := by
  have hlive := hguard.2.1
  apply Effect.Seen.step (step_leave hlive hidle hcca false)
  · apply acts_deleteEvents
  · exact Medium.channel_delete hlive hidle rfl rfl

/-- A node that asks for an assessment waits for one. -/
theorem seen_request (hguard : (Effect.request p n).Guard m) :
  (Effect.request p n).Seen collides carries m unmarked unmarked
  := by
  obtain ⟨hlive, hstate⟩ := hguard
  have hp := m.channel_shows unmarked p
  rw [hlive] at hp
  have hjoined : p ∈ (m.channel unmarked).joined := by
    rw [hp.joined, NodeCell.joined_live]
    apply hstate
  apply Effect.Seen.step (.ask hjoined) rfl
  rfl

/-- A node gets the answer that the channel is clear when the state is idle, which is so when no
node transmits. -/
theorem seen_answer {rest : List NodePtr} (hguard : (Effect.answer p rest).Guard m)
    (hclear : m.state = .idle ↔ (m.channel unmarked).Clear) :
  (Effect.answer p rest).Seen collides carries m unmarked unmarked
  := by
  have hanswer : (decide (m.state = .idle)) ↔ (m.channel unmarked).Clear := by
    rw [decide_eq_true_iff]
    apply hclear
  apply Effect.Seen.step (.answer hguard.1 hanswer) rfl
  rfl

/-- A node that is added is invited. -/
theorem seen_add {socket : UInt64} (hfresh : m.nodes p = .unborn) :
  (Effect.add p socket).Seen collides carries m unmarked unmarked
  := by
  have hp := m.channel_shows unmarked p
  rw [hfresh] at hp
  have hinvited : p ∉ (m.channel unmarked).invited := by
    rw [hp.invited]
    simp [NodeCell.Invited]
  have hjoined : p ∉ (m.channel unmarked).joined := by
    rw [hp.joined]
    simp [NodeCell.Joined]
  apply Effect.Seen.step (.invite hinvited hjoined) rfl
  apply Medium.channel_update rfl rfl
  · refine ⟨?_, ?_, ?_, ?_⟩
    · simp [NodeCell.invited_live, DeviceNode.registering, DeviceNode.new]
    · simp [hjoined, NodeCell.joined_live, DeviceNode.registering, DeviceNode.new]
    · apply hp.sending
    · rw [hp.spoilt]
      simp [NodeCell.Spoilt, NodeCell.txPkt, DeviceNode.registering, DeviceNode.new]
  · intro q hq
    have hother := m.channel_shows unmarked q
    exact ⟨by simp [hq, hother.invited], hother.joined, hother.sending, hother.spoilt⟩

/-- A node that starts to transmit sends the message that its packet holds. -/
theorem seen_transmit {itValue : Timespec} (hguard : (Effect.transmit p n pkt itValue).Guard m)
    (hidle : n.txPkt = none) (hbefore : unmarked → unmarked')
    (hafter : unmarked' ↔ collides ∧ ¬ (m.channel unmarked).Clear) :
  (Effect.transmit p n pkt itValue).Seen collides carries m unmarked unmarked'
  := by
  obtain ⟨hlive, hstate, -, -, hclear⟩ := hguard
  have hp := m.channel_shows unmarked p
  rw [hlive] at hp
  have hjoined : p ∈ (m.channel unmarked).joined := by
    rw [hp.joined, NodeCell.joined_live, hstate]
    simp
  have hnone : (m.channel unmarked).sending p = none := by
    rw [hp.sending, NodeCell.txPkt, hidle]
    rfl
  have hacts : acts ((Effect.transmit p n pkt itValue).apply m)
      ((Effect.transmit p n pkt itValue).events m) = [.send p pkt.pktBuffer] := by
    simp [acts, Effect.events, Effect.apply, Event.act, List.filterMap_cons, NodeCell.txPkt]
  apply Effect.Seen.step (.send hjoined hnone) hacts
  apply Medium.channel_update rfl rfl
  · refine ⟨?_, ?_, ?_, ?_⟩
    · rw [Channel.send, hp.invited, NodeCell.invited_live, NodeCell.invited_live, hstate]
      simp
    · rw [Channel.send, hp.joined, NodeCell.joined_live, NodeCell.joined_live, hstate]
      simp
    · simp [NodeCell.txPkt]
    · have hspoilt : p ∉ (m.channel unmarked).spoilt := by
        rw [hp.spoilt]
        apply NodeCell.not_spoilt
        apply hidle
      rw [Channel.mem_send_spoilt, ← and_assoc, ← hafter]
      simp [hspoilt, NodeCell.Spoilt, NodeCell.txPkt, hclear]
  · intro q hq
    have hother := m.channel_shows unmarked q
    refine ⟨hother.invited, hother.joined, ?_, ?_⟩
    · rw [Channel.send_sending_of_ne hq, hother.sending]
    · rw [Channel.mem_send_spoilt, ← and_assoc, ← hafter, Channel.send_sending_of_ne hq,
        hother.spoilt, hother.sending]
      cases htxPkt : (m.nodes q).txPkt with
      | none => simp [NodeCell.Spoilt, htxPkt]
      | some pkt' =>
          rw [NodeCell.spoilt_iff htxPkt, NodeCell.spoilt_iff htxPkt]
          simp
          tauto

/-- The packets that are on the transmit list together are marked as collided. -/
theorem seen_collide (hcons : TxConsistent m) (hthere : m.TxThere) (hunmarked : unmarked) :
  Effect.collide.Seen collides carries m unmarked unmarked'
  := by
  apply Effect.Seen.silent rfl
  apply Medium.channel_eq _ rfl
  intro q
  have hq := m.channel_shows unmarked q
  by_cases hmem : q ∈ m.txList
  · obtain ⟨n, hlive⟩ := hthere q hmem
    obtain ⟨-, -, pkt, hpkt⟩ := hcons.transmitting hmem hlive
    rw [hlive] at hq
    have hnode : (Effect.collide.apply m).nodes q = .live n.collide := by
      simp [Effect.apply, hmem, hlive, NodeCell.collide]
    rw [hnode]
    refine ⟨?_, ?_, ?_, ?_⟩
    · rw [hq.invited, NodeCell.invited_live, NodeCell.invited_live]
      rfl
    · rw [hq.joined, NodeCell.joined_live, NodeCell.joined_live]
      rfl
    · rw [hq.sending]
      simp [NodeCell.txPkt, DeviceNode.collide, hpkt]
    · rw [hq.spoilt]
      simp [NodeCell.Spoilt, NodeCell.txPkt, DeviceNode.collide, hpkt, hunmarked]
  · have hnode : (Effect.collide.apply m).nodes q = m.nodes q := by
      simp [Effect.apply, hmem]
    have hnone : (m.nodes q).txPkt = none := by
      by_contra hne
      apply hmem ((hcons.txPkt_iff hthere).mp hne)
    rw [hnode]
    refine ⟨hq.invited, hq.joined, hq.sending, ?_⟩
    rw [hq.spoilt]
    simp [NodeCell.Spoilt, hnone]

/-- A node whose transmission ends is told whether its frame is spoilt, and it is delivered if it is
not. -/
theorem seen_conclude {i : Nat} {buf : List UInt8}
    (hguard : (Effect.conclude i p n pkt buf).Guard m)
    (hcarries : pkt.collision = false → carries pkt.pktBuffer buf) (hmarked : ¬ unmarked) :
  (Effect.conclude i p n pkt buf).Seen collides carries m unmarked unmarked
  := by
  obtain ⟨-, hlive, hstate, hpkt, -⟩ := hguard
  have hp := m.channel_shows unmarked p
  rw [hlive] at hp
  have hsending : (m.channel unmarked).sending p = some pkt.pktBuffer := by
    rw [hp.sending, NodeCell.txPkt, hpkt]
    rfl
  have hspoilt : p ∈ (m.channel unmarked).spoilt ↔ pkt.collision := by
    rw [hp.spoilt, NodeCell.spoilt_iff (c := .live n) hpkt]
    simp [hmarked]
  have hfinish : ((Effect.conclude i p n pkt buf).apply m).channel unmarked
      = (m.channel unmarked).finish p := by
    apply Medium.channel_update rfl rfl
    · refine ⟨?_, ?_, ?_, ?_⟩
      · rw [Channel.finish, hp.invited, NodeCell.invited_live, NodeCell.invited_live, hstate]
        simp
      · rw [Channel.finish, hp.joined, NodeCell.joined_live, NodeCell.joined_live, hstate]
        simp
      · simp [NodeCell.txPkt]
      · rw [Channel.mem_finish_spoilt]
        simp [NodeCell.Spoilt, NodeCell.txPkt]
    · intro q hq
      have hother := m.channel_shows unmarked q
      refine ⟨hother.invited, hother.joined, ?_, ?_⟩
      · rw [Channel.finish_sending_of_ne hq, hother.sending]
      · rw [Channel.mem_finish_spoilt, hother.spoilt]
        simp [hq]
  cases hcollided : pkt.collision with
  | true =>
      apply Effect.Seen.step (.fail hsending (hspoilt.mpr hcollided)) _ hfinish
      simp [acts, Effect.events, concludeEvents, hcollided, Event.act, NetSimPacket.result,
        txDoneCollided, txDoneOk, List.filterMap_cons]
  | false =>
      have hclean : p ∉ (m.channel unmarked).spoilt := by
        rw [hspoilt, hcollided]
        simp
      apply Effect.Seen.step (.deliver hsending hclean (hcarries hcollided)) _ hfinish
      simp [acts, Effect.events, concludeEvents, hcollided, Event.act, NetSimPacket.result,
        txDoneOk, List.filterMap_cons]

end X6losim
