import X6losim.Sim.Handling

/-!
# What an event of a batch changes

An event of a node changes that node, its entries on the two maps and its places on the lists of the
medium, by nothing but what the node and its entries are.  So it changes the same whatever events of
other nodes have been processed before, apart from the identities of packets.
-/

open Bytes

namespace X6losim

variable {host : ByteOrder} {env env' : Env} {m m' m₁ m₂ : Medium} {p q : NodePtr}
  {n n' : DeviceNode}

/-! ### Media that are the same up to the order of work -/

/-- A packet without its identity. -/
def NetSimPacket.anonymous (pkt : NetSimPacket) : NetSimPacket := { pkt with id := 0 }

/-- A node without the identity of its packet. -/
def DeviceNode.anonymous (n : DeviceNode) : DeviceNode :=
  { n with txPkt := n.txPkt.map NetSimPacket.anonymous }

/-- A node, if there is one, without the identity of its packet. -/
def NodeCell.anonymous : NodeCell → NodeCell
  | .live n => .live n.anonymous
  | c => c

/-- The packet an event multicasts, and for which node. -/
def Event.multicast? : Event → Option (NodePtr × List UInt8)
  | .multicast p _ buf => some (p, buf)
  | _ => none

/-- The packets that have been multicast, in order. -/
def multicasts (log : List Event) : List (NodePtr × List UInt8) := log.filterMap Event.multicast?

theorem multicasts_append (log es : List Event) :
  multicasts (log ++ es) = multicasts log ++ multicasts es
  := List.filterMap_append ..

/-- Two media are the same, up to the order in which events of different nodes have been worked on:
the maps and the nodes are the same, but for the identities of packets, the lists have the same
entries, every node has been sent the same messages, the same packets have been multicast, and the
counters agree. -/
structure Medium.SameUpToOrder (m m' : Medium) : Prop where
  state : m.state = m'.state
  curTime : m.curTime = m'.curTime
  nodeHashMap : m.nodeHashMap = m'.nodeHashMap
  regListMap : m.regListMap = m'.regListMap
  ccaList : m.ccaList.Perm m'.ccaList
  txList : m.txList.Perm m'.txList
  stats : m.stats = m'.stats
  interest : m.interest = m'.interest
  nodes : ∀ p, (m.nodes p).anonymous = (m'.nodes p).anonymous
  nextPkt : m.nextPkt = m'.nextPkt
  sent : ∀ p, sentTo p m.log = sentTo p m'.log
  multicasts : (multicasts m.log).Perm (multicasts m'.log)

namespace Medium.SameUpToOrder

theorem refl (m : Medium) :
  m.SameUpToOrder m
  := ⟨rfl, rfl, rfl, rfl, .refl _, .refl _, rfl, rfl, fun _ => rfl, rfl, fun _ => rfl, .refl _⟩

theorem symm (h : m.SameUpToOrder m') :
  m'.SameUpToOrder m
  where
  state := h.state.symm
  curTime := h.curTime.symm
  nodeHashMap := h.nodeHashMap.symm
  regListMap := h.regListMap.symm
  ccaList := h.ccaList.symm
  txList := h.txList.symm
  stats := h.stats.symm
  interest := h.interest.symm
  nodes p := (h.nodes p).symm
  nextPkt := h.nextPkt.symm
  sent p := (h.sent p).symm
  multicasts := h.multicasts.symm

theorem trans (h : m.SameUpToOrder m₁) (h' : m₁.SameUpToOrder m₂) :
  m.SameUpToOrder m₂
  where
  state := h.state.trans h'.state
  curTime := h.curTime.trans h'.curTime
  nodeHashMap := h.nodeHashMap.trans h'.nodeHashMap
  regListMap := h.regListMap.trans h'.regListMap
  ccaList := h.ccaList.trans h'.ccaList
  txList := h.txList.trans h'.txList
  stats := h.stats.trans h'.stats
  interest := h.interest.trans h'.interest
  nodes p := (h.nodes p).trans (h'.nodes p)
  nextPkt := h.nextPkt.trans h'.nextPkt
  sent p := (h.sent p).trans (h'.sent p)
  multicasts := h.multicasts.trans h'.multicasts

/-- A node that is there in one of them is there in the other, and has the same data. -/
theorem live (h : m.SameUpToOrder m') (hlive : m.nodes p = .live n) :
  ∃ n', m'.nodes p = .live n' ∧ n.anonymous = n'.anonymous
  := by
  have hnodes := h.nodes p
  rw [hlive] at hnodes
  cases hcell : m'.nodes p with
  | live n' =>
      rw [hcell] at hnodes
      exact ⟨n', rfl, NodeCell.live.inj hnodes⟩
  | unborn =>
      rw [hcell] at hnodes
      cases hnodes
  | destroyed =>
      rw [hcell] at hnodes
      cases hnodes

end Medium.SameUpToOrder

/-! ### Changes -/

/-- What an event of a node changes: the node, its entries on the maps, whether it is put on the
lists or its socket is closed, and what is logged. -/
structure Change where
  cell : NodeCell
  reg : Option NodePtr
  hash : Option NodePtr
  asks : Bool
  transmits : Bool
  closes : Bool
  events : List Event

/-- The medium with a change of a node. -/
def Medium.change (m : Medium) (p : NodePtr) (key : UInt64) (c : Change) : Medium :=
  { m with
    nodes := Function.update m.nodes p c.cell
    regListMap := Function.update m.regListMap key c.reg
    nodeHashMap := Function.update m.nodeHashMap key c.hash
    ccaList := m.ccaList ++ if c.asks then [p] else []
    txList := m.txList ++ if c.transmits then [p] else []
    interest := if c.closes then m.interest.erase p else m.interest
    nextPkt := m.nextPkt + if c.transmits then 1 else 0
    log := m.log ++ c.events }

/-- Two changes are the same but for the identities of packets. -/
structure Change.Alike (c c' : Change) : Prop where
  cell : c.cell.anonymous = c'.cell.anonymous
  reg : c.reg = c'.reg
  hash : c.hash = c'.hash
  asks : c.asks = c'.asks
  transmits : c.transmits = c'.transmits
  closes : c.closes = c'.closes
  sent : ∀ q, sentTo q c.events = sentTo q c'.events
  multicasts : X6losim.multicasts c.events = X6losim.multicasts c'.events

/-- A change concerns one node only: it keeps its socket, and sends messages to no other. -/
structure Change.Of (p : NodePtr) (n : DeviceNode) (c : Change) : Prop where
  socket : ∀ n', c.cell = .live n' → n'.socket = n.socket
  sent : ∀ q, q ≠ p → sentTo q c.events = []

/-- The same changes of the same media lead to the same. -/
theorem Medium.SameUpToOrder.change {c c' : Change} (h : m.SameUpToOrder m') (p : NodePtr)
    (key : UInt64) (hc : c.Alike c') :
  (m.change p key c).SameUpToOrder (m'.change p key c')
  where
  state := h.state
  curTime := h.curTime
  nodeHashMap := by
    simp only [Medium.change]
    rw [h.nodeHashMap, hc.hash]
  regListMap := by
    simp only [Medium.change]
    rw [h.regListMap, hc.reg]
  ccaList := by
    simp only [Medium.change]
    rw [hc.asks]
    apply h.ccaList.append_right
  txList := by
    simp only [Medium.change]
    rw [hc.transmits]
    apply h.txList.append_right
  stats := h.stats
  interest := by
    simp only [Medium.change]
    rw [hc.closes, h.interest]
  nodes q := by
    simp only [Medium.change]
    by_cases hq : q = p
    · subst hq
      simp only [Function.update_self]
      apply hc.cell
    · simp only [Function.update_of_ne hq]
      apply h.nodes q
  nextPkt := by
    simp only [Medium.change]
    rw [h.nextPkt, hc.transmits]
  sent q := by
    simp only [Medium.change]
    rw [sentTo_append, sentTo_append, h.sent q, hc.sent q]
  multicasts := by
    simp only [Medium.change]
    rw [multicasts_append, multicasts_append, hc.multicasts]
    apply h.multicasts.append_right

/-- Changes of two nodes can be made in either order. -/
theorem change_swap {c d : Change} {key key' : UInt64} (m : Medium) (hne : p ≠ q)
    (hkey : key ≠ key') (hc : c.Of p n) (hd : d.Of q n') :
  ((m.change p key c).change q key' d).SameUpToOrder ((m.change q key' d).change p key c)
  where
  state := rfl
  curTime := rfl
  nodeHashMap := Function.update_comm hkey ..
  regListMap := Function.update_comm hkey ..
  ccaList := by
    simp only [Medium.change, List.append_assoc]
    apply List.Perm.append_left
    apply List.perm_append_comm
  txList := by
    simp only [Medium.change, List.append_assoc]
    apply List.Perm.append_left
    apply List.perm_append_comm
  stats := rfl
  interest := by
    simp only [Medium.change]
    cases c.closes <;> cases d.closes <;> simp [List.erase_comm]
  nodes r := by
    simp only [Medium.change]
    rw [Function.update_comm hne]
  nextPkt := Nat.add_right_comm ..
  sent r := by
    simp only [Medium.change, sentTo_append, List.append_assoc]
    by_cases hr : r = p
    · subst hr
      simp [hd.sent r hne]
    · simp [hc.sent r hr]
  multicasts := by
    simp only [Medium.change, multicasts_append, List.append_assoc]
    apply List.Perm.append_left
    apply List.perm_append_comm

/-! ### What an event changes -/

/-- What an effect changes of a node. -/
def Effect.change (m : Medium) (p : NodePtr) (key : UInt64) (eff : Effect) : Change where
  cell := (eff.apply m).nodes p
  reg := (eff.apply m).regListMap key
  hash := (eff.apply m).nodeHashMap key
  asks := match eff with
    | .request _ _ => true
    | _ => false
  transmits := match eff with
    | .transmit _ _ _ _ => true
    | _ => false
  closes := match eff with
    | .disconnect _ _ _ => true
    | _ => false
  events := eff.events m

/-- The effects of the events of a node. -/
inductive NodeEffect (p : NodePtr) (n : DeviceNode) : Effect → Prop where
  | failedRead : NodeEffect p n (.failedRead p n)
  | confirm (os osVersion : List UInt8) : NodeEffect p n (.confirm p n os osVersion)
  | disconnect (asked : Bool) : NodeEffect p n (.disconnect p n asked)
  | request : NodeEffect p n (.request p n)
  | transmit (pkt : NetSimPacket) (itValue : Timespec) :
      NodeEffect p n (.transmit p n pkt itValue)

/-- The effect on a medium in which another identity is the next for a packet. -/
def Effect.atPkt (k : PktId) : Effect → Effect
  | .transmit p n pkt itValue => .transmit p n { pkt with id := k } itValue
  | eff => eff

theorem NodeEffect.atPkt {eff : Effect} (h : NodeEffect p n eff) (k : PktId) :
  NodeEffect p n (eff.atPkt k)
  := by
  cases h with
  | failedRead => apply NodeEffect.failedRead
  | confirm os osVersion => apply NodeEffect.confirm
  | disconnect asked => apply NodeEffect.disconnect
  | request => apply NodeEffect.request
  | transmit pkt itValue => apply NodeEffect.transmit

/-- An effect of an event is a change of its node. -/
theorem NodeEffect.apply_eq {eff : Effect} (h : NodeEffect p n eff) (m : Medium) :
  eff.apply m = m.change p n.socket (eff.change m p n.socket)
  := by
  have hkept : ∀ {κ α : Type} [DecidableEq κ] (f : κ → α) (k : κ) (a : α),
      Function.update f k (Function.update f k a k) = Function.update f k a := by
    intro κ α _ f k a
    rw [Function.update_self]
  cases h with
  | failedRead =>
      simp [Effect.apply, Effect.change, Medium.change, Medium.putNode, Effect.events]
  | confirm os osVersion =>
      have hinsert : m.nodeHashMap.insert n.socket p = Function.update m.nodeHashMap n.socket
          (m.nodeHashMap.insert n.socket p n.socket) := by
        rw [PMap.insert]
        split
        · simp
        · rw [hkept]
      simp [Effect.apply, Effect.change, Medium.change, Effect.events, PMap.erase, ← hinsert]
  | disconnect asked =>
      simp [Effect.apply, Effect.change, Medium.change, Medium.delete, Effect.events, PMap.erase]
      split <;> simp
  | request => simp [Effect.apply, Effect.change, Medium.change, Effect.events]
  | transmit pkt itValue => simp [Effect.apply, Effect.change, Medium.change, Effect.events]

/-- Two media look the same to a node: it is in both, with the same entries on the maps. -/
structure Medium.LooksSame (m m' : Medium) (p : NodePtr) (n : DeviceNode) : Prop where
  live : m.nodes p = .live n
  live' : m'.nodes p = .live n
  regListMap : m.regListMap n.socket = m'.regListMap n.socket
  nodeHashMap : m.nodeHashMap n.socket = m'.nodeHashMap n.socket

/-- An effect of an event is the same in media that look the same to its node. -/
theorem NodeEffect.change_alike {eff : Effect} (h : NodeEffect p n eff)
    (hsame : m.LooksSame m' p n) (k : PktId) :
  (eff.change m p n.socket).Alike ((eff.atPkt k).change m' p n.socket)
  := by
  cases h with
  | failedRead =>
      constructor <;>
        simp [Effect.atPkt, Effect.change, Effect.apply, Medium.putNode, Effect.events,
          hsame.regListMap, hsame.nodeHashMap]
  | confirm os osVersion =>
      constructor <;>
        simp [Effect.atPkt, Effect.change, Effect.apply, Effect.events, PMap.insert,
          hsame.nodeHashMap]
      split <;> simp [hsame.nodeHashMap]
  | disconnect asked =>
      constructor <;>
        simp [Effect.atPkt, Effect.change, Effect.apply, Medium.delete, Effect.events,
          hsame.regListMap]
      split <;> simp [hsame.nodeHashMap]
  | request =>
      constructor <;>
        simp [Effect.atPkt, Effect.change, Effect.apply, Effect.events, hsame.live, hsame.live',
          hsame.regListMap, hsame.nodeHashMap]
  | transmit pkt itValue =>
      refine ⟨?_, hsame.regListMap, hsame.nodeHashMap, rfl, rfl, rfl, fun _ => rfl, rfl⟩
      simp [Effect.atPkt, Effect.change, Effect.apply, NodeCell.anonymous, DeviceNode.anonymous,
        NetSimPacket.anonymous]

/-- An effect of an event concerns its node only. -/
theorem NodeEffect.change_of {eff : Effect} (h : NodeEffect p n eff) (hlive : m.nodes p = .live n) :
  (eff.change m p n.socket).Of p n
  := by
  constructor
  · intro n' hcell
    cases h <;>
      simp [Effect.change, Effect.apply, Medium.putNode, Medium.delete, hlive] at hcell <;>
      rw [← hcell]
  · intro q hq
    cases h with
    | failedRead => rfl
    | confirm os osVersion =>
        simp only [Effect.change, Effect.events]
        split <;> rfl
    | disconnect asked =>
        simp only [Effect.change, Effect.events]
        rw [sentTo_append, sentTo_deleteEvents]
        cases asked <;> simp [sentTo, Event.msgTo, hq.symm]
    | request => rfl
    | transmit pkt itValue => rfl

/-! ### What an event does elsewhere -/

/-- The system lets the timers of nodes be created and armed. -/
structure Env.ArmsTimers (env : Env) : Prop where
  nodeTimerCreate : env.nodeTimerCreate
  nodeTimerSettime : env.nodeTimerSettime

/-- A packet is made alike with another identity. -/
theorem NetSimPacket.new_atPkt {k : PktId} {dataInd : List UInt8} {pkt : NetSimPacket}
    (h : NetSimPacket.new host k dataInd p = .ok pkt) (k' : PktId) :
  NetSimPacket.new host k' dataInd p = .ok { pkt with id := k' }
  := by
  rw [NetSimPacket.new] at h ⊢
  cases hlen : Hdr.len.readNet host dataInd with
  | error e =>
      rw [hlen] at h
      cases h
  | ok len =>
      rw [hlen] at h
      cases hread : Bytes.read Stop.outOfBounds dataInd 0 len with
      | error e =>
          simp only [bind, Except.bind, hread] at h
          cases h
      | ok buf =>
          simp only [bind, Except.bind, hread] at h ⊢
          cases h
          rfl

/-- What a handler does when it does not stop, it does in every medium that looks the same to its
node, where another identity may be the next for a packet. -/
def DoesElsewhere (m m' m₁ : Medium) (p : NodePtr) (n : DeviceNode)
    (elsewhere : EStateM.Result Stop Medium Unit) : Prop :=
  ∃ eff, NodeEffect p n eff ∧ m₁ = eff.apply m ∧
    elsewhere = .ok () ((eff.atPkt m'.nextPkt).apply m') ∧
    (m'.nextPkt = m.nextPkt → eff.atPkt m'.nextPkt = eff)

theorem handleRegistrationConfirm_elsewhere {msg : List UInt8} (hsame : m.LooksSame m' p n)
    (hok : handleRegistrationConfirm p msg m = .ok () m₁) :
  DoesElsewhere m m' m₁ p n (handleRegistrationConfirm p msg m')
  := by
  cases hos : strncpy msg RegCon.os with
  | error e =>
      simp only [handleRegistrationConfirm, Exec.bind_apply, deref_live hsame.live, hos,
        Exec.ofExcept_error] at hok
      cases hok
  | ok os =>
      cases hversion : strncpy msg RegCon.osVersion with
      | error e =>
          simp only [handleRegistrationConfirm, Exec.bind_apply, deref_live hsame.live, hos,
            hversion, Exec.ofExcept_ok, assign_apply, Exec.ofExcept_error] at hok
          cases hok
      | ok osVersion =>
          rw [handleRegistrationConfirm_eq hsame.live hos hversion] at hok
          rw [handleRegistrationConfirm_eq hsame.live' hos hversion, ← hsame.regListMap]
          cases hstate : n.curState with
          | registering =>
              simp only [hstate] at hok ⊢
              split at hok
              · next hentry =>
                  cases hok
                  rw [if_pos hentry]
                  exact ⟨_, .confirm os osVersion, rfl, rfl, fun _ => rfl⟩
              · cases hok
          | active =>
              simp only [hstate] at hok
              cases hok
          | tx =>
              simp only [hstate] at hok
              cases hok

theorem handleDeregistrationRequest_elsewhere (hsame : m.LooksSame m' p n)
    (hok : handleDeregistrationRequest p m = .ok () m₁) :
  DoesElsewhere m m' m₁ p n (handleDeregistrationRequest p m')
  := by
  by_cases hmem : (m.regListMap n.socket).isSome ∨ (m.nodeHashMap n.socket).isSome
  · have hmem' : (m'.regListMap n.socket).isSome ∨ (m'.nodeHashMap n.socket).isSome := by
      rw [← hsame.regListMap, ← hsame.nodeHashMap]
      apply hmem
    rw [handleDeregistrationRequest_ok hsame.live hmem] at hok
    cases hok
    rw [handleDeregistrationRequest_ok hsame.live' hmem']
    exact ⟨_, .disconnect true, rfl, rfl, fun _ => rfl⟩
  · obtain ⟨hreg, hhash⟩ := not_or.mp hmem
    obtain ⟨m₂, herror⟩ := handleDeregistrationRequest_error hsame.live (by simpa using hreg)
      (by simpa using hhash)
    rw [herror] at hok
    cases hok

theorem handleCcaRequest_elsewhere (hsame : m.LooksSame m' p n)
    (hok : handleCcaRequest p m = .ok () m₁) :
  DoesElsewhere m m' m₁ p n (handleCcaRequest p m')
  := by
  rw [handleCcaRequest_eq hsame.live] at hok
  rw [handleCcaRequest_eq hsame.live']
  cases hstate : n.curState with
  | registering =>
      simp only [hstate] at hok
      cases hok
  | active =>
      simp only [hstate] at hok
      cases hok
      exact ⟨_, .request, rfl, rfl, fun _ => rfl⟩
  | tx =>
      simp only [hstate] at hok
      cases hok
      exact ⟨_, .request, rfl, rfl, fun _ => rfl⟩

theorem handleDataIndication_elsewhere {msg : List UInt8} (hsame : m.LooksSame m' p n)
    (harms : env'.ArmsTimers) (hok : handleDataIndication host env p msg m = .ok () m₁) :
  DoesElsewhere m m' m₁ p n (handleDataIndication host env' p msg m')
  := by
  have hresult := handleDataIndication_result hsame.live host env msg
  rw [hok] at hresult
  cases hnew : NetSimPacket.new host m.nextPkt msg p with
  | error e =>
      simp only [handleDataIndication, Exec.bind_apply, Exec.get_apply, hnew,
        Exec.ofExcept_error] at hok
      cases hok
  | ok pkt =>
      obtain ⟨eff, heff, hguard, hm₁⟩ := hresult
      cases heff with
      | transmit pkt' itValue =>
          obtain ⟨-, hstate, hstopped, hid, -⟩ := hguard
          cases hack : pkt.isAck with
          | error e =>
              simp only [handleDataIndication, Exec.bind_apply, Exec.get_apply, hnew,
                Exec.ofExcept_ok, Exec.modify_apply, record_apply, deref_apply, Medium.record,
                hsame.live, hstate, handleTxRequest, hack, Exec.ofExcept_error] at hok
              cases hok
          | ok isAck =>
              have hack' : ({ pkt with id := m'.nextPkt } : NetSimPacket).isAck = .ok isAck := hack
              rw [handleDataIndication_eq hsame.live hnew hack] at hok
              rw [handleDataIndication_eq hsame.live' (NetSimPacket.new_atPkt hnew _) hack']
              simp only [hstate, hstopped, Bool.false_eq_true, if_false, harms.nodeTimerCreate,
                harms.nodeTimerSettime, Bool.true_eq_false] at hok ⊢
              split at hok
              · cases hok
              · split at hok
                · cases hok
                · cases hok
                  refine ⟨_, .transmit pkt (txTime isAck), rfl, rfl, ?_⟩
                  intro hnext
                  have hsame_id : m'.nextPkt = pkt.id := by
                    rw [hnext, (NetSimPacket.new_ok hnew).1]
                  simp only [Effect.atPkt, hsame_id]

/-- What a handler does when it does not stop, it does in every medium that looks the same to its
node. -/
theorem callHandler_elsewhere {handler : Handler} {msg : List UInt8} (hsame : m.LooksSame m' p n)
    (harms : env'.ArmsTimers) (hok : callHandler host env p msg handler m = .ok () m₁) :
  DoesElsewhere m m' m₁ p n (callHandler host env' p msg handler m')
  := by
  cases handler with
  | handleRegistrationConfirm => apply handleRegistrationConfirm_elsewhere hsame hok
  | handleDeregistrationRequest => apply handleDeregistrationRequest_elsewhere hsame hok
  | handleCcaRequest => apply handleCcaRequest_elsewhere hsame hok
  | handleDataIndication => apply handleDataIndication_elsewhere hsame harms hok

/-- Nothing is changed of a node. -/
def Change.nothing (m : Medium) (p : NodePtr) (key : UInt64) : Change where
  cell := m.nodes p
  reg := m.regListMap key
  hash := m.nodeHashMap key
  asks := false
  transmits := false
  closes := false
  events := []

theorem change_nothing (m : Medium) (p : NodePtr) (key : UInt64) :
  m.change p key (.nothing m p key) = m
  := by
  simp [Medium.change, Change.nothing]

/-- An event of a node changes the node, and changes it alike in another medium. -/
def ChangesElsewhere (m m' m₁ : Medium) (p : NodePtr) (n : DeviceNode)
    (elsewhere : EStateM.Result Stop Medium Bool) : Prop :=
  ∃ c c', c.Of p n ∧ c.Alike c' ∧ m₁ = m.change p n.socket c ∧
    elsewhere = .ok true (m'.change p n.socket c') ∧ (m' = m → c' = c)

theorem ChangesElsewhere.nothing (hsame : m.LooksSame m' p n) :
  ChangesElsewhere m m' m p n (.ok true m')
  := by
  refine ⟨.nothing m p n.socket, .nothing m' p n.socket, ?_, ?_, ?_, ?_, ?_⟩
  · constructor
    · intro n' hn'
      rw [Change.nothing, hsame.live] at hn'
      cases hn'
      rfl
    · intro q hq
      rfl
  · refine ⟨?_, hsame.regListMap, hsame.nodeHashMap, rfl, rfl, rfl, fun _ => rfl, rfl⟩
    simp only [Change.nothing, hsame.live, hsame.live']
  · rw [change_nothing]
  · rw [change_nothing]
  · rintro rfl
    rfl

theorem ChangesElsewhere.effect {eff : Effect} (hsame : m.LooksSame m' p n)
    (heff : NodeEffect p n eff) (hid : m'.nextPkt = m.nextPkt → eff.atPkt m'.nextPkt = eff) :
  ChangesElsewhere m m' (eff.apply m) p n (.ok true ((eff.atPkt m'.nextPkt).apply m'))
  := by
  refine ⟨_, _, heff.change_of hsame.live, heff.change_alike hsame m'.nextPkt, ?_, ?_, ?_⟩
  · rw [heff.apply_eq]
  · rw [(heff.atPkt _).apply_eq]
  · rintro rfl
    rw [hid rfl]

/-- What an event of a node does when it does not stop the thread: it changes the node, and changes
it alike in every medium that looks the same to the node. -/
theorem processPollerEvent_elsewhere {ev : PollEvent} {goOn : Bool} (hsame : m.LooksSame m' p n)
    (harms : env'.ArmsTimers) (hdata : ev.data = .node p)
    (hok : processPollerEvent host env ev m = .ok goOn m₁) :
  goOn = true ∧ ChangesElsewhere m m' m₁ p n (processPollerEvent host env' ev m')
  := by
  by_cases hrdhup : ev.rdhup
  · rw [processPollerEvent_closed hdata hrdhup] at hok ⊢
    by_cases hmem : (m.regListMap n.socket).isSome ∨ (m.nodeHashMap n.socket).isSome
    · have hmem' : (m'.regListMap n.socket).isSome ∨ (m'.nodeHashMap n.socket).isSome := by
        rw [← hsame.regListMap, ← hsame.nodeHashMap]
        apply hmem
      rw [deregisterNode_ok hsame.live hmem] at hok
      cases hok
      rw [deregisterNode_ok hsame.live' hmem']
      exact ⟨rfl, .effect hsame (.disconnect false) (fun _ => rfl)⟩
    · obtain ⟨hreg, hhash⟩ := not_or.mp hmem
      obtain ⟨m₂, herror⟩ := deregisterNode_error hsame.live (by simpa using hreg)
        (by simpa using hhash)
      rw [herror] at hok
      cases hok
  · by_cases hinput : ev.input
    · rw [processPollerEvent_input hdata hrdhup hinput, readMsg_eq hsame.live] at hok
      rw [processPollerEvent_input hdata hrdhup hinput, readMsg_eq hsame.live']
      cases hframe : readMsgFrame host n.getNodeId ev.delivery ev.unread with
      | error e rest => simp [hframe] at hok
      | ok r rest =>
          cases r with
          | failedRead =>
              simp only [hframe] at hok ⊢
              cases hok
              exact ⟨rfl, .effect hsame .failedRead (fun _ => rfl)⟩
          | dropped =>
              simp only [hframe] at hok ⊢
              cases hok
              exact ⟨rfl, .nothing hsame⟩
          | call handler msg =>
              cases hcall : callHandler host env p msg handler m with
              | error e m₂ => simp [hframe, hcall] at hok
              | ok u m₂ =>
                  simp only [hframe, hcall] at hok ⊢
                  cases hok
                  obtain ⟨eff, heff, rfl, hcall', hid⟩ := callHandler_elsewhere hsame harms hcall
                  rw [hcall']
                  exact ⟨rfl, .effect hsame heff hid⟩
    · rw [processPollerEvent, if_neg hrdhup, if_neg hinput] at hok ⊢
      cases hok
      exact ⟨rfl, .nothing hsame⟩

end X6losim
