import X6losim.Invariant.Misuse
import X6losim.NodeSim.Session

/-!
# The conversation of a node and its test program

`Talk` relates how far a test program thinks that its conversation has come to the state of its
node, to what it has sent that has not been read, and to what has been sent to it that it has not
received.  At most one message is on its way to a program, and it is the one that the program waits
for.  `NodeNext` lists what a step of a medium is for one node, its turn; every turn, and every call
of a program that is in step, goes on with the conversation.
-/

open Bytes

namespace X6losim

open NodeSim

variable {host : ByteOrder} {kind : Kind} {m m' : Medium} {p : NodePtr} {n : DeviceNode}
  {id : UInt64} {stage : Stage}

/-! ### Turns -/

/-- How a node stands, as its program can tell: it has not been added yet, it is there with its
number and its state, or it has been deleted. -/
inductive Standing where
  | unborn
  | there (id : UInt64) (state : NodeState)
  | gone
deriving DecidableEq, Repr

/-- How the node in a cell stands. -/
def NodeCell.standing : NodeCell → Standing
  | .unborn => .unborn
  | .live n => .there n.socket n.curState
  | .destroyed => .gone

/-- What a step of a medium is for a node, by how the node stands and how often it waits for an
assessment, before and after: the message that is read from it, if one is, and what is sent to
it. -/
inductive NodeNext (id : UInt64) :
    Standing → Nat → Option Handler → List OutMsg → Standing → Nat → Prop where
  | same (standing : Standing) (k : Nat) : NodeNext id standing k none [] standing k
  | add (k : Nat) : NodeNext id .unborn k none [.regReq] (.there id .registering) k
  | drop (state : NodeState) (k : Nat) : NodeNext id (.there id state) k none [] .gone k
  | answer (state : NodeState) (k : Nat) (clear : Bool) :
      NodeNext id (.there id state) (k + 1) none [.ccaCon clear] (.there id state) k
  | conclude (k : Nat) (result : Int) :
      NodeNext id (.there id .tx) k none [.txDoneInd result] (.there id .active) k
  | confirm (k : Nat) : NodeNext id (.there id .registering) k (some .handleRegistrationConfirm) []
      (.there id .active) k
  | request (state : NodeState) (k : Nat) :
      NodeNext id (.there id state) k (some .handleCcaRequest) [] (.there id state) (k + 1)
  | transmit (k : Nat) :
      NodeNext id (.there id .active) k (some .handleDataIndication) [] (.there id .tx) k
  | leave (state : NodeState) (k : Nat) : NodeNext id (.there id state) k
      (some .handleDeregistrationRequest) [.deregCon] .gone k

/-- A node that is there after a turn has stood like that before, or has the number it is given. -/
theorem NodeNext.there {standing : Standing} {k k' : Nat} {frame : Option Handler}
    {sent : List OutMsg}
    {id' : UInt64} {state : NodeState}
    (h : NodeNext id standing k frame sent (.there id' state) k') :
  standing = .there id' state ∨ id' = id
  := by
  cases h with
  | same => exact Or.inl rfl
  | _ => exact Or.inr rfl

/-! ### The conversation -/

namespace NodeSim

/-- What a program has still to be read from at a stage at which nothing has been answered yet. -/
def Stage.requests : Stage → Option (List Handler)
  | .joined => some []
  | .assessing => some [.handleCcaRequest]
  | .sending => some [.handleDataIndication]
  | .leaving => some [.handleDeregistrationRequest]
  | _ => none

/-- The message that a program waits for. -/
inductive Stage.Awaits : Stage → OutMsg → Prop where
  | regReq : Awaits .invited .regReq
  | ccaCon (clear : Bool) : Awaits .assessing (.ccaCon clear)
  | txDoneInd (result : Int) : Awaits .sending (.txDoneInd result)
  | deregCon : Awaits .leaving .deregCon

variable {call : SendCall} {stage' : Stage}

/-- The messages that are admitted: a registration confirm when the program has been told its
number, and the others, when it waits for nothing. -/
theorem Stage.next_send (h : stage.next (.send call) = some stage') :
  stage = .told ∧ call.handler = .handleRegistrationConfirm ∧ stage' = .joined ∨
    stage = .joined ∧ stage'.requests = some [call.handler]
  := by
  cases stage with
  | told =>
      cases call with
      | sendRegCon =>
          cases h
          exact Or.inl ⟨rfl, rfl, rfl⟩
      | _ => cases h
  | joined =>
      right
      refine ⟨rfl, ?_⟩
      cases call with
      | sendRegCon => cases h
      | sendDeregReq =>
          cases h
          rfl
      | sendCcaReq =>
          cases h
          rfl
      | sendTxDataInd ind =>
          cases h
          rfl
  | _ => cases h

end NodeSim

/-- The conversation of a program and a node: the stage the program is at, how the node stands and
how often it waits for an assessment, the messages that have not been read from the program, and
those it has not received. -/
inductive Talk (id : UInt64) : Stage → Standing → Nat → List Handler → List OutMsg → Prop where
  | unborn : Talk id .invited .unborn 0 [] []
  | invited : Talk id .invited (.there id .registering) 0 [] [.regReq]
  | told : Talk id .told (.there id .registering) 0 [] []
  | confirming {stage : Stage} {requests : List Handler} : stage.requests = some requests →
      Talk id stage (.there id .registering) 0 (.handleRegistrationConfirm :: requests) []
  | requesting {stage : Stage} {requests : List Handler} : stage.requests = some requests →
      Talk id stage (.there id .active) 0 requests []
  | assessing : Talk id .assessing (.there id .active) 1 [] []
  | assessed (clear : Bool) : Talk id .assessing (.there id .active) 0 [] [.ccaCon clear]
  | sending : Talk id .sending (.there id .tx) 0 [] []
  | sent (result : Int) : Talk id .sending (.there id .active) 0 [] [.txDoneInd result]
  | gone {stage : Stage} (k : Nat) (outbox : List Handler) {unread : List OutMsg} :
      (unread = [] ∨ ∃ msg, stage.Awaits msg ∧ unread = [msg]) → Talk id stage .gone k outbox unread

namespace Talk

variable {standing standing' : Standing} {k k' : Nat} {outbox outbox' : List Handler}
  {unread sent : List OutMsg} {frame : Option Handler}

/-- At most one message is on its way to a program, and it is the one it waits for. -/
theorem unread_le (h : Talk id stage standing k outbox unread) :
  unread = [] ∨ ∃ msg, stage.Awaits msg ∧ unread = [msg]
  := by
  cases h with
  | invited => exact Or.inr ⟨_, .regReq, rfl⟩
  | assessed clear => exact Or.inr ⟨_, .ccaCon clear, rfl⟩
  | sent result => exact Or.inr ⟨_, .txDoneInd result, rfl⟩
  | gone _ _ hunread => apply hunread
  | _ =>
      left
      rfl

/-- A step of a medium goes on with the conversation. -/
theorem turn (h : Talk id stage standing k (frame.toList ++ outbox) unread)
    (hturn : NodeNext id standing k frame sent standing' k') :
  Talk id stage standing' k' outbox (unread ++ sent)
  := by
  cases hturn with
  | same =>
      rw [List.append_nil]
      apply h
  | add =>
      cases h with
      | unborn => apply Talk.invited
  | drop state k =>
      rw [List.append_nil]
      apply Talk.gone
      apply h.unread_le
  | answer =>
      cases h with
      | assessing => apply Talk.assessed
  | conclude =>
      cases h with
      | sending => apply Talk.sent
  | confirm =>
      cases h with
      | confirming hrequests => apply Talk.requesting hrequests
  | request state k =>
      rw [Option.toList_some, List.singleton_append] at h
      generalize hmsgs : Handler.handleCcaRequest :: outbox = msgs at h
      cases h with
      | requesting hrequests =>
          cases stage <;> simp [Stage.requests, ← hmsgs] at hrequests
          rw [hrequests]
          apply Talk.assessing
      | _ => cases hmsgs
  | transmit k =>
      rw [Option.toList_some, List.singleton_append] at h
      generalize hmsgs : Handler.handleDataIndication :: outbox = msgs at h
      cases h with
      | requesting hrequests =>
          cases stage <;> simp [Stage.requests, ← hmsgs] at hrequests
          rw [hrequests]
          apply Talk.sending
      | _ => cases hmsgs
  | leave state k =>
      rw [Option.toList_some, List.singleton_append] at h
      generalize hmsgs : Handler.handleDeregistrationRequest :: outbox = msgs at h
      cases h with
      | requesting hrequests =>
          cases stage <;> simp [Stage.requests, ← hmsgs] at hrequests
          exact .gone _ _ (Or.inr ⟨_, .deregCon, rfl⟩)
      | _ => cases hmsgs

/-- A program sends a message that is admitted at its stage. -/
theorem send {call : SendCall} {stage' : Stage} (h : Talk id stage standing k outbox unread)
    (hnext : stage.next (.send call) = some stage') :
  Talk id stage' standing k (outbox ++ [call.handler]) unread
  := by
  rcases Stage.next_send hnext with ⟨rfl, hhandler, rfl⟩ | ⟨rfl, hrequests⟩
  · cases h with
    | told =>
        have hempty : Stage.requests .joined = some [] := rfl
        rw [hhandler]
        apply Talk.confirming hempty
    | gone k outbox hunread =>
        rcases hunread with rfl | ⟨msg, hawaits, -⟩
        · exact .gone _ _ (Or.inl rfl)
        · cases hawaits
    | confirming hnone => cases hnone
    | requesting hnone => cases hnone
  · cases h with
    | confirming hempty =>
        cases hempty
        exact .confirming hrequests
    | requesting hempty =>
        cases hempty
        exact .requesting hrequests
    | gone k outbox hunread =>
        rcases hunread with rfl | ⟨msg, hawaits, -⟩
        · exact .gone _ _ (Or.inl rfl)
        · cases hawaits

/-- A program receives the message it waits for, and nothing else. -/
theorem receive {msg : OutMsg} (h : Talk id stage standing k outbox (msg :: unread)) :
  unread = [] ∧ stage.Awaits msg ∧ ∀ stage', stage.next .readMsg = some stage' →
    Talk id stage' standing k outbox []
  := by
  cases h with
  | invited =>
      refine ⟨rfl, .regReq, ?_⟩
      rintro stage' ⟨⟩
      apply Talk.told
  | assessed clear =>
      refine ⟨rfl, .ccaCon clear, ?_⟩
      rintro stage' ⟨⟩
      exact .requesting rfl
  | sent result =>
      refine ⟨rfl, .txDoneInd result, ?_⟩
      rintro stage' ⟨⟩
      exact .requesting rfl
  | gone k outbox hunread =>
      obtain ⟨msg', hawaits, hmsg⟩ := hunread.resolve_left (List.cons_ne_nil _ _)
      cases hmsg
      refine ⟨rfl, hawaits, ?_⟩
      intro stage' _
      exact .gone _ _ (Or.inl rfl)

/-- A program that is not transmitting has no node that is. -/
theorem not_tx (h : Talk id stage standing k outbox unread) (hstage : stage ≠ .sending) :
  ∀ id', standing ≠ .there id' .tx
  := by
  rintro id' rfl
  cases h
  apply hstage rfl

/-- The first message of a program is one that its node does not refuse. -/
theorem not_refused {handler : Handler} {state : NodeState} {id' : UInt64}
    (h : Talk id stage (.there id' state) k (handler :: outbox) unread) :
  id' = id ∧ state.refusal handler = none ∧
    (state = .tx → handler ≠ .handleDeregistrationRequest)
  := by
  generalize hmsgs : handler :: outbox = msgs at h
  cases h with
  | confirming _ =>
      cases hmsgs
      exact ⟨rfl, rfl, by simp⟩
  | requesting hrequests =>
      refine ⟨rfl, ?_, by simp⟩
      cases stage <;> simp [Stage.requests, ← hmsgs] at hrequests <;> rw [← hrequests.1] <;> rfl
  | _ => cases hmsgs

end Talk

/-! ### Steps of a medium -/

/-- The handler of the message of a node that an effect comes from. -/
def Effect.handles (p : NodePtr) : Effect → Option Handler
  | .confirm q _ _ _ => if q = p then some .handleRegistrationConfirm else none
  | .disconnect q _ asked => if q = p ∧ asked then some .handleDeregistrationRequest else none
  | .request q _ => if q = p then some .handleCcaRequest else none
  | .transmit q _ _ _ => if q = p then some .handleDataIndication else none
  | _ => none

/-- What happens to a medium is a turn for a node. -/
def Medium.Turns (id : UInt64) (p : NodePtr) (m : Medium) (frame : Option Handler) (m' : Medium) :
    Prop :=
  ∃ sent, sentTo p m'.log = sentTo p m.log ++ sent ∧
    NodeNext id (m.nodes p).standing (m.ccaList.count p) frame sent (m'.nodes p).standing
      (m'.ccaList.count p)

/-- The number of a node that is there is the one it is given. -/
def NodeCell.Numbered (id : UInt64) (cell : NodeCell) : Prop :=
  ∀ id' state, cell.standing = .there id' state → id' = id

theorem NodeCell.Numbered.socket (h : (m.nodes p).Numbered id) (hlive : m.nodes p = .live n) :
  n.socket = id
  := by
  apply h n.socket n.curState
  rw [hlive]
  rfl

/-- A turn leaves a node with its number. -/
theorem Medium.Turns.numbered {frame : Option Handler} (h : m.Turns id p frame m')
    (hid : (m.nodes p).Numbered id) :
  (m'.nodes p).Numbered id
  := by
  obtain ⟨sent, -, hturn⟩ := h
  intro id' state hthere
  rw [hthere] at hturn
  rcases hturn.there with hbefore | rfl
  · apply hid id' state hbefore
  · rfl

theorem Medium.Turns.same (hstanding : (m'.nodes p).standing = (m.nodes p).standing)
    (hcca : m'.ccaList.count p = m.ccaList.count p) (hsent : sentTo p m'.log = sentTo p m.log) :
  m.Turns id p none m'
  := by
  refine ⟨[], by rw [hsent, List.append_nil], ?_⟩
  rw [hstanding, hcca]
  apply NodeNext.same

/-- The node that an effect is on, but for the collision of all packets. -/
def Effect.on : Effect → Option NodePtr
  | .failedRead p _ => some p
  | .confirm p _ _ _ => some p
  | .disconnect p _ _ => some p
  | .request p _ => some p
  | .transmit p _ _ _ => some p
  | .answer p _ => some p
  | .collide => none
  | .conclude _ p _ _ _ => some p
  | .expire _ p _ => some p
  | .dispose _ _ p _ => some p
  | .add p _ => some p

/-- An effect that is not on a node sends it nothing. -/
theorem sentTo_other {eff : Effect} (m : Medium) (hon : eff.on ≠ some p) :
  sentTo p (eff.apply m).log = sentTo p m.log
  := by
  have hne : ∀ q, eff.on = some q → q ≠ p := by
    rintro q hq rfl
    apply hon hq
  have hsent : ∀ q msg, q ≠ p → sentTo p [.sent q msg] = [] := by
    intro q msg hq
    simp [sentTo, Event.msgTo, hq]
  have hnone : sentTo p (eff.events m) = [] := by
    cases eff with
    | confirm q n os osVersion =>
        rw [Effect.events]
        split <;> rfl
    | disconnect q n asked =>
        rw [Effect.events, sentTo_append, sentTo_deleteEvents]
        cases asked with
        | false => rfl
        | true => simp [hsent q _ (hne q rfl)]
    | answer q rest => apply hsent q _ (hne q rfl)
    | conclude i q n pkt buf =>
        cases hcollided : pkt.collision <;>
          simp [Effect.events, concludeEvents, hcollided, sentTo, Event.msgTo, hne q rfl]
    | expire key q n => apply sentTo_deleteEvents
    | dispose map key q n => apply sentTo_deleteEvents
    | add q socket => simp [Effect.events, sentTo, Event.msgTo, hne q rfl]
    | _ => rfl
  rw [eff.log_apply, sentTo_append, hnone, List.append_nil]

/-- An effect that is not on a node does nothing for it. -/
theorem turns_of_other {eff : Effect} (hguard : eff.Guard m) (hon : eff.on ≠ some p) :
  m.Turns id p none (eff.apply m)
  := by
  have hne : ∀ q, eff.on = some q → p ≠ q := by
    rintro q hq rfl
    apply hon hq
  apply Medium.Turns.same _ _ (sentTo_other m hon)
  · cases eff with
    | request q n => rfl
    | answer q rest => rfl
    | collide =>
        simp only [Effect.apply]
        split
        · cases m.nodes p <;> rfl
        · rfl
    | dispose map key q n =>
        cases map <;>
          simp [Effect.apply, Medium.delete, Medium.eraseKey, Function.update_of_ne (hne q rfl)]
    | _ =>
        simp [Effect.apply, Medium.putNode, Medium.delete, Function.update_of_ne (hne _ rfl)]
  · cases eff with
    | request q n => simp [Effect.apply, Ne.symm (hne q rfl)]
    | answer q rest =>
        rw [hguard.1]
        simp [Effect.apply, Ne.symm (hne q rfl)]
    | dispose map key q n => cases map <;> rfl
    | _ => rfl

/-- What an effect does is a turn for every node. -/
theorem turns_of_effect {eff : Effect} (hguard : eff.Guard m) (hid : (m.nodes p).Numbered id)
    (hadd : ∀ socket, eff = .add p socket → m.nodes p = .unborn ∧ socket = id) :
  m.Turns id p (eff.handles p) (eff.apply m)
  := by
  have hstanding : ∀ {n : DeviceNode}, m.nodes p = .live n →
      (m.nodes p).standing = .there id n.curState ∧ n.socket = id := by
    intro n hlive
    have hsocket := hid.socket hlive
    rw [hlive, ← hsocket]
    exact ⟨rfl, rfl⟩
  have hdeleted : ∀ {q : NodePtr} {n : DeviceNode} (m₀ : Medium),
      sentTo q (m₀.delete q n).log = sentTo q m₀.log := by
    intro q n m₀
    rw [Medium.delete, sentTo_append, sentTo_deleteEvents, List.append_nil]
  by_cases hon : eff.on = some p
  · cases eff with
    | failedRead q n =>
        cases hon
        apply Medium.Turns.same
        · rw [hguard]
          simp [Effect.apply, NodeCell.standing]
        · rfl
        · rfl
    | confirm q n os osVersion =>
        cases hon
        obtain ⟨hlive, hstate, -⟩ := hguard
        obtain ⟨hbefore, hsocket⟩ := hstanding hlive
        refine ⟨[], ?_, ?_⟩
        · simp only [Effect.apply, sentTo_append]
          split <;> rfl
        · rw [hbefore, hstate]
          simp only [Effect.apply, Effect.handles, if_true, Function.update_self,
            NodeCell.standing, hsocket]
          apply NodeNext.confirm
    | disconnect q n asked =>
        cases hon
        obtain ⟨hlive, -⟩ := hguard
        obtain ⟨hbefore, -⟩ := hstanding hlive
        rw [Effect.handles]
        cases asked with
        | false =>
            refine ⟨[], ?_, ?_⟩
            · simp only [Effect.apply, hdeleted]
              simp
            · rw [hbefore]
              simp only [Effect.apply, Medium.delete, Function.update_self, NodeCell.standing]
              simp only [Bool.false_eq_true, and_false, if_false]
              apply NodeNext.drop
        | true =>
            refine ⟨[.deregCon], ?_, ?_⟩
            · simp only [Effect.apply, hdeleted]
              simp [sentTo, Event.msgTo]
            · rw [hbefore]
              simp only [Effect.apply, Medium.delete, Function.update_self, NodeCell.standing,
                and_self, if_true]
              apply NodeNext.leave
    | request q n =>
        cases hon
        obtain ⟨hbefore, -⟩ := hstanding hguard.1
        refine ⟨[], ?_, ?_⟩
        · simp [Effect.apply, sentTo, Event.msgTo]
        · simp only [Effect.apply, Effect.handles, if_true, hbefore, List.count_append,
            List.count_singleton_self]
          apply NodeNext.request
    | transmit q n pkt itValue =>
        cases hon
        obtain ⟨hlive, hstate, -⟩ := hguard
        obtain ⟨hbefore, hsocket⟩ := hstanding hlive
        refine ⟨[], ?_, ?_⟩
        · simp [Effect.apply, sentTo, Event.msgTo]
        · rw [hbefore, hstate]
          simp only [Effect.apply, Effect.handles, if_true, Function.update_self,
            NodeCell.standing, hsocket]
          apply NodeNext.transmit
    | answer q rest =>
        cases hon
        obtain ⟨hlist, n, hlive⟩ := hguard
        obtain ⟨hbefore, -⟩ := hstanding hlive
        refine ⟨[.ccaCon (m.state = .idle)], ?_, ?_⟩
        · simp [Effect.apply, sentTo, Event.msgTo]
        · simp only [Effect.apply, Effect.handles, hbefore, hlist, List.count_cons_self]
          apply NodeNext.answer
    | collide => cases hon
    | conclude i q n pkt buf =>
        cases hon
        obtain ⟨-, hlive, hstate, -⟩ := hguard
        obtain ⟨hbefore, hsocket⟩ := hstanding hlive
        refine ⟨[.txDoneInd pkt.result], ?_, ?_⟩
        · cases hcollided : pkt.collision <;>
            simp [Effect.apply, concludeEvents, hcollided, sentTo, Event.msgTo,
              List.filterMap_cons]
        · rw [hbefore, hstate]
          simp only [Effect.apply, Effect.handles, Function.update_self, NodeCell.standing, hsocket]
          apply NodeNext.conclude
    | expire key q n =>
        cases hon
        obtain ⟨hbefore, -⟩ := hstanding hguard.2.1
        refine ⟨[], ?_, ?_⟩
        · simp only [Effect.apply, hdeleted, List.append_nil]
        · rw [hbefore]
          simp only [Effect.apply, Medium.delete, Function.update_self, NodeCell.standing]
          apply NodeNext.drop
    | dispose map key q n =>
        cases hon
        obtain ⟨hbefore, -⟩ := hstanding hguard.2.1
        refine ⟨[], ?_, ?_⟩
        · simp only [Effect.apply, hdeleted, eraseKey_log, List.append_nil]
        · rw [hbefore]
          cases map <;>
            simp only [Effect.apply, Medium.delete, Function.update_self, NodeCell.standing] <;>
            apply NodeNext.drop
    | add q socket =>
        cases hon
        obtain ⟨hunborn, rfl⟩ := hadd socket rfl
        refine ⟨[.regReq], ?_, ?_⟩
        · simp [Effect.apply, sentTo, Event.msgTo, List.filterMap_cons]
        · rw [hunborn]
          simp only [Effect.apply, Effect.handles, Function.update_self, NodeCell.standing]
          apply NodeNext.add
  · have hnone : eff.handles p = none := by
      cases eff <;> simp [Effect.handles, Effect.on] at hon ⊢ <;> simp [hon]
    rw [hnone]
    apply turns_of_other hguard hon

/-- Nodes are deleted, and nothing else is done for a node. -/
structure Medium.Deletes (id : UInt64) (p : NodePtr) (m m' : Medium) : Prop where
  sent : sentTo p m'.log = sentTo p m.log
  ccaList : m'.ccaList = m.ccaList
  standing : (m'.nodes p).standing = (m.nodes p).standing ∨
    ∃ state, (m.nodes p).standing = .there id state ∧ (m'.nodes p).standing = .gone

namespace Medium.Deletes

theorem refl (id : UInt64) (p : NodePtr) (m : Medium) :
  m.Deletes id p m
  := ⟨rfl, rfl, Or.inl rfl⟩

theorem trans {m'' : Medium} (h : m.Deletes id p m') (h' : m'.Deletes id p m'') :
  m.Deletes id p m''
  where
  sent := h'.sent.trans h.sent
  ccaList := h'.ccaList.trans h.ccaList
  standing := by
    rcases h'.standing with hsame' | ⟨state, hthere', hgone'⟩
    · rw [hsame']
      apply h.standing
    · rcases h.standing with hsame | ⟨state', -, hgone⟩
      · right
        exact ⟨state, hsame.symm.trans hthere', hgone'⟩
      · rw [hgone] at hthere'
        cases hthere'

/-- A node that is there is deleted. -/
theorem delete {q : NodePtr} (hlive : m.nodes q = .live n) (hid : (m.nodes p).Numbered id)
    (map : MapName) (key : UInt64) :
  m.Deletes id p ((m.eraseKey map key).delete q n)
  := by
  constructor
  · rw [Medium.delete, sentTo_append, sentTo_deleteEvents, List.append_nil, eraseKey_log]
  · cases map <;> rfl
  · by_cases hq : p = q
    · subst hq
      right
      refine ⟨n.curState, ?_, ?_⟩
      · rw [hlive, ← hid.socket hlive]
        rfl
      · simp [Medium.delete, NodeCell.standing]
    · left
      simp [Medium.delete, Function.update_of_ne hq]

theorem turns (h : m.Deletes id p m') :
  m.Turns id p none m'
  := by
  refine ⟨[], by rw [h.sent, List.append_nil], ?_⟩
  rw [h.ccaList]
  rcases h.standing with hsame | ⟨state, hthere, hgone⟩
  · rw [hsame]
    apply NodeNext.same
  · rw [hthere, hgone]
    apply NodeNext.drop

/-- A sequence of effects that delete nodes does nothing else. -/
theorem effects {effs : List Effect} (heffs : Effects m effs m') (hid : (m.nodes p).Numbered id)
    (hdelete : ∀ eff ∈ effs, (∃ key q n, eff = .expire key q n) ∨
      ∃ map key q n, eff = .dispose map key q n) :
  m.Deletes id p m'
  := by
  have hkept : m.Deletes id p m' ∧ (m'.nodes p).Numbered id := by
    apply heffs.invariant (P := fun m₁ => m.Deletes id p m₁ ∧ (m₁.nodes p).Numbered id) _ hdelete
    · rintro m₁ eff ⟨hdeletes, hid₁⟩ heff hguard
      have hone : m₁.Deletes id p (eff.apply m₁) := by
        rcases heff with ⟨key, q, n, rfl⟩ | ⟨map, key, q, n, rfl⟩
        · exact .delete hguard.2.1 hid₁ .regListMap key
        · exact .delete hguard.2.1 hid₁ map key
      exact ⟨hdeletes.trans hone, hone.turns.numbered hid₁⟩
    · exact ⟨.refl id p m, hid⟩
  apply hkept.1

end Medium.Deletes

/-- A step of a medium is a turn for every node from which it reads no message. -/
theorem turns_of_next {s s' : Sys} {i : Input} (hnext : Next host kind s i s')
    (hframe : s.frameFrom i ≠ some p) (hid : (s.med.nodes p).Numbered id)
    (hadd : ∀ env q socket, i = .addNode env q socket → q = p → socket = id) :
  s.med.Turns id p none s'.med
  := by
  have hsame : ∀ {m m' : Medium}, m'.nodes = m.nodes → m'.ccaList = m.ccaList →
      sentTo p m'.log = sentTo p m.log → m.Turns id p none m' := by
    intro m m' hnodes hcca hlog
    apply Medium.Turns.same _ _ hlog
    · rw [hnodes]
    · rw [hcca]
  cases hnext with
  | move => exact hsame rfl rfl rfl
  | start => exact hsame rfl rfl rfl
  | interval m env ph =>
      refine hsame rfl rfl ?_
      simp [Medium.record, sentTo, Event.msgTo]
  | @poll m env ph ev evs q n eff hdata hlive heff hguard =>
      have hturns : m.Turns id p (eff.handles p) (eff.apply m) := by
        apply turns_of_effect hguard hid
        intro socket hsocket
        apply absurd hsocket (heff.not_add p socket)
      have hnone : eff.handles p = none := by
        cases heff with
        | closed => simp [Effect.handles]
        | failedRead => rfl
        | handled handler msg rest eff hrdhup hinput hread heff =>
            have hq : q ≠ p := by
              rintro rfl
              apply hframe
              simp [Sys.frameFrom, hrdhup, hinput, hdata]
            cases heff <;> simp [Effect.handles, hq]
      rw [← hnone]
      apply hturns
  | unblocked => exact hsame rfl rfl rfl
  | mark => exact hsame rfl rfl rfl
  | answer hguard => exact turns_of_effect hguard hid (by simp)
  | collide _ hguard => exact turns_of_effect hguard hid (by simp)
  | conclude hguard => exact turns_of_effect hguard hid (by simp)
  | resetIdle => exact hsame rfl rfl rfl
  | sweep heffs hexpiry =>
      apply Medium.Deletes.turns
      apply Medium.Deletes.effects heffs hid
      intro eff heff
      obtain ⟨key, q, n, rfl, -⟩ := hexpiry eff heff
      exact Or.inl ⟨key, q, n, rfl⟩
  | exiting => exact hsame rfl rfl rfl
  | @add m env pc q socket hfresh =>
      have hguard : (Effect.add q socket).Guard m := trivial
      apply turns_of_effect hguard hid
      rintro socket' ⟨⟩
      exact ⟨hfresh.1, hadd env p socket rfl rfl⟩
  | stop => exact hsame rfl rfl rfl
  | @delete m m₁ m' env effs effs' heffs hdisposal heffs' hdisposal' =>
      apply Medium.Deletes.turns
      have hfirst : m.Deletes id p m₁ := by
        apply Medium.Deletes.effects heffs hid
        intro eff heff
        obtain ⟨key, q, n, rfl⟩ := hdisposal eff heff
        exact Or.inr ⟨_, key, q, n, rfl⟩
      apply hfirst.trans
      apply Medium.Deletes.effects heffs' (hfirst.turns.numbered hid)
      intro eff heff
      obtain ⟨key, q, n, rfl⟩ := hdisposal' eff heff
      exact Or.inr ⟨_, key, q, n, rfl⟩

end X6losim
