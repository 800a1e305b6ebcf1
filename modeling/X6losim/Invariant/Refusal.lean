import X6losim.Sim.HandlerError
import X6losim.Sim.Session

/-!
# What a refused message leaves behind

A handler does some of its work before it asks the state of the node, and does not undo it when the
state refuses the message.
-/

open Bytes

namespace X6losim

variable {host : ByteOrder} {env : Env} {m m' : Medium} {p : NodePtr}
  {n : DeviceNode} {msg : List UInt8} {handler : Handler} {text : String}

/-- A message has left no trace: the nodes, with their states, names, packets and timers, and the
maps and lists of the medium are as before, and nothing has been sent to the node. -/
structure NoTrace (p : NodePtr) (m m' : Medium) : Prop where
  nodes : m'.nodes = m.nodes
  regListMap : m'.regListMap = m.regListMap
  nodeHashMap : m'.nodeHashMap = m.nodeHashMap
  ccaList : m'.ccaList = m.ccaList
  txList : m'.txList = m.txList
  sent : sentTo p m'.log = sentTo p m.log

/-- If the state of a node refuses a message, the message leaves no trace. -/
def RefusedCleanly (host : ByteOrder) (env : Env) (m : Medium) (p : NodePtr) (n : DeviceNode)
    (msg : List UInt8) (handler : Handler) : Prop :=
  ∀ text m', n.curState.refusal handler = some text →
    callHandler host env p msg handler m = .error (.exception text) m' → NoTrace p m m'

/-- The messages that handlers work on before they are refused, and that change something then: a
clear channel assessment request of a registering node, and a registration confirm of another one
with other names than the node has. -/
def LeavesTrace (n : DeviceNode) (msg : List UInt8) : Handler → Prop
  | .handleRegistrationConfirm => n.curState ≠ .registering ∧ ∃ os osVersion,
      strncpy msg RegCon.os = .ok os ∧ strncpy msg RegCon.osVersion = .ok osVersion ∧
        ¬ (os = n.os ∧ osVersion = n.osVersion)
  | .handleDeregistrationRequest => False
  | .handleCcaRequest => n.curState = .registering
  | .handleDataIndication => False

/-- In every state of a medium, reachable or not, a message that a node's state refuses leaves no
trace exactly when it is none of those that handlers work on before they are refused. -/
theorem refused_noTrace_iff (h : m.nodes p = .live n) (env : Env) (msg : List UInt8)
    (handler : Handler) :
  RefusedCleanly host env m p n msg handler ↔ ¬ LeavesTrace n msg handler
  := by
  constructor
  · intro hclean htrace
    cases handler with
    | handleRegistrationConfirm =>
        obtain ⟨hstate, os, osVersion, hos, hversion, hother⟩ := htrace
        obtain ⟨text, hrefusal⟩ := refusal_regCon hstate
        have hnodes := (hclean text _ hrefusal
          (handleRegistrationConfirm_refused h hos hversion hrefusal)).nodes
        have hnode := congrFun hnodes p
        rw [putNode_nodes_self, h, NodeCell.live.injEq] at hnode
        apply hother
        exact ⟨congrArg DeviceNode.os hnode, congrArg DeviceNode.osVersion hnode⟩
    | handleDeregistrationRequest => apply htrace
    | handleCcaRequest =>
        have hstate : n.curState = .registering := htrace
        have hrefused : handleCcaRequest p m
            = .error (.exception "RegisteringState: handleCcaRequest")
              ((Effect.request p n).apply m) := by
          rw [handleCcaRequest_eq h, hstate]
        have hlist := (hclean _ _ (by rw [hstate]; rfl) hrefused).ccaList
        simp [Effect.apply] at hlist
    | handleDataIndication => apply htrace
  · intro hnone text m' hrefusal herror
    cases callHandler_error h herror with
    | @regCon os osVersion _ hos hversion _ =>
        have hstate : n.curState ≠ .registering := by
          intro hstate
          rw [hstate] at hrefusal
          cases hrefusal
        have hsame : os = n.os ∧ osVersion = n.osVersion := by
          by_contra hother
          apply hnone
          exact ⟨hstate, os, osVersion, hos, hversion, hother⟩
        obtain ⟨rfl, rfl⟩ := hsame
        refine ⟨?_, rfl, rfl, rfl, rfl, rfl⟩
        simp only [Medium.putNode, ← h, Function.update_eq_self]
    | ccaReq =>
        have hstate : n.curState = .registering := by
          cases hstate : n.curState <;> rw [hstate] at hrefusal <;> first | rfl | cases hrefusal
        apply absurd hstate hnone
    | dataInd =>
        refine ⟨rfl, rfl, rfl, rfl, rfl, ?_⟩
        rw [Medium.takePacket, sentTo_append]
        exact List.append_nil _
    | create _ _ hstate =>
        rw [hstate] at hrefusal
        cases hrefusal
    | arm _ _ hstate =>
        rw [hstate] at hrefusal
        cases hrefusal

/-- A clear channel assessment request. -/
def ccaFrame (host : ByteOrder) (nodeId : UInt64) : List UInt8 :=
  sealMsg host .handleCcaRequest nodeId []

theorem dispatched_ccaFrame (host : ByteOrder) (nodeId : UInt64) :
  Dispatched host nodeId .handleCcaRequest (ccaFrame host nodeId)
  := by
  apply dispatched_sealMsg
  · decide
  · cases host <;> decide

/-- A node that has not confirmed its registration asks for a clear channel assessment: it is
refused, and on the list. -/
theorem ccaReq_while_registering :
  ∃ s n m', (medium .little .powerline).Reachable s ∧ s.med.nodes 1 = .live n ∧
    Dispatched .little n.getNodeId .handleCcaRequest (ccaFrame .little 7) ∧
    n.curState.refusal .handleCcaRequest = some "RegisteringState: handleCcaRequest" ∧
    callHandler .little .calm 1 (blankCksum (ccaFrame .little 7)) .handleCcaRequest s.med
      = .error (.exception "RegisteringState: handleCcaRequest") m' ∧
    ¬ NoTrace 1 s.med m'
  := by
  have hlive := added_live 1 7
  refine ⟨_, _, _, (running_added .little .powerline 1 7).reachable, hlive,
    dispatched_ccaFrame .little 7, rfl, handleCcaRequest_eq hlive, ?_⟩
  intro htrace
  have hlist := htrace.ccaList
  simp [Effect.apply] at hlist

/-- The same node sends a data indication: it is refused without a trace. -/
theorem refused_noTrace_dataInd :
  ∃ s n m', (medium .little .powerline).Reachable s ∧ s.med.nodes 1 = .live n ∧
    Dispatched .little n.getNodeId .handleDataIndication (dataFrame .little 7) ∧
    callHandler .little .calm 1 (blankCksum (dataFrame .little 7)) .handleDataIndication s.med
      = .error (.exception "RegisteringState: handleTxRequest") m' ∧
    NoTrace 1 s.med m'
  := by
  have hlive := added_live 1 7
  obtain ⟨pkt, hnew, -, -⟩ := (dispatched_dataFrame .little 7).received.packet 0 1
  have hrefused : handleDataIndication .little .calm 1 (blankCksum (dataFrame .little 7))
      (Medium.added 1 7) = .error (.exception "RegisteringState: handleTxRequest") _ :=
    handleDataIndication_refused hlive hnew rfl
  refine ⟨_, _, _, (running_added .little .powerline 1 7).reachable, hlive,
    dispatched_dataFrame .little 7, hrefused, ?_⟩
  have hclean : RefusedCleanly .little .calm (Medium.added 1 7) 1 (DeviceNode.registering 7)
      (blankCksum (dataFrame .little 7)) .handleDataIndication :=
    (refused_noTrace_iff hlive _ _ _).mpr not_false
  apply hclean _ _ rfl hrefused

end X6losim
