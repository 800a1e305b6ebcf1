/-!
# How a thread of the simulator stops

A thread stops when an exception is not caught, when an assertion fails, or, in a way the
language leaves undefined, when it leaves the bounds of a buffer, follows a null pointer, uses
an object that is not there or computes a signed integer that does not fit.
-/

namespace X6losim

/-- A pointer to a `DeviceNode`: the identity of one object, never used for another. -/
abbrev NodePtr := Nat

/-- The two timers of a node. -/
inductive TimerName where
  | regTimer
  | txTimer
deriving DecidableEq, Repr

/-- The assertions of the source, named by the function they stand in. -/
inductive Assertion where
  | readMsgPrefix
  | readMsgLength
  | readMsgNodeId
  | sendRegistrationRequest
  | timerStart (timer : TimerName)
  | timerExpired (timer : TimerName)
  | handleTxTimerExpired
  | processPollerEvents
  | registerNode
  | deregisterNode
  | checkNodeRegistrationTimeout
  | processTxList
  | destructorRegListMap
  | destructorNodeHashMap
  | acceptConnections
  | removeNodeFromTxListState
  | removeNodeFromTxListFound
  | recvReply
deriving DecidableEq, Repr

/-- Why a thread stops. -/
inductive Stop where
  | exception (text : String)
  | assertion (site : Assertion)
  | outOfBounds
  | nullPointer
  | noObject (node : NodePtr)
  | overflow
deriving DecidableEq, Repr

end X6losim
