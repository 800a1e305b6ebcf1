import X6losim.Lib.Exec
import X6losim.Wire.Checksum
import X6losim.Wire.Interface

/-!
# Reading a message from a node

The part of `DeviceNode::readMsg` up to the call of a handler.  It reads the length word
and then the rest of a message from the bytes the node has sent and the simulator has not
read yet.  How many bytes are there at each of the two calls of `recv`, and what the
allocated memory holds before, is up to the system and is given as a `Delivery`.
-/

namespace X6losim

open Bytes

/-- `EAGAIN`. -/
def eagain : Int := 11

/-- `sizeof(hdr)` for the pointer `hdr`. -/
def sizeofPointer : Nat := 8

/-- The message handlers `readMsg` calls. -/
inductive Handler where
  | handleRegistrationConfirm
  | handleDeregistrationRequest
  | handleCcaRequest
  | handleDataIndication
deriving DecidableEq, Repr

/-- The handler `readMsg` calls for a message type: the switch on `msgType`.  The other types
of the enumeration are not supported, and neither is any other number. -/
def handlerOf (msgType : Nat) : Option Handler :=
  if msgType = MsgType.regCon.code then some .handleRegistrationConfirm
  else if msgType = MsgType.deregReq.code then some .handleDeregistrationRequest
  else if msgType = MsgType.ccaReq.code then some .handleCcaRequest
  else if msgType = MsgType.txDataInd.code then some .handleDataIndication
  else none

/-- What the system does during one call of `readMsg`: the number of bytes it has for each
of the two calls of `recv`, or none when `recv` reports `EAGAIN`, and what the memory
returned by `malloc` holds. -/
structure Delivery where
  first : Option Nat
  body : Option Nat
  memory : Nat → UInt8

/-- What one call of `readMsg` comes to when it does not stop: a read counted as failed, a
message dropped, or a handler called with a message. -/
inductive ReadResult where
  | failedRead
  | dropped
  | call (handler : Handler) (msg : List UInt8)
deriving DecidableEq, Repr

/-- A part of a thread that reads the bytes a node has sent. -/
abbrev Reader := EStateM Stop (List UInt8)

/-- `recv`: the value it returns and the bytes it stores, out of those not read yet. -/
def recv (available : Option Nat) (count : Nat) : Reader (Int × List UInt8) := fun unread =>
  match available with
  | none => .ok (-1, []) unread
  | some n =>
      let bytes := unread.take (min n count)
      .ok (bytes.length, bytes) (unread.drop (min n count))

/-- The memory `malloc` returns. -/
def malloc (memory : Nat → UInt8) (size : Nat) : List UInt8 := (List.range size).map memory

/-- `len - sizeof(len)`, computed in `size_t`. -/
def bodyCount (len : Nat) : Nat := (len + 2 ^ 64 - 2) % 2 ^ 64

/-- `recv` into a buffer from an offset on; asking for more than the buffer holds there is
out of its bounds. -/
def recvInto (available : Option Nat) (buf : List UInt8) (offset count : Nat) :
    Reader (Int × List UInt8) := do
  if buf.length < offset + count then
    throw .outOfBounds
  let (rv, bytes) ← recv available count
  return (rv, buf.take offset ++ bytes ++ buf.drop (offset + bytes.length))

/-- The checks `readMsg` makes on the message of length `len` in its buffer, and the handler
it then calls. -/
def checkMsg (host : ByteOrder) (nodeId : UInt64) (len : Nat) (msgData : List UInt8) :
    Except Stop ReadResult := do
  let rxCksum ← Hdr.cksum.readNet host msgData
  let msgData ← Hdr.cksum.writeNet host msgData 0
  let msgData ← Hdr.len.writeNet host msgData len
  let summed ← Bytes.read .outOfBounds msgData 0 len
  if generateChecksum host summed ≠ rxCksum then
    return .dropped
  let msgType ← Hdr.msgType.readNet host msgData
  let interfaceVersion ← Hdr.interfaceVersion.readNet host msgData
  let id ← Hdr.nodeId.readNet host msgData
  if id ≠ nodeId.toNat then
    throw (.assertion .readMsgNodeId)
  if interfaceVersion ≠ netsimInterfaceVersion then
    return .dropped
  match handlerOf msgType with
  | some handler => return .call handler msgData
  | none => return .dropped

/-- `readMsg` once it knows the length of the message: the rest of it is read into a buffer
of that length, and checked. -/
def readMsgBody (host : ByteOrder) (nodeId : UInt64) (d : Delivery) (len : Nat) :
    Reader ReadResult := do
  let (rv, msgData) ← recvInto d.body (malloc d.memory len) 2 (bodyCount len)
  if rv = eagain then
    return .failedRead
  Exec.ofExcept (checkMsg host nodeId len msgData)

/-- `DeviceNode::readMsg` up to the call of the handler, for the node with the given id. -/
def readMsgFrame (host : ByteOrder) (nodeId : UInt64) (d : Delivery) : Reader ReadResult := do
  let (rv, word) ← recv d.first 2
  if rv = eagain then
    return .failedRead
  if rv ≠ 2 then
    throw (.assertion .readMsgPrefix)
  let len := host.load word
  -- The length is still as it came from the network here.
  if len < sizeofPointer then
    throw (.assertion .readMsgLength)
  readMsgBody host nodeId d (host.ntoh 2 len)

end X6losim
