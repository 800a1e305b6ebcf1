import X6losim.Stop
import X6losim.Wire.Grammar
import Mathlib.Data.List.TakeWhile

/-!
# Nodes, timers and packets

The data of `DeviceNode`, of its two timers and of `NetSimPacket`.
-/

open Bytes

namespace X6losim

/-- `struct timespec`. -/
structure Timespec where
  tvSec : Int
  tvNsec : Int
deriving DecidableEq, Repr

/-- What an integer of 64 bits is after it has wrapped around. -/
def wrapLong (n : Int) : Int := n.bmod (2 ^ 64)

/-- `timespec_add_ms`. -/
def timespecAddMs (x : Timespec) (ms : Nat) : Timespec :=
  let tvNsec := wrapLong (x.tvNsec + ms * 1000000)
  if 1000000000 ≤ tvNsec then
    ⟨x.tvSec + tvNsec.tdiv 1000000000, tvNsec.tmod 1000000000⟩
  else ⟨x.tvSec, tvNsec⟩

/-- `DeviceNodeTimer`: whether it has been started, and the time it is armed with. -/
structure DeviceNodeTimer where
  started : Bool
  itValue : Timespec
deriving DecidableEq, Repr

/-- `REGISTRATION_TIME`. -/
def registrationTime : Int := 120

/-- The results of a transmission, of `enum tx_done_enum`. -/
def txDoneOk : Int := 0
def txDoneCollided : Int := 1
def txDoneFailure : Int := 2

/-- The identity of a packet object, never used for another. -/
abbrev PktId := Nat

/-- `NetSimPacket`: a data indication copied into a buffer of its length. -/
structure NetSimPacket where
  id : PktId
  pktBufferLen : Nat
  pktBuffer : List UInt8
  length_pktBuffer : pktBuffer.length = pktBufferLen
  fromNode : NodePtr
  collision : Bool
  txDoneResult : Int
deriving DecidableEq, Repr

namespace NetSimPacket

/-- The packet with another content of its buffer. -/
def setBuffer (pkt : NetSimPacket) (buf : List UInt8)
    (h : buf.length = pkt.pktBuffer.length) : NetSimPacket :=
  { pkt with pktBuffer := buf, length_pktBuffer := h.trans pkt.length_pktBuffer }

/-- The buffer of a packet after a write into it. -/
def write (pkt : NetSimPacket) (offset : Nat) (bs : List UInt8) : Except Stop NetSimPacket :=
  match h : Bytes.write Stop.outOfBounds pkt.pktBuffer offset bs with
  | .ok buf => .ok (pkt.setBuffer buf (length_of_write h))
  | .error e => .error e

/-- The constructor of `NetSimPacket`: as many bytes as the header says are copied. -/
def new (host : ByteOrder) (id : PktId) (dataInd : List UInt8) (fromNode : NodePtr) :
    Except Stop NetSimPacket := do
  let pktBufferLen ← Hdr.len.readNet host dataInd
  let pktBuffer ← Bytes.read .outOfBounds dataInd 0 pktBufferLen
  return {
    id
    pktBufferLen := pktBuffer.length
    pktBuffer
    length_pktBuffer := rfl
    fromNode
    collision := false
    txDoneResult := 0
  }

/-- `NetSimPacket::getTimeOnWire`. -/
def getTimeOnWire : Nat := 4

/-- `NetSimPacket::isAck`: the type of the frame is looked up in the first byte of the
buffer. -/
def isAck (pkt : NetSimPacket) : Except Stop Bool := do
  let bytes ← Bytes.read .outOfBounds pkt.pktBuffer 0 1
  let frameType := bytes.headD 0 &&& 0x07
  return frameType == 0x02

/-- `NetSimPacket::setRSSI`. -/
def setRSSI (pkt : NetSimPacket) (rssi : UInt8) : Except Stop NetSimPacket :=
  pkt.write DataInd.rssi.offset [rssi]

/-- `NetSimPacket::generateChecksum`: the checksum field is set to the checksum of the buffer
as it is. -/
def generateChecksum (host : ByteOrder) (pkt : NetSimPacket) : Except Stop NetSimPacket :=
  let cksum := X6losim.generateChecksum host pkt.pktBuffer
  pkt.write Hdr.cksum.offset (host.store Hdr.cksum.size (host.hton Hdr.cksum.size cksum))

/-- `NetSimPacket::pktbufSize`. -/
def pktbufSize (host : ByteOrder) (pkt : NetSimPacket) : Except Stop Nat :=
  DataInd.psduLen.readNet host pkt.pktBuffer

/-- The bytes at `pktbuf()`, as many as `pktbufSize()` says. -/
def pktbuf (host : ByteOrder) (pkt : NetSimPacket) : Except Stop (List UInt8) := do
  let size ← pkt.pktbufSize host
  Bytes.read .outOfBounds pkt.pktBuffer DataInd.pktData size

end NetSimPacket

/-- The class of the state object of a node. -/
inductive NodeState where
  | registering
  | active
  | tx
deriving DecidableEq, Repr

/-- `DeviceNode`. -/
structure DeviceNode where
  socket : UInt64
  os : List UInt8
  osVersion : List UInt8
  curState : NodeState
  regTimer : DeviceNodeTimer
  txTimer : DeviceNodeTimer
  txPkt : Option NetSimPacket
  failedReads : Nat
deriving DecidableEq, Repr

namespace DeviceNode

/-- `DeviceNode::getNodeId`: the address of the socket. -/
def getNodeId (n : DeviceNode) : UInt64 := n.socket

/-- A timer of a node. -/
def timer (n : DeviceNode) : TimerName → DeviceNodeTimer
  | .regTimer => n.regTimer
  | .txTimer => n.txTimer

/-- A node with one of its timers replaced. -/
def setTimer (n : DeviceNode) (t : TimerName) (timer : DeviceNodeTimer) : DeviceNode :=
  match t with
  | .regTimer => { n with regTimer := timer }
  | .txTimer => { n with txTimer := timer }

/-- A node before it has got its state. -/
def new (socket : UInt64) : DeviceNode where
  socket
  os := List.replicate 32 0
  osVersion := List.replicate 32 0
  curState := .registering
  regTimer := ⟨false, ⟨registrationTime, 0⟩⟩
  txTimer := ⟨false, ⟨0, 0⟩⟩
  txPkt := none
  failedReads := 0

end DeviceNode

/-- What a pointer to a node leads to: nothing yet, a node, or a node that has been deleted. -/
inductive NodeCell where
  | unborn
  | live (n : DeviceNode)
  | destroyed
deriving DecidableEq, Repr

/-- `strncpy` of a field of a message into an array of the field's size: it reads up to the
first zero byte and fills up with zeros. -/
def strncpy (msg : List UInt8) (f : Field) : Except Stop (List UInt8) :=
  let bytes := f.bytes msg
  let str := bytes.takeWhile (· ≠ 0)
  if str.length < bytes.length ∨ bytes.length = f.size then
    .ok (str ++ List.replicate (f.size - str.length) 0)
  else .error .outOfBounds

/-- `strncpy` stays in the message exactly when it finds a zero byte in the field, or all of the
field is there. -/
theorem strncpy_ok_iff {msg : List UInt8} {f : Field} (hf : 0 < f.size) :
  (∃ str, strncpy msg f = .ok str) ↔ 0 ∈ f.bytes msg ∨ f.offset + f.size ≤ msg.length
  := by
  have hzero : ((f.bytes msg).takeWhile (· ≠ 0)).length < (f.bytes msg).length ↔
      0 ∈ f.bytes msg := by
    rw [← not_iff_not, not_lt, ← List.forall_mem_ne']
    constructor
    · intro hle b hb
      have hall := (List.takeWhile_prefix _).eq_of_length_le hle
      rw [← hall] at hb
      simpa using List.mem_takeWhile_imp hb
    · intro hne
      rw [List.takeWhile_eq_self_iff.mpr]
      intro b hb
      simpa using hne b hb
  have hlength : (f.bytes msg).length = f.size ↔ f.offset + f.size ≤ msg.length := by
    rw [Field.bytes, List.length_take, List.length_drop]
    omega
  rw [strncpy]
  simp only [hzero, hlength]
  split
  · next h => simp [h]
  · next h => simp [h]

end X6losim
