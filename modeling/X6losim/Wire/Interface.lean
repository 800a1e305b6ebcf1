import X6losim.Lib.Bytes
import X6losim.Stop

/-!
# The interface between the simulator and the nodes

The message types, and the places of the fields in the packed structures.  A message is a
buffer of bytes; its integer fields are in network order.
-/

namespace X6losim

open Bytes

/-- `NETSIM_INTERFACE_VERSION`. -/
def netsimInterfaceVersion : Nat := 0x00000001

/-- The message types of `enum msg_type`. -/
inductive MsgType where
  | regReq
  | regCon
  | deregReq
  | deregCon
  | ccaReq
  | ccaCon
  | txDataInd
  | txDoneInd
deriving DecidableEq, Repr

/-- The number of a message type in the enumeration. -/
def MsgType.code : MsgType → Nat
  | regReq => 0
  | regCon => 1
  | deregReq => 2
  | deregCon => 3
  | ccaReq => 4
  | ccaCon => 5
  | txDataInd => 6
  | txDoneInd => 7

/-- The place of a field in a packed structure. -/
structure Field where
  offset : Nat
  size : Nat

namespace Field

/-- The bytes of a field of a message. -/
def read (f : Field) (msg : List UInt8) : Except Stop (List UInt8) :=
  Bytes.read .outOfBounds msg f.offset f.size

/-- A field of a message as the host reads it from network order. -/
def readNet (f : Field) (host : ByteOrder) (msg : List UInt8) : Except Stop Nat := do
  let bytes ← f.read msg
  return host.ntoh f.size (host.load bytes)

/-- A message with a field set to a number the host stores in network order. -/
def writeNet (f : Field) (host : ByteOrder) (msg : List UInt8) (n : Nat) :
    Except Stop (List UInt8) :=
  Bytes.write .outOfBounds msg f.offset (host.store f.size (host.hton f.size n))

/-- The bytes of a field in a message that has it. -/
def bytes (f : Field) (msg : List UInt8) : List UInt8 := (msg.drop f.offset).take f.size

/-- The number a field holds in network order. -/
def value (f : Field) (msg : List UInt8) : Nat := ofBE (f.bytes msg)

theorem length_bytes {f : Field} {msg : List UInt8} (h : f.offset + f.size ≤ msg.length) :
  (f.bytes msg).length = f.size
  := by
  simp only [bytes, List.length_take, List.length_drop]
  omega

/-- Reading a field that lies in the message gives its value, on either host. -/
theorem readNet_ok {f : Field} {msg : List UInt8} (host : ByteOrder)
    (h : f.offset + f.size ≤ msg.length) :
  f.readNet host msg = .ok (f.value msg)
  := by
  have hread : f.read msg = .ok (f.bytes msg) := read_ok _ h
  have hload := ByteOrder.ntoh_load host (f.bytes msg)
  rw [length_bytes h] at hload
  rw [readNet, hread, value, ← hload]
  rfl

theorem readNet_outside {f : Field} {msg : List UInt8} (host : ByteOrder)
    (h : msg.length < f.offset + f.size) :
  f.readNet host msg = .error .outOfBounds
  := by
  have hread : f.read msg = .error .outOfBounds := read_outside _ h
  rw [readNet, hread]
  rfl

/-- Setting a field that lies in the message puts its bytes in network order, on either
host. -/
theorem writeNet_ok {f : Field} {msg : List UInt8} (host : ByteOrder) (n : Nat)
    (h : f.offset + f.size ≤ msg.length) :
  f.writeNet host msg n
    = .ok (msg.take f.offset ++ toBE f.size n ++ msg.drop (f.offset + f.size))
  := by
  have hfits : f.offset + (toBE f.size n).length ≤ msg.length := by
    rw [length_toBE]
    apply h
  have hwrite := write_ok Stop.outOfBounds hfits
  rw [length_toBE] at hwrite
  rw [writeNet, ByteOrder.store_hton]
  apply hwrite

/-- A field that lies apart from what is written into a message keeps its value. -/
theorem value_write {f : Field} {msg msg' bs : List UInt8} {offset : Nat}
    (h : Bytes.write Stop.outOfBounds msg offset bs = .ok msg')
    (hapart : f.offset + f.size ≤ offset ∨ offset + bs.length ≤ f.offset) :
  f.value msg' = f.value msg
  := by
  rw [value, value, bytes, bytes, take_drop_of_write h hapart]

/-- The value of a field whose bytes stand at its place. -/
theorem value_append {f : Field} {before after : List UInt8} (n : Nat)
    (h : before.length = f.offset) :
  f.value (before ++ toBE f.size n ++ after) = n % 256 ^ f.size
  := by
  have hsize : f.size ≤ (toBE f.size n).length := by rw [length_toBE]
  rw [value, bytes, List.append_assoc, ← h, List.drop_left,
    List.take_append_of_le_length hsize, List.take_of_length_le (by rw [length_toBE]), ofBE_toBE]

end Field

/-! ### `struct netsim_pkt_hdr` -/

namespace Hdr

def len : Field := ⟨0, 2⟩
def msgType : Field := ⟨2, 2⟩
def interfaceVersion : Field := ⟨4, 4⟩
def nodeId : Field := ⟨8, 8⟩
def cksum : Field := ⟨16, 2⟩

/-- `sizeof(struct netsim_pkt_hdr)`. -/
def size : Nat := 18

end Hdr

/-! ### `struct node_to_netsim_registration_con_pkt` -/

namespace RegCon

def os : Field := ⟨18, 32⟩
def osVersion : Field := ⟨50, 32⟩

end RegCon

/-! ### `struct netsim_data_ind_pkt` -/

namespace DataInd

def sourceAddr : Field := ⟨18, 8⟩
def psduLen : Field := ⟨26, 2⟩
def extraHdr : Field := ⟨28, 2⟩
def repCode : Field := ⟨30, 1⟩
def txPower : Field := ⟨31, 1⟩
def ccaMode : Field := ⟨32, 1⟩
def rssi : Field := ⟨33, 1⟩

/-- The offset of `pktData`. -/
def pktData : Nat := 34

end DataInd

end X6losim
