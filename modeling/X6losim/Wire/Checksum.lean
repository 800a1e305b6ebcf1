import X6losim.Lib.Bytes

/-!
# The checksum of a message

`generateChecksum` adds the 16-bit words of a message as the host loads them, folds the
carries back twice and complements the result.
-/

namespace X6losim

open Bytes

/-- The word loop of `generate_checksum`: the accumulator after the rest of the message.  A
last odd byte goes through `htons` of the byte shifted to the high half. -/
def addWords (host : ByteOrder) (cksum : Nat) : List UInt8 → Nat
  | b₀ :: b₁ :: rest => addWords host (cksum + host.load [b₀, b₁]) rest
  | [b] => cksum + host.hton 2 (b.toNat <<< 8)
  | [] => cksum

/-- `generate_checksum`. -/
def generateChecksum (host : ByteOrder) (msg : List UInt8) : Nat :=
  let cksum := addWords host 0 msg
  let cksum := (cksum >>> 16) + (cksum &&& 0xffff)
  let cksum := cksum + (cksum >>> 16)
  0xffff - cksum % 0x10000

/-- A checksum fits in 16 bits. -/
theorem generateChecksum_lt (host : ByteOrder) (msg : List UInt8) :
  generateChecksum host msg < 256 ^ 2
  := by
  simp only [generateChecksum]
  omega

end X6losim
