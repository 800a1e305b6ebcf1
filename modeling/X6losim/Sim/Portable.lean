import X6losim.Sim.Sending
import X6losim.Wire.WordSum

/-!
# Checksums on hosts of either byte order

The words of a message on a host of one byte order are those on a host of the other with their bytes
swapped, and so are the two checksums.  The checksum is then stored in network order, so the same
bytes are stored on both hosts only if swapping the bytes of the checksum does not change it.
-/

open Bytes

namespace X6losim

/-- The bytes of the checksum field in which a host stores the checksum of a message. -/
def cksumBytes (host : ByteOrder) (msg : List UInt8) : List UInt8 :=
  Hdr.cksum.net host (generateChecksum host (blankCksum msg))

/-- A message with the checksum field set by a host. -/
def sealCksum (host : ByteOrder) (msg : List UInt8) : List UInt8 :=
  msg.take Hdr.cksum.offset ++ cksumBytes host msg ++
    msg.drop (Hdr.cksum.offset + Hdr.cksum.size)

/-- The sum of the bytes of a message at even offsets. -/
def evenSum : List UInt8 → Nat
  | b₀ :: _ :: rest => b₀.toNat + evenSum rest
  | [b] => b.toNat
  | [] => 0

/-- The sum of the bytes of a message at odd offsets. -/
def oddSum : List UInt8 → Nat
  | _ :: b₁ :: rest => b₁.toNat + oddSum rest
  | [_] => 0
  | [] => 0

variable {host host' : ByteOrder} {msg : List UInt8}

/-- Setting the checksum of a message of which the fields before it, the field and the rest are
given. -/
theorem sealCksum_append {fields field body : List UInt8} (host : ByteOrder)
    (hfields : fields.length = Hdr.cksum.offset) (hfield : field.length = Hdr.cksum.size) :
  blankCksum (fields ++ field ++ body) = fields ++ toBE Hdr.cksum.size 0 ++ body ∧
    sealCksum host (fields ++ field ++ body) = fields ++
      Hdr.cksum.net host (generateChecksum host (fields ++ toBE Hdr.cksum.size 0 ++ body)) ++ body
  := by
  have htake : (fields ++ field ++ body).take Hdr.cksum.offset = fields := by
    rw [List.append_assoc, List.take_left' hfields]
  have hdrop : (fields ++ field ++ body).drop (Hdr.cksum.offset + Hdr.cksum.size) = body := by
    apply List.drop_left'
    rw [List.length_append, hfields, hfield]
  have hblank : blankCksum (fields ++ field ++ body)
      = fields ++ toBE Hdr.cksum.size 0 ++ body := by rw [blankCksum, htake, hdrop]
  use hblank
  rw [sealCksum, cksumBytes, hblank, htake, hdrop]

/-- The messages to a node have their checksum set so. -/
theorem sealCksum_bytes (host : ByteOrder) (nodeId : UInt64) (msg : OutMsg) :
  sealCksum host (msg.bytes host nodeId) = msg.bytes host nodeId
  := by
  apply (sealCksum_append host _ (Field.length_net ..)).2
  simp [Field.length_net, Hdr.len, Hdr.msgType, Hdr.interfaceVersion, Hdr.nodeId, Hdr.cksum]

/-! ### The sums of the words -/

theorem sum_words_little (msg : List UInt8) :
  (words .little msg).sum = evenSum msg + 256 * oddSum msg
  := by
  induction msg using words.induct with
  | case1 b₀ b₁ rest ih =>
      simp only [words, List.sum_cons, ih, evenSum, oddSum, ByteOrder.load, ofLE]
      omega
  | case2 b => simp [words, evenSum, oddSum, ByteOrder.load, ofLE]
  | case3 => rfl

theorem sum_words_big (msg : List UInt8) :
  (words .big msg).sum = 256 * evenSum msg + oddSum msg
  := by
  induction msg using words.induct with
  | case1 b₀ b₁ rest ih =>
      simp [words, ih, evenSum, oddSum, ByteOrder.load, ofBE, ofLE]
      omega
  | case2 b => simp [words, evenSum, oddSum, ByteOrder.load, ofBE, ofLE]
  | case3 => rfl

/-- The checksums on the two hosts are the same exactly when the sums of the bytes at even and at
odd offsets are congruent modulo 257. -/
theorem generateChecksum_big_iff (hlen : msg.length ≤ 65535) :
  generateChecksum .big msg = generateChecksum .little msg ↔ evenSum msg ≡ oddSum msg [MOD 257]
  := by
  have hlt := OnesComplement.residue_lt (w := 16) (by decide) (words .big msg).sum
  have hlt' := OnesComplement.residue_lt (w := 16) (by decide) (words .little msg).sum
  have hcksum : generateChecksum .big msg = generateChecksum .little msg ↔
      OnesComplement.residue 16 (words .big msg).sum
        = OnesComplement.residue 16 (words .little msg).sum := by
    rw [generateChecksum_eq .big hlen, generateChecksum_eq .little hlen]
    omega
  rw [hcksum, OnesComplement.residue_eq_iff, sum_words_big, sum_words_little, Nat.ModEq, Nat.ModEq]
  omega

/-! ### The bytes -/

theorem cksumBytes_eq (host : ByteOrder) (msg : List UInt8) :
  cksumBytes host msg = toBE 2 (generateChecksum host (blankCksum msg))
  := ByteOrder.store_hton ..

/-- Bytes of the field are the same when they hold the same checksum. -/
theorem cksumBytes_eq_iff :
  cksumBytes host msg = cksumBytes host' msg ↔
    generateChecksum host (blankCksum msg) = generateChecksum host' (blankCksum msg)
  := by
  constructor
  · intro h
    rw [cksumBytes_eq, cksumBytes_eq] at h
    have hvalue := congrArg ofBE h
    rw [ofBE_toBE, ofBE_toBE, Nat.mod_eq_of_lt (generateChecksum_lt _ _),
      Nat.mod_eq_of_lt (generateChecksum_lt _ _)] at hvalue
    apply hvalue
  · intro h
    rw [cksumBytes_eq, cksumBytes_eq, h]

/-- A message sealed by one host verifies on another exactly when they have the same checksum. -/
theorem verifies_sealCksum (hsize : Hdr.size ≤ msg.length) :
  CksumVerifies host' (sealCksum host msg) ↔
    generateChecksum host' (blankCksum msg) = generateChecksum host (blankCksum msg)
  := by
  have htake : (msg.take Hdr.cksum.offset).length = Hdr.cksum.offset := by
    rw [List.length_take]
    apply min_eq_left
    apply le_trans _ hsize
    decide
  have hvalue : Hdr.cksum.value (sealCksum host msg)
      = generateChecksum host (blankCksum msg) := by
    rw [sealCksum, cksumBytes_eq]
    apply (Field.value_append _ htake).trans
    apply Nat.mod_eq_of_lt (generateChecksum_lt _ _)
  have hblank : blankCksum (sealCksum host msg) = blankCksum msg :=
    (sealCksum_append host htake (Field.length_net ..)).1
  rw [CksumVerifies, hvalue, hblank]

/-- The bytes stored by hosts of either byte order are the same, and a message sealed by a host
verifies on every other, exactly when the sums of the bytes at even and at odd offsets are congruent
modulo 257. -/
theorem cksum_portable_iff (hsize : Hdr.size ≤ msg.length) (hlen : msg.length ≤ 65535) :
  (cksumBytes .big msg = cksumBytes .little msg ∧
    ∀ host host', CksumVerifies host' (sealCksum host msg)) ↔
  evenSum (blankCksum msg) ≡ oddSum (blankCksum msg) [MOD 257]
  := by
  have hlength : (blankCksum msg).length ≤ 65535 := by
    rw [length_blankCksum hsize]
    apply hlen
  rw [← generateChecksum_big_iff hlength, cksumBytes_eq_iff]
  constructor
  · intro h
    apply h.1
  · intro h
    use h
    intro host host'
    rw [verifies_sealCksum hsize]
    cases host <;> cases host'
    · rfl
    · apply h
    · apply h.symm
    · rfl

theorem cksum_portable_regReq :
  (cksumBytes .big [0, 18, 0, 0, 0, 0, 0, 1, 0, 0, 0, 0, 0, 0, 0, 0, 0, 0]
      = cksumBytes .little [0, 18, 0, 0, 0, 0, 0, 1, 0, 0, 0, 0, 0, 0, 0, 0, 0, 0] ∧
    ∀ host host', CksumVerifies host'
      (sealCksum host [0, 18, 0, 0, 0, 0, 0, 1, 0, 0, 0, 0, 0, 0, 0, 0, 0, 0])) ↔
  evenSum (blankCksum [0, 18, 0, 0, 0, 0, 0, 1, 0, 0, 0, 0, 0, 0, 0, 0, 0, 0])
    ≡ oddSum (blankCksum [0, 18, 0, 0, 0, 0, 0, 1, 0, 0, 0, 0, 0, 0, 0, 0, 0, 0]) [MOD 257]
  := cksum_portable_iff (by decide) (by decide)

/-- A registration request is sealed differently by the two hosts, and neither takes what the other
has sealed. -/
theorem regReq_not_portable :
  cksumBytes .big (OutMsg.regReq.bytes .big 4096) = [0xef, 0xec] ∧
    cksumBytes .little (OutMsg.regReq.bytes .little 4096) = [0xec, 0xef] ∧
    ¬ CksumVerifies .little (OutMsg.regReq.bytes .big 4096) ∧
    ¬ CksumVerifies .big (OutMsg.regReq.bytes .little 4096)
  := by decide

end X6losim
