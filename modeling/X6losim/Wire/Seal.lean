import X6losim.Wire.Grammar

/-!
# Messages with a header that is filled in

`sealMsg` puts a header before the body of a message, with the checksum of the whole, as a node
does that sends the message.  The message is accepted for the handler of its type.
-/

open Bytes

namespace X6losim

/-- The fields of a header before the checksum. -/
def hdrFields (handler : Handler) (nodeId : UInt64) (len : Nat) : List UInt8 :=
  toBE Hdr.len.size len ++ toBE Hdr.msgType.size handler.msgType.code ++
    toBE Hdr.interfaceVersion.size netsimInterfaceVersion ++ toBE Hdr.nodeId.size nodeId.toNat

/-- A message with its header filled in. -/
def sealMsg (host : ByteOrder) (handler : Handler) (nodeId : UInt64) (body : List UInt8) :
    List UInt8 :=
  let fields := hdrFields handler nodeId (Hdr.size + body.length)
  let cksum := generateChecksum host (fields ++ toBE Hdr.cksum.size 0 ++ body)
  fields ++ toBE Hdr.cksum.size cksum ++ body

variable {host : ByteOrder} {handler : Handler} {nodeId : UInt64} {body : List UInt8}

theorem length_hdrFields (len : Nat) :
  (hdrFields handler nodeId len).length = Hdr.cksum.offset
  := by
  simp [hdrFields, Hdr.len, Hdr.msgType, Hdr.interfaceVersion, Hdr.nodeId, Hdr.cksum]

@[simp]
theorem length_sealMsg :
  (sealMsg host handler nodeId body).length = Hdr.size + body.length
  := by
  simp [sealMsg, length_hdrFields, Hdr.cksum, Hdr.size]
  omega

/-- What comes after the header of a message is its body. -/
theorem drop_sealMsg {k : Nat} (h : Hdr.size ≤ k) :
  (sealMsg host handler nodeId body).drop k = body.drop (k - Hdr.size)
  := by
  have hfields : (hdrFields handler nodeId (Hdr.size + body.length)).length = 16 :=
    length_hdrFields _
  have hsize : 18 ≤ k := h
  rw [sealMsg, List.drop_append, List.drop_eq_nil_of_le, List.nil_append]
  · rfl
  · simp [hfields, Hdr.cksum, hsize]

/-- The length word of a message is its length. -/
theorem take_sealMsg :
  (sealMsg host handler nodeId body).take 2
    = toBE 2 (sealMsg host handler nodeId body).length
  := by
  rw [length_sealMsg]
  simp [sealMsg, hdrFields, Hdr.len]

/-- The message with the checksum field blank. -/
theorem blankCksum_sealMsg :
  blankCksum (sealMsg host handler nodeId body)
    = hdrFields handler nodeId (Hdr.size + body.length) ++ toBE Hdr.cksum.size 0 ++ body
  := by
  have hfields : (hdrFields handler nodeId (Hdr.size + body.length)).length = 16 :=
    length_hdrFields _
  simp [blankCksum, sealMsg, Hdr.cksum, List.drop_append, hfields]

/-- A message with its header filled in is accepted for the handler of its type. -/
theorem accepted_sealMsg :
  Accepted host nodeId handler (sealMsg host handler nodeId body)
  where
  cksum := by
    have hvalue : Hdr.cksum.value (sealMsg host handler nodeId body) = _ :=
      Field.value_append _ (length_hdrFields _)
    rw [CksumVerifies, hvalue, blankCksum_sealMsg]
    symm
    apply Nat.mod_eq_of_lt (generateChecksum_lt _ _)
  nodeId := by
    have hsplit : ∃ after, sealMsg host handler nodeId body
        = (toBE Hdr.len.size (Hdr.size + body.length)
            ++ toBE Hdr.msgType.size handler.msgType.code
            ++ toBE Hdr.interfaceVersion.size netsimInterfaceVersion)
          ++ toBE Hdr.nodeId.size nodeId.toNat ++ after := ⟨_, List.append_assoc _ _ _⟩
    obtain ⟨after, hsplit⟩ := hsplit
    rw [hsplit, Field.value_append _ (by simp [Hdr.len, Hdr.msgType, Hdr.interfaceVersion,
      Hdr.nodeId])]
    apply Nat.mod_eq_of_lt nodeId.toNat_lt
  interfaceVersion := by
    have hsplit : ∃ after, sealMsg host handler nodeId body
        = (toBE Hdr.len.size (Hdr.size + body.length)
            ++ toBE Hdr.msgType.size handler.msgType.code)
          ++ toBE Hdr.interfaceVersion.size netsimInterfaceVersion ++ after :=
      ⟨_, (List.append_assoc _ _ _).trans (List.append_assoc _ _ _)⟩
    obtain ⟨after, hsplit⟩ := hsplit
    rw [hsplit, Field.value_append _ (by simp [Hdr.len, Hdr.msgType, Hdr.interfaceVersion])]
    rfl
  msgType := by
    have hsplit : ∃ after, sealMsg host handler nodeId body
        = toBE Hdr.len.size (Hdr.size + body.length)
          ++ toBE Hdr.msgType.size handler.msgType.code ++ after :=
      ⟨_, ((List.append_assoc _ _ _).trans (List.append_assoc _ _ _)).trans
        (List.append_assoc _ _ _)⟩
    obtain ⟨after, hsplit⟩ := hsplit
    rw [hsplit, Field.value_append _ (by simp [Hdr.len, Hdr.msgType])]
    cases handler <;> rfl

/-- A message with its header filled in is dispatched, if its length fits in the length word and
passes the assertion on it. -/
theorem dispatched_sealMsg (hmax : Hdr.size + body.length < 2 ^ 16)
    (hpass : sizeofPointer ≤ host.load (toBE 2 (Hdr.size + body.length))) :
  Dispatched host nodeId handler (sealMsg host handler nodeId body)
  := by
  apply accepted_sealMsg.dispatched
  · rw [length_sealMsg]
    apply Nat.le_add_right
  · rw [length_sealMsg]
    apply hmax
  · apply take_sealMsg
  · rw [length_sealMsg]
    apply hpass

end X6losim
