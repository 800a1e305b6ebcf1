import X6losim.Sim.Node
import X6losim.Wire.Received

/-!
# The packet of a data indication

A data indication is copied into a packet.  When its transmission has ended well the packet is
relayed: two of its fields are written, and as many bytes are read from it as its `psdu_len`
says.  All of them lie in its buffer exactly when `psdu_len` fits its length.
-/

open Bytes

namespace X6losim

variable {host : ByteOrder} {pkt pkt' : NetSimPacket}

/-- The frame of a packet, and what comes before it, are not longer than the packet. -/
def PsduFits (buf : List UInt8) : Prop :=
  DataInd.pktData + DataInd.psduLen.value buf ≤ buf.length

/-! ### Making a packet -/

namespace NetSimPacket

/-- A message whose length word is right is copied whole. -/
theorem new_whole (host : ByteOrder) {msg : List UInt8} (hsize : Hdr.size ≤ msg.length)
    (hlen : Hdr.len.value msg = msg.length) (k : PktId) (p : NodePtr) :
  ∃ pkt, NetSimPacket.new host k msg p = .ok pkt ∧ pkt.pktBuffer = msg
  := by
  have hread : Hdr.len.readNet host msg = .ok msg.length := by
    rw [Field.readNet_ok, hlen]
    apply le_trans _ hsize
    decide
  have hbytes : Bytes.read Stop.outOfBounds msg 0 msg.length = .ok msg := by
    rw [read_ok _ (by omega), List.drop_zero, List.take_length]
  rw [NetSimPacket.new, hread]
  simp only [bind, Except.bind, hbytes]
  exact ⟨_, rfl, rfl⟩

/-- The first byte of a packet that is not empty says whether it is an acknowledgement. -/
theorem isAck_first {b : UInt8} (h : pkt.pktBuffer.take 1 = [b]) :
  pkt.isAck = .ok (b &&& 0x07 == 0x02)
  := by
  have hlength : 0 + 1 ≤ pkt.pktBuffer.length := by
    have htake := congrArg List.length h
    rw [List.length_take, List.length_singleton] at htake
    omega
  rw [isAck, Bytes.read_ok _ hlength, List.drop_zero, h]
  rfl

end NetSimPacket

/-- The first byte of a message that has been received is the high byte of its length. -/
theorem Received.take_one {nodeId : UInt64} {handler : Handler} {frame : List UInt8}
    (h : Received host nodeId handler frame) :
  (blankCksum frame).take 1 = [UInt8.ofNat (frame.length / 256)]
  := by
  have hword : (blankCksum frame).take 2 = toBE 2 frame.length := by
    have hkept := take_drop_of_write (i := 0) (k := 2) (write_blankCksum h.size)
      (Or.inl (by decide))
    rw [List.drop_zero, List.drop_zero, h.word] at hkept
    apply hkept
  have htake : (blankCksum frame).take 1 = ((blankCksum frame).take 2).take 1 := by
    rw [List.take_take]
    rfl
  rw [htake, hword]
  rfl

/-- A message that has been received is copied into a packet.  It is taken for an acknowledgement by
the high byte of its length. -/
theorem Received.packet {nodeId : UInt64} {handler : Handler} {frame : List UInt8}
    (h : Received host nodeId handler frame) (k : PktId) (p : NodePtr) :
  ∃ pkt, NetSimPacket.new host k (blankCksum frame) p = .ok pkt ∧
    pkt.pktBuffer = blankCksum frame ∧ pkt.isAck = .ok (frame.length / 256 % 8 == 2)
  := by
  have hsize : Hdr.size ≤ (blankCksum frame).length := by
    rw [length_blankCksum h.size]
    apply h.size
  obtain ⟨pkt, hnew, hbuffer⟩ := NetSimPacket.new_whole host hsize h.len_value k p
  refine ⟨pkt, hnew, hbuffer, ?_⟩
  have hfirst := h.take_one
  rw [← hbuffer] at hfirst
  have hmask : (UInt8.ofNat (frame.length / 256) &&& 0x07).toNat = frame.length / 256 % 8 := by
    have hlow : ((UInt8.ofNat (frame.length / 256)).toNat &&& 0x07)
        = (UInt8.ofNat (frame.length / 256)).toNat % 2 ^ 3 := Nat.and_two_pow_sub_one_eq_mod _ 3
    rw [UInt8.toNat_and]
    apply hlow.trans
    rw [UInt8.toNat_ofNat']
    omega
  have hbool : (UInt8.ofNat (frame.length / 256) &&& 0x07 == 0x02)
      = (frame.length / 256 % 8 == 2) := by
    rw [← hmask, Bool.eq_iff_iff, beq_iff_eq, beq_iff_eq, ← UInt8.toNat_inj]
    rfl
  rw [NetSimPacket.isAck_first hfirst, hbool]

namespace NetSimPacket

/-! ### Relaying a packet -/

/-- Writing into a packet writes into its buffer. -/
theorem write_pktBuffer {offset : Nat} {bs : List UInt8} (h : pkt.write offset bs = .ok pkt') :
  Bytes.write Stop.outOfBounds pkt.pktBuffer offset bs = .ok pkt'.pktBuffer
  := by
  rw [write] at h
  split at h
  · next hwrite =>
      cases h
      apply hwrite
  · cases h

theorem write_fits {offset : Nat} {bs : List UInt8}
    (h : offset + bs.length ≤ pkt.pktBuffer.length) :
  ∃ pkt', pkt.write offset bs = .ok pkt'
  := by
  have hwrite := write_ok Stop.outOfBounds h
  rw [write]
  split
  · exact ⟨_, rfl⟩
  · next herror =>
      rw [hwrite] at herror
      cases herror

/-- A write that succeeds has lain in the buffer. -/
theorem le_of_write {offset : Nat} {bs : List UInt8} (h : pkt.write offset bs = .ok pkt') :
  offset + bs.length ≤ pkt.pktBuffer.length
  := by
  have hwrite := write_pktBuffer h
  by_contra hlt
  rw [write_outside _ (lt_of_not_ge hlt)] at hwrite
  cases hwrite

theorem length_write {offset : Nat} {bs : List UInt8} (h : pkt.write offset bs = .ok pkt') :
  pkt'.pktBuffer.length = pkt.pktBuffer.length
  := length_of_write (write_pktBuffer h)

/-- Setting the signal strength and the checksum leaves the buffer as long as it is, and
`psdu_len` as it is. -/
theorem relay_writes {pkt₁ pkt₂ : NetSimPacket} (hrssi : pkt.setRSSI 127 = .ok pkt₁)
    (hcksum : pkt₁.generateChecksum host = .ok pkt₂) :
  pkt₂.pktBuffer.length = pkt.pktBuffer.length ∧
    DataInd.psduLen.value pkt₂.pktBuffer = DataInd.psduLen.value pkt.pktBuffer
  := by
  constructor
  · rw [length_write hcksum, length_write hrssi]
  · rw [Field.value_write (write_pktBuffer hcksum), Field.value_write (write_pktBuffer hrssi)]
    · left
      decide
    · right
      rw [ByteOrder.length_store]
      decide

/-- The bytes at `pktbuf()` lie in the buffer exactly when `psdu_len` fits. -/
theorem pktbuf_ok_iff :
  (∃ bytes, pkt.pktbuf host = .ok bytes) ↔ PsduFits pkt.pktBuffer
  := by
  rw [pktbuf, pktbufSize, PsduFits]
  by_cases hlen : DataInd.psduLen.offset + DataInd.psduLen.size ≤ pkt.pktBuffer.length
  · rw [Field.readNet_ok host hlen]
    simp only [bind, Except.bind, Bytes.read]
    split
    · next hfits => simp [hfits]
    · next hfits => simp [hfits]
  · rw [Field.readNet_outside host (lt_of_not_ge hlen)]
    constructor
    · rintro ⟨bytes, h⟩
      cases h
    · intro hfits
      apply absurd hlen
      rw [not_not]
      apply le_trans _ hfits
      apply le_trans _ (Nat.le_add_right _ _)
      decide

/-- The relay of a packet stays in its buffer exactly when `psdu_len` fits. -/
theorem relay_iff (host : ByteOrder) :
  (∃ pkt₁ pkt₂ bytes, pkt.setRSSI 127 = .ok pkt₁ ∧ pkt₁.generateChecksum host = .ok pkt₂ ∧
    pkt₂.pktbuf host = .ok bytes) ↔ PsduFits pkt.pktBuffer
  := by
  constructor
  · rintro ⟨pkt₁, pkt₂, bytes, hrssi, hcksum, hbytes⟩
    obtain ⟨hlength, hvalue⟩ := relay_writes hrssi hcksum
    have hfits := pktbuf_ok_iff.mp ⟨bytes, hbytes⟩
    rw [PsduFits, hlength, hvalue] at hfits
    apply hfits
  · intro hfits
    have hdata : DataInd.pktData ≤ pkt.pktBuffer.length :=
      le_trans (Nat.le_add_right _ _) hfits
    obtain ⟨pkt₁, hrssi⟩ : ∃ pkt₁, pkt.setRSSI 127 = .ok pkt₁ := write_fits hdata
    have hlength := length_write hrssi
    obtain ⟨pkt₂, hcksum⟩ : ∃ pkt₂, pkt₁.generateChecksum host = .ok pkt₂ := by
      apply write_fits
      rw [ByteOrder.length_store, hlength]
      apply le_trans _ hdata
      decide
    obtain ⟨hlength', hvalue⟩ := relay_writes hrssi hcksum
    obtain ⟨bytes, hbytes⟩ : ∃ bytes, pkt₂.pktbuf host = .ok bytes := by
      rw [pktbuf_ok_iff, PsduFits, hlength', hvalue]
      apply hfits
    exact ⟨pkt₁, pkt₂, bytes, hrssi, hcksum, hbytes⟩

end NetSimPacket

/-! ### What is relayed -/

/-- The bytes that are multicast when a packet that holds a message is relayed. -/
def Relays (host : ByteOrder) (msg buf : List UInt8) : Prop :=
  ∃ pkt pkt₁ pkt₂ : NetSimPacket, pkt.pktBuffer = msg ∧ pkt.setRSSI 127 = .ok pkt₁ ∧
    pkt₁.generateChecksum host = .ok pkt₂ ∧ pkt₂.pktBuffer = buf

/-- A message that is relayed has room for the signal strength. -/
theorem Relays.size {msg buf : List UInt8} (h : Relays host msg buf) :
  DataInd.pktData ≤ msg.length
  := by
  obtain ⟨pkt, pkt₁, pkt₂, rfl, hrssi, -, -⟩ := h
  exact NetSimPacket.le_of_write hrssi

/-- The bytes multicast for a frame are the frame, but for the signal strength, which is set, and
the checksum, which verifies. -/
structure Transparent (host : ByteOrder) (frame buf : List UInt8) : Prop where
  length : buf.length = frame.length
  rssi : buf[DataInd.rssi.offset]? = some 127
  same : ∀ j, j ≠ DataInd.rssi.offset →
    ¬ (Hdr.cksum.offset ≤ j ∧ j < Hdr.cksum.offset + Hdr.cksum.size) → buf[j]? = frame[j]?
  verifies : CksumVerifies host buf

/-- A message with the checksum field blank is relayed transparently: the checksum is that of the
message with the signal strength set, in which the field is still blank. -/
theorem Relays.transparent {frame buf : List UInt8} (h : Relays host (blankCksum frame) buf)
    (hsize : Hdr.size ≤ frame.length) :
  Transparent host frame buf
  := by
  obtain ⟨pkt, pkt₁, pkt₂, hmsg, hrssi, hcksum, rfl⟩ := h
  have hblank := write_blankCksum hsize
  have hwrite := NetSimPacket.write_pktBuffer hrssi
  rw [hmsg] at hwrite
  have hwrite' := NetSimPacket.write_pktBuffer hcksum
  rw [ByteOrder.store_hton] at hwrite'
  have hlength := length_blankCksum hsize
  have hlength₁ := length_of_write hwrite
  have hlength₂ := length_of_write hwrite'
  have hfield : (pkt₁.pktBuffer.drop Hdr.cksum.offset).take (toBE Hdr.cksum.size 0).length
      = toBE Hdr.cksum.size 0 := by
    rw [take_drop_of_write hwrite (Or.inl (by decide))]
    simp only [blankCksum, List.append_assoc]
    rw [List.drop_left', List.take_left' rfl]
    rw [List.length_take]
    apply min_eq_left
    apply le_trans _ hsize
    decide
  have hundo : blankCksum pkt₂.pktBuffer = pkt₁.pktBuffer := by
    have hback := write_write hwrite' (by simp) hfield
    rw [write_blankCksum (by omega)] at hback
    apply Except.ok.inj hback
  constructor
  · omega
  · rw [getElem?_of_write hwrite', if_neg (by simp [Hdr.cksum, DataInd.rssi]),
      getElem?_of_write hwrite, if_pos (by simp), Nat.sub_self]
    rfl
  · intro j hrssi' hcksum'
    have houtside : ¬ (DataInd.rssi.offset ≤ j ∧
        j < DataInd.rssi.offset + [(127 : UInt8)].length) := by
      simp only [List.length_singleton]
      omega
    rw [getElem?_of_write hwrite', if_neg (by rwa [length_toBE]), getElem?_of_write hwrite,
      if_neg houtside, getElem?_of_write hblank, if_neg (by rwa [length_toBE])]
  · rw [CksumVerifies, hundo]
    have hlt := generateChecksum_lt host pkt₁.pktBuffer
    have hvalue : Hdr.cksum.value pkt₂.pktBuffer
        = generateChecksum host pkt₁.pktBuffer % 256 ^ 2 := by
      rw [Bytes.write] at hwrite'
      split at hwrite'
      · next hfits =>
          rw [← Except.ok.inj hwrite']
          apply Field.value_append
          rw [List.length_take]
          apply min_eq_left
          apply le_trans _ hfits
          apply Nat.le_add_right
      · cases hwrite'
    rw [hvalue, Nat.mod_eq_of_lt hlt]

end X6losim
