import X6losim.Wire.Length

/-!
# What a handler is called with

When `readMsg` calls a handler its buffer holds a message that is accepted, of the length the
length word says, with the checksum field blank.  That is so however much of the message has
arrived.
-/

open Bytes

namespace X6losim

/-- A message in the buffer of `readMsg` that a handler is called for. -/
structure Received (host : ByteOrder) (nodeId : UInt64) (handler : Handler)
    (frame : List UInt8) : Prop where
  size : Hdr.size ≤ frame.length
  length_lt : frame.length < 2 ^ 16
  word : frame.take 2 = toBE 2 frame.length
  accepted : Accepted host nodeId handler frame

theorem Dispatched.received {host : ByteOrder} {nodeId : UInt64} {handler : Handler}
    {frame : List UInt8} (h : Dispatched host nodeId handler frame) :
  Received host nodeId handler frame
  := by
  refine ⟨h.size, h.length_lt, h.word, ?_⟩
  have hwhole : Delivery.Whole ⟨some 2, some frame.length, fun _ => 0⟩ frame.length :=
    ⟨⟨2, rfl, le_refl 2⟩, frame.length, rfl, Nat.sub_le _ _⟩
  have hcall := h.whole _ [] hwhole
  rw [readMsgFrame_whole h.size h.length_lt h.word hwhole] at hcall
  split at hcall
  · cases hcall
  · cases hverdict : verdict host nodeId frame with
    | error e =>
        rw [hverdict] at hcall
        cases hcall
    | ok r =>
        rw [hverdict] at hcall
        cases hcall
        apply (verdict_call_iff.mp hverdict).1

/-- The length word of a message holds the length of the buffer a handler is called with. -/
theorem Received.len_value {host : ByteOrder} {nodeId : UInt64} {handler : Handler}
    {frame : List UInt8} (h : Received host nodeId handler frame) :
  Hdr.len.value (blankCksum frame) = (blankCksum frame).length
  := by
  have hbytes : Hdr.len.bytes frame = toBE 2 frame.length := h.word
  rw [value_blankCksum h.size (by left; decide), length_blankCksum h.size, Field.value, hbytes,
    ofBE_toBE]
  apply Nat.mod_eq_of_lt h.length_lt

/-- What is received into a buffer leaves it as long as it is. -/
theorem length_recvInto {available : Option Nat} {buf buf' unread rest : List UInt8}
    {offset count : Nat} {rv : Int}
    (h : recvInto available buf offset count unread = .ok (rv, buf') rest) :
  buf'.length = buf.length
  := by
  by_cases hle : buf.length < offset + count
  · rw [recvInto, if_pos hle] at h
    cases h
  · obtain ⟨rv', buf₁, rest', hok, hlength⟩ : ∃ rv buf₁ rest',
        recvInto available buf offset count unread = .ok (rv, buf₁) rest' ∧
          buf₁.length = buf.length := recvInto_ok (le_of_not_gt hle)
    rw [hok] at h
    cases h
    apply hlength

/-- A message that passes the checks of `readMsg` is as long as its header at least. -/
theorem checkMsg_call {host : ByteOrder} {nodeId : UInt64} {len : Nat} {msgData msg : List UInt8}
    {handler : Handler} (hlen : msgData.length = len)
    (h : checkMsg host nodeId len msgData = .ok (.call handler msg)) :
  Hdr.size ≤ len ∧ Accepted host nodeId handler (toBE 2 len ++ msgData.drop 2) ∧
    msg = blankCksum (toBE 2 len ++ msgData.drop 2)
  := by
  have hsize : Hdr.size ≤ len := by
    by_contra hshort
    rw [checkMsg, Field.readNet_outside host] at h
    · cases h
    · rw [hlen]
      apply lt_of_not_ge hshort
  rw [checkMsg_eq hlen hsize] at h
  exact ⟨hsize, verdict_call_iff.mp h⟩

/-- A handler is called with a message that has been received. -/
theorem readMsgFrame_call {host : ByteOrder} {nodeId : UInt64} {d : Delivery} {handler : Handler}
    {unread rest msg : List UInt8}
    (h : readMsgFrame host nodeId d unread = .ok (.call handler msg) rest) :
  ∃ frame, Received host nodeId handler frame ∧ msg = blankCksum frame
  := by
  rw [readMsgFrame] at h
  obtain ⟨⟨rv, word⟩, unread₁, hrecv, h⟩ := Exec.bind_eq_ok.mp h
  simp only [Exec.ite_apply] at h
  split at h
  · cases h
  split at h
  · cases h
  next hrv =>
  split at h
  · cases h
  have hword : word.length = 2 := by
    cases hfirst : d.first with
    | none =>
        rw [hfirst] at hrecv
        cases hrecv
        apply absurd hrv
        decide
    | some n =>
        rw [hfirst] at hrecv
        cases hrecv
        have hlength := not_not.mp hrv
        exact_mod_cast hlength
  have hlt := ofBE_lt word
  rw [hword] at hlt
  have hload := ByteOrder.ntoh_load host word
  rw [hword] at hload
  rw [hload, readMsgBody] at h
  obtain ⟨⟨rv', msgData⟩, unread₂, hbody, h⟩ := Exec.bind_eq_ok.mp h
  simp only [Exec.ite_apply] at h
  split at h
  · cases h
  cases hcheck : checkMsg host nodeId (ofBE word) msgData with
  | error e =>
      rw [hcheck] at h
      cases h
  | ok r =>
      rw [hcheck] at h
      cases h
      have hlength : msgData.length = ofBE word := by
        rw [length_recvInto hbody, length_malloc]
      obtain ⟨hsize, haccepted, rfl⟩ := checkMsg_call hlength hcheck
      have hsize' : 18 ≤ ofBE word := hsize
      have hframe : (toBE 2 (ofBE word) ++ msgData.drop 2).length = ofBE word := by
        rw [List.length_append, length_toBE, List.length_drop, hlength]
        omega
      refine ⟨_, ⟨?_, ?_, ?_, haccepted⟩, rfl⟩
      · rw [hframe]
        apply hsize
      · rw [hframe]
        apply hlt
      · rw [hframe]
        apply List.take_left' (length_toBE 2 _)

end X6losim
