import X6losim.Wire.Grammar

/-!
# The length word and the bounds of the buffer

For which length words `readMsg` stays in the buffer it allocates.  On a little-endian host
the assertion on the length lets every word through that is not a multiple of 256 below
2048, so a message too short for a header is read from all the same.
-/

open Bytes

namespace X6losim

/-- A verdict never leaves a buffer. -/
theorem verdict_ne_outOfBounds {host : ByteOrder} {nodeId : UInt64} {msg : List UInt8} :
  verdict host nodeId msg ≠ .error .outOfBounds
  := by
  intro h
  cases (verdict_error_iff.mp h).2.2

/-- Reading into a buffer with room for what is asked for keeps its length. -/
theorem recvInto_ok {available : Option Nat} {buf unread : List UInt8} {offset count : Nat}
    (h : offset + count ≤ buf.length) :
  ∃ rv buf' unread', recvInto available buf offset count unread = .ok (rv, buf') unread' ∧
    buf'.length = buf.length
  := by
  have hle : ¬ buf.length < offset + count := not_lt_of_ge h
  cases available with
  | none =>
      refine ⟨-1, buf, unread, ?_, rfl⟩
      simp [recvInto, recv, if_neg hle]
  | some n =>
      let bytes := unread.take (min n count)
      refine ⟨bytes.length, buf.take offset ++ bytes ++ buf.drop (offset + bytes.length),
        unread.drop (min n count), ?_, ?_⟩
      · rw [recvInto, if_neg hle]
        rfl
      · simp only [bytes, List.length_append, List.length_take, List.length_drop]
        omega

/-- On a length of at least a header, the rest of `readMsg` stays in its buffer whatever the
bytes are and however many arrive. -/
theorem readMsgBody_inBounds {host : ByteOrder} {nodeId : UInt64} {d : Delivery} {len : Nat}
    {unread unread' : List UInt8} (hsize : Hdr.size ≤ len) (hmax : len < 2 ^ 64) :
  readMsgBody host nodeId d len unread ≠ .error .outOfBounds unread'
  := by
  have hsize' : 18 ≤ len := hsize
  have hcount : bodyCount len = len - 2 := bodyCount_eq (by omega) hmax
  have hmalloc := length_malloc d.memory len
  obtain ⟨rv, buf, unread₁, hinto, hbuf⟩ : ∃ rv buf unread₁,
      recvInto d.body (malloc d.memory len) 2 (len - 2) unread = .ok (rv, buf) unread₁ ∧
        buf.length = (malloc d.memory len).length := by
    apply recvInto_ok
    omega
  have hverdict : verdict host nodeId (toBE 2 len ++ buf.drop 2) ≠ .error .outOfBounds :=
    verdict_ne_outOfBounds
  rw [← checkMsg_eq (hbuf.trans hmalloc) hsize] at hverdict
  intro h
  simp only [readMsgBody, Exec.bind_apply, hcount, hinto, Exec.ite_apply] at h
  split at h
  · cases h
  · cases hcheck : checkMsg host nodeId len buf with
    | ok r =>
        rw [hcheck] at h
        cases h
    | error e =>
        rw [hcheck] at h hverdict
        cases h
        apply hverdict rfl

/-- On a length below a header, `readMsg` leaves its buffer when nothing of the rest of the
message has arrived. -/
theorem readMsgBody_outside {host : ByteOrder} {nodeId : UInt64} {d : Delivery} {len : Nat}
    {unread : List UInt8} (hlen : len < Hdr.size) (hbody : d.body = none) :
  readMsgBody host nodeId d len unread = .error .outOfBounds unread
  := by
  have hlen' : len < 18 := hlen
  have hmalloc := length_malloc d.memory len
  by_cases h2 : len < 2
  · have hwide : (malloc d.memory len).length < 2 + bodyCount len := by
      rw [hmalloc, bodyCount]
      omega
    simp only [readMsgBody, recvInto, if_pos hwide, Exec.bind_apply, Exec.throw_apply]
  · have hcount : bodyCount len = len - 2 := bodyCount_eq (by omega) (by omega)
    have hle : ¬ (malloc d.memory len).length < 2 + (len - 2) := by omega
    have hcksum : Hdr.cksum.readNet host (malloc d.memory len) = .error .outOfBounds := by
      apply Field.readNet_outside
      rw [hmalloc]
      apply hlen
    have hcheck : checkMsg host nodeId len (malloc d.memory len) = .error .outOfBounds := by
      rw [checkMsg, hcksum]
      rfl
    have hagain : ¬ ((-1 : Int) = eagain) := by decide
    simp [readMsgBody, recvInto, hcount, if_neg hle, recv, hbody, if_neg hagain, hcheck]

/-- For a length word and every message that follows it, however much of it arrives: `readMsg`
refuses the length before it reads any of the message, or the length is that of a header at
least, the rest asked for is what is left of it, and nothing outside the buffer is used. -/
def LengthInBounds (host : ByteOrder) (nodeId : UInt64) (b₀ b₁ : UInt8) : Prop :=
  ∀ (d : Delivery) (n : Nat) (rest : List UInt8), d.first = some n → 2 ≤ n →
    readMsgFrame host nodeId d (b₀ :: b₁ :: rest) = .error (.assertion .readMsgLength) rest ∨
    Hdr.size ≤ ofBE [b₀, b₁] ∧ bodyCount (ofBE [b₀, b₁]) = ofBE [b₀, b₁] - 2 ∧
      ∀ unread, readMsgFrame host nodeId d (b₀ :: b₁ :: rest) ≠ .error .outOfBounds unread

/-- `readMsg` keeps to its buffer exactly for the lengths that the assertion refuses as the
host loads them, or that are at least that of a header as they are in network order.  For
every other length there are messages on which it leaves the buffer. -/
theorem length_inBounds_iff (host : ByteOrder) (nodeId : UInt64) (b₀ b₁ : UInt8) :
  (LengthInBounds host nodeId b₀ b₁ ↔
      host.load [b₀, b₁] < sizeofPointer ∨ Hdr.size ≤ ofBE [b₀, b₁]) ∧
    (¬ (host.load [b₀, b₁] < sizeofPointer ∨ Hdr.size ≤ ofBE [b₀, b₁]) →
      ∃ d rest, readMsgFrame host nodeId d (b₀ :: b₁ :: rest) = .error .outOfBounds rest)
  := by
  have hlen : ofBE [b₀, b₁] < 256 ^ 2 := ofBE_lt [b₀, b₁]
  have hword : ∀ (d : Delivery) (n : Nat) (rest : List UInt8), d.first = some n → 2 ≤ n →
      readMsgFrame host nodeId d (b₀ :: b₁ :: rest) =
        if host.load [b₀, b₁] < sizeofPointer then .error (.assertion .readMsgLength) rest
        else readMsgBody host nodeId d (ofBE [b₀, b₁]) rest := by
    intro d n rest hfirst hn
    have hlength : [b₀, b₁].length = 2 := rfl
    apply readMsgFrame_word hfirst hn hlength
  have houtside : ¬ (host.load [b₀, b₁] < sizeofPointer ∨ Hdr.size ≤ ofBE [b₀, b₁]) → ∀ rest,
      readMsgFrame host nodeId ⟨some 2, none, fun _ => 0⟩ (b₀ :: b₁ :: rest)
        = .error .outOfBounds rest := by
    intro hbad rest
    obtain ⟨hpass, hshort⟩ := not_or.mp hbad
    rw [hword _ 2 rest rfl (le_refl 2), if_neg hpass]
    apply readMsgBody_outside (lt_of_not_ge hshort) rfl
  constructor
  · constructor
    · intro h
      by_contra hbad
      have hout := houtside hbad []
      rcases h ⟨some 2, none, fun _ => 0⟩ 2 [] rfl (le_refl 2) with h | ⟨-, -, h⟩
      · rw [hout] at h
        cases h
      · apply h _ hout
    · intro hgood d n rest hfirst hn
      by_cases hpass : host.load [b₀, b₁] < sizeofPointer
      · left
        rw [hword d n rest hfirst hn, if_pos hpass]
      · right
        have hsize : Hdr.size ≤ ofBE [b₀, b₁] := hgood.resolve_left hpass
        have hsize' : 18 ≤ ofBE [b₀, b₁] := hsize
        have hcount : bodyCount (ofBE [b₀, b₁]) = ofBE [b₀, b₁] - 2 := by
          apply bodyCount_eq
          · omega
          · omega
        refine ⟨hsize, hcount, ?_⟩
        intro unread
        rw [hword d n rest hfirst hn, if_neg hpass]
        apply readMsgBody_inBounds hsize
        omega
  · intro hbad
    exact ⟨_, [], houtside hbad []⟩

/-- A length word of one byte is let through by the assertion and asks `recv` for more bytes
than any buffer holds. -/
theorem length_one_outOfBounds :
  ¬ LengthInBounds .little 1 0 1 ∧
    readMsgFrame .little 1 ⟨some 2, some 1, fun _ => 0⟩ [0, 1, 7] = .error .outOfBounds [7]
  := by
  have hrun : readMsgFrame .little 1 ⟨some 2, some 1, fun _ => 0⟩ [0, 1, 7]
      = .error .outOfBounds [7] := by
    simp [readMsgFrame, readMsgBody, recvInto, recv, length_malloc, bodyCount, eagain,
      sizeofPointer, ByteOrder.load, ByteOrder.ntoh, ByteOrder.hton, ofLE, ofBE, toLE]
  constructor
  · intro h
    rcases h ⟨some 2, some 1, fun _ => 0⟩ 2 [7] rfl (le_refl 2) with h | ⟨-, -, h⟩
    · rw [hrun] at h
      cases h
    · apply h _ hrun
  · apply hrun

end X6losim
