import X6losim.Wire.ReadMsg

/-!
# What `readMsg` does with a message

`verdict` is what `readMsg` comes to on a message of at least 18 bytes that is in its
buffer, in terms of the message alone.  A message is `Accepted` for a handler when its
checksum verifies, it names the node and the version of the interface, and its type is the
handler's.
-/

open Bytes

namespace X6losim

/-- A message with a blank checksum field. -/
def blankCksum (msg : List UInt8) : List UInt8 :=
  msg.take Hdr.cksum.offset ++ toBE Hdr.cksum.size 0 ++
    msg.drop (Hdr.cksum.offset + Hdr.cksum.size)

/-- The checksum in a message is that of the message with the checksum field blank. -/
def CksumVerifies (host : ByteOrder) (msg : List UInt8) : Prop :=
  generateChecksum host (blankCksum msg) = Hdr.cksum.value msg

instance (host : ByteOrder) (msg : List UInt8) : Decidable (CksumVerifies host msg) :=
  inferInstanceAs (Decidable (_ = _))

/-- The type of the messages a handler is for. -/
def Handler.msgType : Handler → MsgType
  | handleRegistrationConfirm => .regCon
  | handleDeregistrationRequest => .deregReq
  | handleCcaRequest => .ccaReq
  | handleDataIndication => .txDataInd

/-- The message is well formed, is meant for the node with the given id, and is of the type
the handler is for. -/
structure Accepted (host : ByteOrder) (nodeId : UInt64) (handler : Handler)
    (msg : List UInt8) : Prop where
  cksum : CksumVerifies host msg
  nodeId : Hdr.nodeId.value msg = nodeId.toNat
  interfaceVersion : Hdr.interfaceVersion.value msg = netsimInterfaceVersion
  msgType : Hdr.msgType.value msg = handler.msgType.code

/-- The switch on the type of a message finds a handler exactly when it is the type the
handler is for. -/
theorem handlerOf_eq_some {n : Nat} {handler : Handler} :
  handlerOf n = some handler ↔ n = handler.msgType.code
  := by
  constructor
  · intro h
    simp only [handlerOf] at h
    split_ifs at h with h₁ h₂ h₃ h₄
    all_goals
      obtain rfl := Option.some.inj h
      assumption
  · rintro rfl
    cases handler <;> rfl

/-- What `readMsg` comes to on a message in its buffer. -/
def verdict (host : ByteOrder) (nodeId : UInt64) (msg : List UInt8) : Except Stop ReadResult :=
  if ¬ CksumVerifies host msg then .ok .dropped
  else if Hdr.nodeId.value msg ≠ nodeId.toNat then .error (.assertion .readMsgNodeId)
  else if Hdr.interfaceVersion.value msg ≠ netsimInterfaceVersion then .ok .dropped
  else match handlerOf (Hdr.msgType.value msg) with
    | some handler => .ok (.call handler (blankCksum msg))
    | none => .ok .dropped

/-- A message that is accepted for a handler is handed to it. -/
theorem verdict_accepted {host : ByteOrder} {nodeId : UInt64} {handler : Handler}
    {msg : List UInt8} (h : Accepted host nodeId handler msg) :
  verdict host nodeId msg = .ok (.call handler (blankCksum msg))
  := by
  rw [verdict, if_neg (not_not.mpr h.cksum), if_neg (not_not.mpr h.nodeId),
    if_neg (not_not.mpr h.interfaceVersion), handlerOf_eq_some.mpr h.msgType]

/-- A message with a good checksum that names another node stops the program. -/
theorem verdict_other {host : ByteOrder} {nodeId : UInt64} {msg : List UInt8}
    (hcksum : CksumVerifies host msg) (hid : Hdr.nodeId.value msg ≠ nodeId.toNat) :
  verdict host nodeId msg = .error (.assertion .readMsgNodeId)
  := by
  rw [verdict, if_neg (not_not.mpr hcksum), if_pos hid]

/-- A message that names the node, or has a bad checksum, and that is accepted for no handler
is dropped. -/
theorem verdict_dropped {host : ByteOrder} {nodeId : UInt64} {msg : List UInt8}
    (hid : CksumVerifies host msg → Hdr.nodeId.value msg = nodeId.toNat)
    (h : ∀ handler, ¬ Accepted host nodeId handler msg) :
  verdict host nodeId msg = .ok .dropped
  := by
  rw [verdict]
  by_cases hcksum : CksumVerifies host msg
  · rw [if_neg (not_not.mpr hcksum), if_neg (not_not.mpr (hid hcksum))]
    by_cases hversion : Hdr.interfaceVersion.value msg = netsimInterfaceVersion
    · rw [if_neg (not_not.mpr hversion)]
      cases htype : handlerOf (Hdr.msgType.value msg) with
      | none => rfl
      | some handler =>
          have haccepted : Accepted host nodeId handler msg :=
            ⟨hcksum, hid hcksum, hversion, handlerOf_eq_some.mp htype⟩
          apply absurd haccepted (h handler)
    · rw [if_pos hversion]
  · rw [if_pos hcksum]

/-- What becomes of a message: it is handed to the handler it is accepted for, it stops the
program, or it is dropped. -/
theorem verdict_cases (host : ByteOrder) (nodeId : UInt64) (msg : List UInt8) :
  (∃ handler, Accepted host nodeId handler msg ∧
      verdict host nodeId msg = .ok (.call handler (blankCksum msg))) ∨
    (CksumVerifies host msg ∧ Hdr.nodeId.value msg ≠ nodeId.toNat ∧
      verdict host nodeId msg = .error (.assertion .readMsgNodeId)) ∨
    verdict host nodeId msg = .ok .dropped
  := by
  by_cases haccepted : ∃ handler, Accepted host nodeId handler msg
  · obtain ⟨handler, haccepted⟩ := haccepted
    exact .inl ⟨handler, haccepted, verdict_accepted haccepted⟩
  · right
    by_cases hother : CksumVerifies host msg ∧ Hdr.nodeId.value msg ≠ nodeId.toNat
    · exact .inl ⟨hother.1, hother.2, verdict_other hother.1 hother.2⟩
    · right
      apply verdict_dropped
      · intro hcksum
        by_contra hid
        apply hother ⟨hcksum, hid⟩
      · intro handler h
        apply haccepted ⟨handler, h⟩

/-- A handler is called exactly for the messages accepted for it, with the checksum field
blank. -/
theorem verdict_call_iff {host : ByteOrder} {nodeId : UInt64} {msg msg' : List UInt8}
    {handler : Handler} :
  verdict host nodeId msg = .ok (.call handler msg') ↔
    Accepted host nodeId handler msg ∧ msg' = blankCksum msg
  := by
  constructor
  · intro h
    rcases verdict_cases host nodeId msg with ⟨_, haccepted, hcall⟩ | ⟨-, -, hstop⟩ | hdrop
    · rw [hcall] at h
      cases h
      exact ⟨haccepted, rfl⟩
    · rw [hstop] at h
      cases h
    · rw [hdrop] at h
      cases h
  · rintro ⟨haccepted, rfl⟩
    apply verdict_accepted haccepted

/-- The verdict stops at a message with a good checksum that names another node. -/
theorem verdict_error_iff {host : ByteOrder} {nodeId : UInt64} {msg : List UInt8} {e : Stop} :
  verdict host nodeId msg = .error e ↔
    CksumVerifies host msg ∧ Hdr.nodeId.value msg ≠ nodeId.toNat ∧
      e = .assertion .readMsgNodeId
  := by
  constructor
  · intro h
    rcases verdict_cases host nodeId msg with ⟨_, -, hcall⟩ | ⟨hcksum, hid, hstop⟩ | hdrop
    · rw [hcall] at h
      cases h
    · rw [hstop] at h
      cases h
      exact ⟨hcksum, hid, rfl⟩
    · rw [hdrop] at h
      cases h
  · rintro ⟨hcksum, hid, rfl⟩
    apply verdict_other hcksum hid

/-- The length of a message is kept by blanking its checksum. -/
theorem length_blankCksum {msg : List UInt8} (h : Hdr.size ≤ msg.length) :
  (blankCksum msg).length = msg.length
  := by
  simp only [blankCksum, Hdr.cksum, Hdr.size, List.length_append, List.length_take,
    List.length_drop, length_toBE] at h ⊢
  omega

/-- Blanking the checksum is a write. -/
theorem write_blankCksum {msg : List UInt8} (h : Hdr.size ≤ msg.length) :
  Bytes.write Stop.outOfBounds msg Hdr.cksum.offset (toBE Hdr.cksum.size 0)
    = .ok (blankCksum msg)
  := by
  apply write_ok
  rw [length_toBE]
  apply h

/-- Blanking the checksum leaves the other fields as they are. -/
theorem value_blankCksum {f : Field} {msg : List UInt8} (hmsg : Hdr.size ≤ msg.length)
    (hf : f.offset + f.size ≤ Hdr.cksum.offset ∨ Hdr.size ≤ f.offset) :
  f.value (blankCksum msg) = f.value msg
  := by
  apply Field.value_write (write_blankCksum hmsg)
  rw [length_toBE]
  apply hf

/-- Where the length word is written, a field after it is as it was. -/
theorem value_putLen {f : Field} {msg : List UInt8} (len : Nat) (hf : 2 ≤ f.offset) :
  f.value (toBE 2 len ++ msg.drop 2) = f.value msg
  := by
  have hlen : (toBE 2 len).length ≤ f.offset := by
    rw [length_toBE]
    apply hf
  rw [Field.value, Field.value, Field.bytes, Field.bytes, List.drop_append,
    List.drop_eq_nil_of_le hlen, List.nil_append, List.drop_drop, length_toBE]
  congr 3
  omega

/-- Writing the length word after blanking the checksum, or before. -/
theorem blankCksum_putLen {msg : List UInt8} (len : Nat) (h : Hdr.size ≤ msg.length) :
  toBE 2 len ++ (blankCksum msg).drop 2 = blankCksum (toBE 2 len ++ msg.drop 2)
  := by
  match msg, h with
  | b₀ :: b₁ :: rest, _ => simp [blankCksum, Hdr.cksum, toBE, toLE]

/-- The checks of `readMsg` on a buffer of at least the size of a header never leave it, and
come to the verdict on the message whose length word is the length received. -/
theorem checkMsg_eq {host : ByteOrder} {nodeId : UInt64} {len : Nat} {msgData : List UInt8}
    (hlen : msgData.length = len) (hsize : Hdr.size ≤ len) :
  checkMsg host nodeId len msgData = verdict host nodeId (toBE 2 len ++ msgData.drop 2)
  := by
  have hmsg : Hdr.size ≤ msgData.length := by omega
  have hblank : (blankCksum msgData).length = len := by rw [length_blankCksum hmsg, hlen]
  have hframe : (toBE 2 len ++ msgData.drop 2).length = len := by
    simp only [Hdr.size] at hsize
    rw [List.length_append, List.length_drop, length_toBE]
    omega
  have hframe' : Hdr.size ≤ (toBE 2 len ++ msgData.drop 2).length := by rw [hframe]; exact hsize
  have hcksum : Hdr.cksum.readNet host msgData = .ok (Hdr.cksum.value msgData) := by
    apply Field.readNet_ok
    apply hmsg
  have hwrite : Hdr.cksum.writeNet host msgData 0 = .ok (blankCksum msgData) := by
    apply Field.writeNet_ok
    apply hmsg
  have hwriteLen : Hdr.len.writeNet host (blankCksum msgData) len
      = .ok (blankCksum (toBE 2 len ++ msgData.drop 2)) := by
    rw [← blankCksum_putLen len hmsg]
    apply Field.writeNet_ok
    rw [hblank]
    apply le_trans _ hsize
    decide
  have hlength : (blankCksum (toBE 2 len ++ msgData.drop 2)).length = len := by
    rw [length_blankCksum hframe', hframe]
  have hsum : Bytes.read Stop.outOfBounds (blankCksum (toBE 2 len ++ msgData.drop 2)) 0 len
      = .ok (blankCksum (toBE 2 len ++ msgData.drop 2)) := by
    rw [read_ok _ (by omega), List.drop_zero, List.take_of_length_le (by omega)]
  have hfield : ∀ f : Field, f.offset + f.size ≤ Hdr.cksum.offset →
      f.readNet host (blankCksum (toBE 2 len ++ msgData.drop 2))
        = .ok (f.value (toBE 2 len ++ msgData.drop 2)) := by
    intro f hf
    rw [Field.readNet_ok host, value_blankCksum hframe' (Or.inl hf)]
    rw [hlength]
    apply le_trans (le_trans hf _) hsize
    decide
  have htype := hfield Hdr.msgType (by decide)
  have hversion := hfield Hdr.interfaceVersion (by decide)
  have hid := hfield Hdr.nodeId (by decide)
  have hvalue : Hdr.cksum.value (toBE 2 len ++ msgData.drop 2) = Hdr.cksum.value msgData := by
    apply value_putLen
    decide
  rw [checkMsg, hcksum, hwrite]
  simp only [bind, Except.bind, hwriteLen, hsum, htype, hversion, hid, verdict, CksumVerifies,
    hvalue]
  split_ifs <;> rfl

/-- A call of `readMsg` gets all of a message of the given length: both calls of `recv` get
as many bytes as they ask for. -/
def Delivery.Whole (d : Delivery) (len : Nat) : Prop :=
  (∃ n, d.first = some n ∧ 2 ≤ n) ∧ ∃ n, d.body = some n ∧ len - 2 ≤ n

/-- `recv` of as many bytes as are there for it. -/
theorem recv_append {available count : Nat} {bytes rest : List UInt8}
    (hcount : bytes.length = count) (h : count ≤ available) :
  recv (some available) count (bytes ++ rest) = .ok (count, bytes) rest
  := by
  subst hcount
  simp [recv, min_eq_right h]

theorem length_malloc (memory : Nat → UInt8) (size : Nat) :
  (malloc memory size).length = size
  := by
  simp [malloc]

/-- For a length that fits in a size and is not less than two, nothing wraps around. -/
theorem bodyCount_eq {len : Nat} (h : 2 ≤ len) (h' : len < 2 ^ 64) :
  bodyCount len = len - 2
  := by
  rw [bodyCount]
  omega

/-- With the length word there, `readMsg` compares it with the size of a pointer as the host
loads it, and goes on with the length it is in network order. -/
theorem readMsgFrame_word {host : ByteOrder} {nodeId : UInt64} {d : Delivery} {n : Nat}
    {word rest : List UInt8} (hfirst : d.first = some n) (hn : 2 ≤ n)
    (hword : word.length = 2) :
  readMsgFrame host nodeId d (word ++ rest) =
    if host.load word < sizeofPointer then .error (.assertion .readMsgLength) rest
    else readMsgBody host nodeId d (ofBE word) rest
  := by
  have hagain : ¬ ((2 : Int) = eagain) := by decide
  have hlen : host.ntoh 2 (host.load word) = ofBE word := by
    rw [← ByteOrder.ntoh_load host word, hword]
  simp only [readMsgFrame, Exec.bind_apply, hfirst, recv_append hword hn, Nat.cast_ofNat,
    if_neg hagain, ne_eq, not_true_eq_false, if_false, Exec.ite_apply, Exec.throw_apply, hlen]

/-- The rest of a message that is all there is read and gets its verdict. -/
theorem readMsgBody_whole {host : ByteOrder} {nodeId : UInt64} {d : Delivery} {n : Nat}
    {msg rest : List UInt8} (hsize : Hdr.size ≤ msg.length) (hmax : msg.length < 2 ^ 16)
    (hword : msg.take 2 = toBE 2 msg.length) (hbody : d.body = some n)
    (hn : msg.length - 2 ≤ n) :
  readMsgBody host nodeId d msg.length (msg.drop 2 ++ rest)
    = Exec.ofExcept (verdict host nodeId msg) rest
  := by
  have hsize' : 18 ≤ msg.length := hsize
  have hsplit : toBE 2 msg.length ++ msg.drop 2 = msg := by
    rw [← hword, List.take_append_drop]
  have hcount : bodyCount msg.length = msg.length - 2 := by
    apply bodyCount_eq
    · omega
    · omega
  have hdrop : (msg.drop 2).length = msg.length - 2 := List.length_drop
  have hmalloc := length_malloc d.memory msg.length
  have hinto : recvInto d.body (malloc d.memory msg.length) 2 (msg.length - 2)
      (msg.drop 2 ++ rest)
      = .ok (↑(msg.length - 2), (malloc d.memory msg.length).take 2 ++ msg.drop 2) rest := by
    have hle : ¬ (malloc d.memory msg.length).length < 2 + (msg.length - 2) := by omega
    have hnil : (malloc d.memory msg.length).drop (2 + (msg.drop 2).length) = [] := by
      apply List.drop_eq_nil_of_le
      omega
    rw [recvInto, if_neg hle, hbody]
    simp only [Exec.bind_apply, Exec.pure_apply, recv_append hdrop hn, hnil, List.append_nil]
  have hcheck : checkMsg host nodeId msg.length
      ((malloc d.memory msg.length).take 2 ++ msg.drop 2) = verdict host nodeId msg := by
    have htake : ((malloc d.memory msg.length).take 2).length = 2 := by
      rw [List.length_take]
      omega
    have hbuf : ((malloc d.memory msg.length).take 2 ++ msg.drop 2).length = msg.length := by
      rw [List.length_append, htake, hdrop]
      omega
    rw [checkMsg_eq hbuf hsize, List.drop_append_of_le_length (by omega),
      List.drop_eq_nil_of_le (by omega), List.nil_append, hsplit]
  have hagain : ¬ ((↑(msg.length - 2) : Int) = eagain) := by
    simp only [eagain]
    omega
  simp only [readMsgBody, Exec.bind_apply, hcount, hinto, if_neg hagain, hcheck]

/-- What `readMsg` comes to on a message that is delivered whole: the length word as the
host loads it is compared with the size of a pointer, and the rest is the verdict. -/
theorem readMsgFrame_whole {host : ByteOrder} {nodeId : UInt64} {d : Delivery}
    {msg rest : List UInt8} (hsize : Hdr.size ≤ msg.length) (hmax : msg.length < 2 ^ 16)
    (hword : msg.take 2 = toBE 2 msg.length) (whole : d.Whole msg.length) :
  readMsgFrame host nodeId d (msg ++ rest) =
    if host.load (toBE 2 msg.length) < sizeofPointer then
      .error (.assertion .readMsgLength) (msg.drop 2 ++ rest)
    else Exec.ofExcept (verdict host nodeId msg) rest
  := by
  obtain ⟨⟨n₁, hfirst, hn₁⟩, n₂, hbody, hn₂⟩ := whole
  have hsplit : msg ++ rest = toBE 2 msg.length ++ (msg.drop 2 ++ rest) := by
    rw [← hword, ← List.append_assoc, List.take_append_drop]
  have hlen : ofBE (toBE 2 msg.length) = msg.length := by
    rw [ofBE_toBE]
    apply Nat.mod_eq_of_lt hmax
  rw [hsplit, readMsgFrame_word hfirst hn₁ (length_toBE _ _), hlen,
    readMsgBody_whole hsize hmax hword hbody hn₂]

/-- A frame `readMsg` calls a handler for when all of it is there. -/
structure Dispatched (host : ByteOrder) (nodeId : UInt64) (handler : Handler)
    (frame : List UInt8) : Prop where
  size : Hdr.size ≤ frame.length
  length_lt : frame.length < 2 ^ 16
  word : frame.take 2 = toBE 2 frame.length
  whole : ∀ (d : Delivery) (rest : List UInt8), d.Whole frame.length →
    readMsgFrame host nodeId d (frame ++ rest) = .ok (.call handler (blankCksum frame)) rest

/-- A message that is accepted is dispatched if its length word passes the assertion on it. -/
theorem Accepted.dispatched {host : ByteOrder} {nodeId : UInt64} {handler : Handler}
    {frame : List UInt8} (h : Accepted host nodeId handler frame) (hsize : Hdr.size ≤ frame.length)
    (hmax : frame.length < 2 ^ 16) (hword : frame.take 2 = toBE 2 frame.length)
    (hpass : sizeofPointer ≤ host.load (toBE 2 frame.length)) :
  Dispatched host nodeId handler frame
  where
  size := hsize
  length_lt := hmax
  word := hword
  whole d rest whole := by
    rw [readMsgFrame_whole hsize hmax hword whole, if_neg (not_lt_of_ge hpass),
      verdict_call_iff.mpr ⟨h, rfl⟩]
    rfl

end X6losim
