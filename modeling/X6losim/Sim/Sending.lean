import X6losim.Lib.Writes
import X6losim.Sim.Effect
import X6losim.Wire.Checksum

/-!
# Sending messages

`Socket::sendMsg` and the messages that the functions `DeviceNode::send*` build for it.  What the
calls of `send` on the sockets of nodes come to is given: each fails, or accepts a byte at least.
-/

open Bytes Writes

namespace X6losim

variable {host : ByteOrder} {nodeId : UInt64} {msg : OutMsg}

/-! ### The messages -/

/-- The bytes of a field that the host stores in network order. -/
def Field.net (f : Field) (host : ByteOrder) (n : Nat) : List UInt8 :=
  host.store f.size (host.hton f.size n)

/-- The type of a message to a node. -/
def OutMsg.msgType : OutMsg → MsgType
  | .regReq => .regReq
  | .deregCon => .deregCon
  | .ccaCon _ => .ccaCon
  | .txDoneInd _ => .txDoneInd

/-- What comes after the header of a message. -/
def OutMsg.body : OutMsg → List UInt8
  | .regReq => []
  | .deregCon => []
  | .ccaCon result => [if result then 1 else 0]
  | .txDoneInd result => [UInt8.ofInt result]

/-- The message that `sendRegistrationRequest`, `sendDeregistrationConfirm`, `sendCcaConfirm` or
`sendTxDoneIndication` builds. -/
def OutMsg.bytes (host : ByteOrder) (nodeId : UInt64) (msg : OutMsg) : List UInt8 :=
  let fields := Hdr.len.net host (Hdr.size + msg.body.length) ++
    Hdr.msgType.net host msg.msgType.code ++
    Hdr.interfaceVersion.net host netsimInterfaceVersion ++ Hdr.nodeId.net host nodeId.toNat
  let cksum := generateChecksum host (fields ++ List.replicate Hdr.cksum.size 0 ++ msg.body)
  fields ++ Hdr.cksum.net host cksum ++ msg.body

theorem Field.length_net (f : Field) (host : ByteOrder) (n : Nat) :
  (f.net host n).length = f.size
  := ByteOrder.length_store ..

theorem OutMsg.length_bytes :
  (msg.bytes host nodeId).length = Hdr.size + msg.body.length
  := by
  simp [OutMsg.bytes, Field.length_net, Hdr.len, Hdr.msgType, Hdr.interfaceVersion, Hdr.nodeId,
    Hdr.cksum, Hdr.size]
  omega

/-- The length word of a message is its length. -/
theorem OutMsg.take_bytes :
  (msg.bytes host nodeId).take 2 = toBE 2 (Hdr.size + msg.body.length)
  := by
  have hword : Hdr.len.net host (Hdr.size + msg.body.length)
      = toBE 2 (Hdr.size + msg.body.length) := ByteOrder.store_hton ..
  simp only [OutMsg.bytes, List.append_assoc, hword]
  apply List.take_left' (length_toBE ..)

theorem OutMsg.length_body_le (msg : OutMsg) :
  msg.body.length ≤ 1
  := by
  cases msg <;> simp [OutMsg.body]

/-- The first byte of a message is zero: no message is as long as 256 bytes. -/
theorem OutMsg.take_one :
  (msg.bytes host nodeId).take 1 = [0]
  := by
  have htake : (msg.bytes host nodeId).take 1 = ((msg.bytes host nodeId).take 2).take 1 := by
    rw [List.take_take]
    rfl
  have hbody := msg.length_body_le
  rw [htake, OutMsg.take_bytes]
  obtain hlength | hlength : msg.body.length = 0 ∨ msg.body.length = 1 := by omega
  · rw [hlength]
    decide
  · rw [hlength]
    decide

/-- The messages to a node tell their length in their first two bytes. -/
theorem selfDelimiting_bytes (host : ByteOrder) (nodeId : UInt64) :
  SelfDelimiting 2 (Set.range (OutMsg.bytes host nodeId))
  where
  size := by
    rintro _ ⟨msg, rfl⟩
    rw [OutMsg.length_bytes]
    apply le_trans (by decide) (Nat.le_add_right _ _)
  length := by
    rintro _ ⟨msg, rfl⟩ _ ⟨msg', rfl⟩ htake
    rw [OutMsg.take_bytes, OutMsg.take_bytes] at htake
    have hvalue := congrArg ofBE htake
    rw [ofBE_toBE, ofBE_toBE] at hvalue
    have hbody := msg.length_body_le
    have hbody' := msg'.length_body_le
    have hsize : Hdr.size = 18 := rfl
    rw [OutMsg.length_bytes, OutMsg.length_bytes]
    omega

/-! ### `sendMsg` -/

/-- What a call of `send` comes to: it fails, or accepts a byte and as many more as are offered, up
to a number. -/
inductive SendOutcome where
  | failed
  | accepted (more : Nat)
deriving DecidableEq, Repr

/-- What `sendMsg` comes to: the bytes accepted, what it returns, and the number of the call of
`send` that will be the next. -/
structure SendResult where
  written : List UInt8
  rv : Int
  next : Nat
deriving DecidableEq, Repr

/-- The loop of `Socket::sendMsg` from the `k`-th call of `send`, for what is left of a message. -/
def sendLoop (outcome : Nat → SendOutcome) (k : Nat) (m : List UInt8) (bytesSent : Nat) :
    SendResult :=
  match outcome k with
  | .failed => ⟨[], -1, k + 1⟩
  | .accepted more =>
      if more + 1 < m.length then
        let rest := sendLoop outcome (k + 1) (m.drop (more + 1)) (bytesSent + (more + 1))
        { rest with written := m.take (more + 1) ++ rest.written }
      else ⟨m, bytesSent + m.length, k + 1⟩
termination_by m.length
decreasing_by
  rw [List.length_drop]
  omega

/-- `Socket::sendMsg`. -/
def sendMsg (outcome : Nat → SendOutcome) (k : Nat) (msg : List UInt8) : SendResult :=
  sendLoop outcome k msg 0

/-- One of the calls of `send` that are made for a message fails. -/
inductive Fails (outcome : Nat → SendOutcome) : Nat → List UInt8 → Prop where
  | failed {k : Nat} {m : List UInt8} : outcome k = .failed → Fails outcome k m
  | later {k more : Nat} {m : List UInt8} : outcome k = .accepted more → more + 1 < m.length →
      Fails outcome (k + 1) (m.drop (more + 1)) → Fails outcome k m

variable {outcome : Nat → SendOutcome} {k : Nat} {m : List UInt8}

theorem sendLoop_failed (h : outcome k = .failed) (bytesSent : Nat) :
  sendLoop outcome k m bytesSent = ⟨[], -1, k + 1⟩
  := by
  rw [sendLoop, h]

theorem sendLoop_part {more : Nat} (h : outcome k = .accepted more) (hmore : more + 1 < m.length)
    (bytesSent : Nat) :
  sendLoop outcome k m bytesSent =
    let rest := sendLoop outcome (k + 1) (m.drop (more + 1)) (bytesSent + (more + 1))
    { rest with written := m.take (more + 1) ++ rest.written }
  := by
  rw [sendLoop, h]
  simp only [if_pos hmore]

theorem sendLoop_rest {more : Nat} (h : outcome k = .accepted more) (hmore : m.length ≤ more + 1)
    (bytesSent : Nat) :
  sendLoop outcome k m bytesSent = ⟨m, bytesSent + m.length, k + 1⟩
  := by
  rw [sendLoop, h]
  simp only [if_neg (not_lt_of_ge hmore)]

/-- The loop writes the message and returns its length, unless a call of `send` fails: then it
returns -1 and has written a beginning of the message, which is empty exactly when the first of
its calls has failed. -/
theorem sendLoop_cases (hm : m ≠ []) (bytesSent : Nat) :
  (¬ Fails outcome k m ∧ (sendLoop outcome k m bytesSent).written = m ∧
    (sendLoop outcome k m bytesSent).rv = (bytesSent + m.length : Nat)) ∨
  (Fails outcome k m ∧ (sendLoop outcome k m bytesSent).written ≠ m ∧
    (sendLoop outcome k m bytesSent).written <+: m ∧
    ((sendLoop outcome k m bytesSent).written = [] ↔ outcome k = .failed) ∧
    (sendLoop outcome k m bytesSent).rv = -1)
  := by
  induction hlength : m.length using Nat.strong_induction_on generalizing m k bytesSent with
  | _ l ih =>
      cases houtcome : outcome k with
      | failed =>
          right
          rw [sendLoop_failed houtcome]
          exact ⟨.failed houtcome, hm.symm, List.nil_prefix, by simp, rfl⟩
      | accepted more =>
          by_cases hmore : more + 1 < m.length
          · have hrest : m.drop (more + 1) ≠ [] := by
              rw [ne_eq, List.drop_eq_nil_iff, not_le]
              apply hmore
            have hshorter : (m.drop (more + 1)).length < l := by
              rw [List.length_drop]
              omega
            have htake : m.take (more + 1) ≠ [] := by
              rw [ne_eq, List.take_eq_nil_iff]
              simp [hm]
            rw [sendLoop_part houtcome hmore]
            rcases ih _ hshorter hrest (k := k + 1) (bytesSent + (more + 1)) rfl with
              ⟨hfails, hwritten, hrv⟩ | ⟨hfails, hwritten, hle, -, hrv⟩
            · left
              refine ⟨?_, ?_, ?_⟩
              · rintro (hfailed | ⟨hmore', -, hlater⟩)
                · rw [houtcome] at hfailed
                  cases hfailed
                · rw [houtcome] at hmore'
                  cases hmore'
                  apply hfails hlater
              · simp only [hwritten, List.take_append_drop]
              · simp only [hrv, List.length_drop]
                congr 1
                omega
            · right
              refine ⟨.later houtcome hmore hfails, ?_, ?_, ?_, hrv⟩
              · intro heq
                apply hwritten
                apply (List.append_right_inj (m.take (more + 1))).mp
                rw [List.take_append_drop]
                apply heq
              · obtain ⟨t, ht⟩ := hle
                use t
                simp only [List.append_assoc, ht, List.take_append_drop]
              · simp [htake]
          · left
            rw [sendLoop_rest houtcome (le_of_not_gt hmore)]
            refine ⟨?_, rfl, by simp [hlength]⟩
            rintro (hfailed | ⟨hmore', hlt, -⟩)
            · rw [houtcome] at hfailed
              cases hfailed
            · rw [houtcome] at hmore'
              cases hmore'
              apply hmore hlt

/-! ### The messages to a node -/

/-- A message to a node is not empty. -/
theorem OutMsg.bytes_ne_nil (host : ByteOrder) (nodeId : UInt64) (msg : OutMsg) :
  msg.bytes host nodeId ≠ []
  := by
  intro hnil
  have hlength : (msg.bytes host nodeId).length = Hdr.size + msg.body.length := OutMsg.length_bytes
  rw [hnil, List.length_nil, Hdr.size] at hlength
  omega

/-- What `sendMsg` does with a message to a node. -/
theorem OutMsg.sendMsg_cases (host : ByteOrder) (nodeId : UInt64) (outcome : Nat → SendOutcome)
    (k : Nat) (msg : OutMsg) :
  (¬ Fails outcome k (msg.bytes host nodeId) ∧
    (sendMsg outcome k (msg.bytes host nodeId)).written = msg.bytes host nodeId ∧
    (sendMsg outcome k (msg.bytes host nodeId)).rv = (Hdr.size + msg.body.length : Nat)) ∨
  (Fails outcome k (msg.bytes host nodeId) ∧
    (sendMsg outcome k (msg.bytes host nodeId)).written ≠ msg.bytes host nodeId ∧
    (sendMsg outcome k (msg.bytes host nodeId)).written <+: msg.bytes host nodeId ∧
    ((sendMsg outcome k (msg.bytes host nodeId)).written = [] ↔ outcome k = .failed) ∧
    (sendMsg outcome k (msg.bytes host nodeId)).rv = -1)
  := by
  have hcases := @sendLoop_cases outcome k _ (msg.bytes_ne_nil host nodeId) 0
  rw [OutMsg.length_bytes, Nat.zero_add] at hcases
  apply hcases

/-- What `sendMsg` writes is the beginning of the message. -/
theorem OutMsg.written_le (host : ByteOrder) (nodeId : UInt64) (outcome : Nat → SendOutcome)
    (k : Nat) (msg : OutMsg) :
  (sendMsg outcome k (msg.bytes host nodeId)).written <+: msg.bytes host nodeId
  := by
  rcases msg.sendMsg_cases host nodeId outcome k with ⟨-, hwritten, -⟩ | ⟨-, -, hle, -⟩
  · rw [hwritten]
  · apply hle

/-- A message to a node, and what of it is written from the `k`-th call of `send` on. -/
def OutMsg.write (host : ByteOrder) (nodeId : UInt64) (outcome : Nat → SendOutcome) (k : Nat)
    (msg : OutMsg) : Write UInt8 where
  message := msg.bytes host nodeId
  written := (sendMsg outcome k (msg.bytes host nodeId)).written
  le := OutMsg.written_le host nodeId outcome k msg

/-- Messages sent one after the other, each with the number of the first call of `send` for it. -/
def sends (host : ByteOrder) (nodeId : UInt64) (outcome : Nat → SendOutcome) :
    Nat → List OutMsg → List (Nat × OutMsg)
  | _, [] => []
  | k, msg :: msgs =>
      (k, msg) :: sends host nodeId outcome (sendMsg outcome k (msg.bytes host nodeId)).next msgs

/-- The number of the first call of `send` after some messages. -/
def nextCall (host : ByteOrder) (nodeId : UInt64) (outcome : Nat → SendOutcome) :
    Nat → List OutMsg → Nat
  | k, [] => k
  | k, msg :: msgs =>
      nextCall host nodeId outcome (sendMsg outcome k (msg.bytes host nodeId)).next msgs

/-- Nothing is written exactly when the first call of `send` fails. -/
theorem OutMsg.write_eq_nil_iff :
  (msg.write host nodeId outcome k).written = [] ↔ outcome k = .failed
  := by
  have hne := msg.bytes_ne_nil host nodeId
  rcases msg.sendMsg_cases host nodeId outcome k with ⟨hfails, hwritten, -⟩ | ⟨-, -, -, hiff, -⟩
  · have hnone : (msg.write host nodeId outcome k).written = msg.bytes host nodeId := hwritten
    constructor
    · intro hnil
      rw [hnone] at hnil
      apply absurd hnil hne
    · intro hfailed
      apply absurd (Fails.failed hfailed) hfails
  · apply hiff

/-- A message is broken exactly when its first call of `send` does not fail, and a later one
does. -/
theorem OutMsg.write_broken_iff :
  (msg.write host nodeId outcome k).Broken ↔
    outcome k ≠ .failed ∧ Fails outcome k (msg.bytes host nodeId)
  := by
  rw [Write.Broken, ne_eq, OutMsg.write_eq_nil_iff, and_congr_right_iff]
  intro _
  rcases msg.sendMsg_cases host nodeId outcome k with
    ⟨hfails, hwritten, -⟩ | ⟨hfails, hwritten, -⟩
  · constructor
    · intro hne
      apply absurd hwritten hne
    · intro hfails'
      apply absurd hfails' hfails
  · constructor
    · intro _
      apply hfails
    · intro _
      apply hwritten

/-- `sendMsg` returns the length of the message exactly when no call of `send` for it fails. -/
theorem OutMsg.rv_eq_iff :
  (sendMsg outcome k (msg.bytes host nodeId)).rv = ((Hdr.size + msg.body.length : Nat) : Int) ↔
    ¬ Fails outcome k (msg.bytes host nodeId)
  := by
  rcases msg.sendMsg_cases host nodeId outcome k with ⟨hfails, -, hrv⟩ | ⟨hfails, -, -, -, hrv⟩
  · rw [hrv]
    simp [hfails]
  · rw [hrv]
    simp only [hfails, not_true_eq_false, iff_false]
    omega

/-! ### Messages sent whole -/

theorem not_fails (h : ∀ j, outcome j ≠ .failed) :
  ¬ Fails outcome k m
  := by
  intro hfails
  induction hfails with
  | failed hfailed => apply h _ hfailed
  | later _ _ _ ih => apply ih

/-- When no call of `send` fails, every message is written whole. -/
theorem sends_written (h : ∀ j, outcome j ≠ .failed) (msgs : List OutMsg) :
  (sends host nodeId outcome k msgs).map (fun c => (c.2.write host nodeId outcome c.1).written)
    = msgs.map (OutMsg.bytes host nodeId)
  := by
  induction msgs generalizing k with
  | nil => rfl
  | cons msg msgs ih =>
      have hwritten : (msg.write host nodeId outcome k).written = msg.bytes host nodeId := by
        rcases msg.sendMsg_cases host nodeId outcome k with ⟨-, hwhole, -⟩ | ⟨hfails, -⟩
        · apply hwhole
        · apply absurd hfails (not_fails h)
      rw [sends, List.map_cons, List.map_cons, ih, hwritten]

/-- A message of which the first call of `send` accepts as much as the longest one has. -/
theorem OutMsg.sendMsg_whole (host : ByteOrder) (nodeId : UInt64) (msg : OutMsg)
    (h : outcome k = .accepted Hdr.size) :
  sendMsg outcome k (msg.bytes host nodeId)
    = ⟨msg.bytes host nodeId, (Hdr.size + msg.body.length : Nat), k + 1⟩
  := by
  have hlength : (msg.bytes host nodeId).length ≤ Hdr.size + 1 := by
    rw [OutMsg.length_bytes]
    apply Nat.add_le_add_left msg.length_body_le
  rw [sendMsg, sendLoop_rest h hlength, OutMsg.length_bytes, Nat.cast_zero, zero_add]

theorem sends_append (host : ByteOrder) (nodeId : UInt64) (outcome : Nat → SendOutcome) (k : Nat)
    (msgs msgs' : List OutMsg) :
  sends host nodeId outcome k (msgs ++ msgs') = sends host nodeId outcome k msgs ++
    sends host nodeId outcome (nextCall host nodeId outcome k msgs) msgs'
  := by
  induction msgs generalizing k with
  | nil => rfl
  | cons msg msgs ih => simp only [List.cons_append, sends, nextCall, ih]

/-- When one call of `send` is enough for every message, each is written whole. -/
theorem sends_whole {msgs : List OutMsg} (nodeId : UInt64)
    (h : ∀ j, k ≤ j → j < k + msgs.length → outcome j = .accepted Hdr.size) :
  nextCall host nodeId outcome k msgs = k + msgs.length ∧
    (sends host nodeId outcome k msgs).map (fun c => (c.2.write host nodeId outcome c.1).written)
      = msgs.map (OutMsg.bytes host nodeId)
  := by
  induction msgs generalizing k with
  | nil => exact ⟨rfl, rfl⟩
  | cons msg msgs ih =>
      have hfirst : outcome k = .accepted Hdr.size := h k (le_refl k) (by simp)
      obtain ⟨hnext, hwritten⟩ := ih (k := k + 1) (by
        intro j hle hlt
        apply h j (by omega)
        rw [List.length_cons]
        omega)
      have hwhole := msg.sendMsg_whole host nodeId hfirst
      constructor
      · rw [nextCall, hwhole, hnext, List.length_cons]
        omega
      · rw [sends, hwhole, List.map_cons, hwritten, List.map_cons, OutMsg.write]
        simp only [hwhole]

end X6losim
