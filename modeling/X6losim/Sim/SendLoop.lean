import X6losim.Lib.CInt
import X6losim.Sim.Sending

/-!
# The loop that sends a message

`Socket::sendMsg` keeps a pointer into the message, the number of bytes that are left, and the
number of those that have been sent.  The three stay in step, so the loop ends, and comes to what is
written and returned for the rest of the message at every turn.  What is logged of a failure is left
out.
-/

open Bytes CInt

namespace X6losim

/-- The variables of `Socket::sendMsg`, the pointer `m` by its offset in the message, and the bytes
that the socket has accepted. -/
structure SendVars where
  m : Nat
  left : Int
  bytesSent : Int
  accepted : List UInt8
deriving DecidableEq, Repr

/-- What `send` returns when it is offered some bytes. -/
def SendOutcome.rv (left : Int) : SendOutcome → Int
  | failed => -1
  | accepted more => min (more + 1) left

/-- The body of the loop of `Socket::sendMsg`: it returns, or goes on with the variables. -/
def sendMsgTurn (msg : List UInt8) (outcome : SendOutcome) (v : SendVars) :
    Except Stop (Option Int × SendVars) := do
  let offered ← Bytes.read .outOfBounds msg v.m v.left.toNat
  let n := outcome.rv v.left
  if n < 0 then return (some (convert 32 n), v)
  else
    return (none, {
      m := v.m + n.toNat
      left := convert 32 (v.left - n)
      bytesSent := convert 32 (v.bytesSent + n)
      accepted := v.accepted ++ offered.take n.toNat })

/-- The loop of `Socket::sendMsg` from the `k`-th call of `send`, for as many turns as there is fuel
for. -/
def sendMsgTurns (msg : List UInt8) (outcome : Nat → SendOutcome) :
    Nat → Nat → SendVars → Except Stop (Option SendResult)
  | 0, _, _ => return none
  | fuel + 1, k, v => do
      match ← sendMsgTurn msg (outcome k) v with
      | (some rv, v) => return some ⟨v.accepted, rv, k + 1⟩
      | (none, v) =>
          if 0 < v.left then sendMsgTurns msg outcome fuel (k + 1) v
          else return some ⟨v.accepted, v.bytesSent, k + 1⟩

/-- `Socket::sendMsg` for a message and its length, if its loop ends with the fuel there is. -/
def socketSendMsg (outcome : Nat → SendOutcome) (k fuel : Nat) (msg : List UInt8) (msglen : Int) :
    Except Stop (Option SendResult) :=
  sendMsgTurns msg outcome fuel k ⟨0, msglen, 0, []⟩

/-- The variables when a number of bytes of a message has been sent. -/
def SendVars.after (msg : List UInt8) (sent : Nat) : SendVars where
  m := sent
  left := (msg.length - sent : Int)
  bytesSent := sent
  accepted := msg.take sent

variable {msg : List UInt8} {sent more k fuel : Nat} {outcome : Nat → SendOutcome}

/-! ### A turn -/

/-- The bytes that are offered to `send` are the rest of the message. -/
theorem read_after (hsent : sent ≤ msg.length) :
  Bytes.read Stop.outOfBounds msg sent (msg.length - sent : Int).toNat = .ok (msg.drop sent)
  := by
  have hlength : (msg.length - sent : Int).toNat = (msg.drop sent).length := by
    rw [List.length_drop]
    omega
  have hfits : sent + (msg.drop sent).length ≤ msg.length := by
    rw [List.length_drop]
    omega
  rw [hlength, Bytes.read_ok _ hfits, List.take_length]

theorem sendMsgTurn_failed (hsent : sent ≤ msg.length) :
  sendMsgTurn msg .failed (.after msg sent) = .ok (some (-1), .after msg sent)
  := by
  simp only [sendMsgTurn, SendVars.after, read_after hsent]
  rfl

/-- A call of `send` that does not fail keeps the variables in step. -/
theorem sendMsgTurn_accepted {n : Nat} (hint : CInt.Fits 32 msg.length)
    (hle : sent + n ≤ msg.length) (hn : (SendOutcome.accepted more).rv (msg.length - sent) = n) :
  sendMsgTurn msg (.accepted more) (.after msg sent) = .ok (none, .after msg (sent + n))
  := by
  rw [fits_32] at hint
  have hleft : convert 32 (msg.length - sent - n) = msg.length - (sent + n : Nat) := by
    rw [convert_of_fits (by rw [fits_32]; omega)]
    omega
  have hbytesSent : convert 32 (sent + n) = (sent + n : Nat) := by
    rw [convert_of_fits (by rw [fits_32]; omega)]
    omega
  have hnonneg : ¬ (n : Int) < 0 := not_lt_of_ge (Int.natCast_nonneg n)
  have haccepted : msg.take sent ++ (msg.drop sent).take n = msg.take (sent + n) :=
    List.take_add.symm
  have hread := read_after (le_trans (Nat.le_add_right sent n) hle)
  simp only [sendMsgTurn, SendVars.after, hread, bind, Except.bind, hn, if_neg hnonneg, hleft,
    hbytesSent, Int.toNat_natCast, haccepted]
  rfl

/-! ### The loop -/

variable {v v' : SendVars}

theorem sendMsgTurns_returns {rv : Int} (h : sendMsgTurn msg (outcome k) v = .ok (some rv, v')) :
  sendMsgTurns msg outcome (fuel + 1) k v = .ok (some ⟨v'.accepted, rv, k + 1⟩)
  := by
  rw [sendMsgTurns, h]
  rfl

theorem sendMsgTurns_goesOn (h : sendMsgTurn msg (outcome k) v = .ok (none, v'))
    (hleft : 0 < v'.left) :
  sendMsgTurns msg outcome (fuel + 1) k v = sendMsgTurns msg outcome fuel (k + 1) v'
  := by
  rw [sendMsgTurns, h]
  apply if_pos hleft

theorem sendMsgTurns_ends (h : sendMsgTurn msg (outcome k) v = .ok (none, v'))
    (hleft : v'.left ≤ 0) :
  sendMsgTurns msg outcome (fuel + 1) k v = .ok (some ⟨v'.accepted, v'.bytesSent, k + 1⟩)
  := by
  rw [sendMsgTurns, h]
  apply if_neg (not_lt_of_ge hleft)

/-- What is written and returned for the rest of a message, with what has been written before. -/
def SendResult.behind (r : SendResult) (written : List UInt8) : SendResult :=
  { r with written := written ++ r.written }

/-- From every turn the loop ends with what is written and returned for the rest of the message. -/
theorem sendMsgTurns_eq (hint : CInt.Fits 32 msg.length) (hsent : sent < msg.length)
    (hfuel : msg.length ≤ sent + fuel) :
  sendMsgTurns msg outcome fuel k (.after msg sent) =
    .ok (some ((sendLoop outcome k (msg.drop sent) sent).behind (msg.take sent)))
  := by
  induction fuel generalizing sent k with
  | zero => omega
  | succ fuel ih =>
      have hlength : (msg.drop sent).length = msg.length - sent := List.length_drop
      cases houtcome : outcome k with
      | failed =>
          have hturn := sendMsgTurn_failed (le_of_lt hsent)
          rw [← houtcome] at hturn
          rw [sendMsgTurns_returns hturn, sendLoop_failed houtcome]
          simp only [SendVars.after, SendResult.behind, List.append_nil]
      | accepted more =>
          by_cases hmore : more + 1 < (msg.drop sent).length
          · have hn : (SendOutcome.accepted more).rv (msg.length - sent) = (more + 1 : Nat) := by
              rw [SendOutcome.rv]
              omega
            have hturn := sendMsgTurn_accepted hint (by omega) hn
            rw [← houtcome] at hturn
            have hleft : 0 < (SendVars.after msg (sent + (more + 1))).left := by
              simp only [SendVars.after]
              omega
            rw [sendMsgTurns_goesOn hturn hleft, ih (by omega) (by omega),
              sendLoop_part houtcome hmore, List.drop_drop, List.take_add]
            simp only [SendResult.behind, List.append_assoc]
          · have hn : (SendOutcome.accepted more).rv (msg.length - sent)
                = (msg.length - sent : Nat) := by
              rw [SendOutcome.rv]
              omega
            have hturn := sendMsgTurn_accepted hint (by omega) hn
            rw [← houtcome, Nat.add_sub_cancel' (le_of_lt hsent)] at hturn
            have hleft : (SendVars.after msg msg.length).left ≤ 0 := by
              simp only [SendVars.after]
              omega
            have hsum : (sent : Int) + (msg.length - sent : Nat) = msg.length := by omega
            rw [sendMsgTurns_ends hturn hleft, sendLoop_rest houtcome (le_of_not_gt hmore)]
            simp only [SendVars.after, SendResult.behind, List.take_length,
              List.take_append_drop, hlength, hsum]

/-- `Socket::sendMsg` comes to what is written and returned for the message. -/
theorem socketSendMsg_eq (hint : CInt.Fits 32 msg.length) (hpos : 1 ≤ msg.length)
    (hfuel : msg.length ≤ fuel) :
  socketSendMsg outcome k fuel msg msg.length = .ok (some (sendMsg outcome k msg))
  := by
  have hstart : SendVars.after msg 0 = ⟨0, msg.length, 0, []⟩ := by simp [SendVars.after]
  rw [socketSendMsg, ← hstart, sendMsgTurns_eq hint hpos (by omega)]
  simp only [SendResult.behind, List.drop_zero, List.take_zero, List.nil_append, sendMsg]

/-! ### What the calls of `send` accept -/

/-- The number of bytes that calls of `send` accept, from the `k`-th on, before one fails. -/
def acceptedBy (outcome : Nat → SendOutcome) (k : Nat) : Nat → Nat
  | 0 => 0
  | calls + 1 =>
      match outcome k with
      | .failed => 0
      | .accepted more => more + 1 + acceptedBy outcome (k + 1) calls

/-- What has been written when the loop ends is what the calls of `send` have accepted.  Each takes
a byte at least, so there are no more of them than bytes. -/
theorem sendLoop_written {calls : Nat} (hm : msg ≠ []) (hcalls : msg.length ≤ calls)
    (bytesSent : Nat) :
  (sendLoop outcome k msg bytesSent).written = msg.take (acceptedBy outcome k calls)
  := by
  induction calls generalizing msg k bytesSent with
  | zero =>
      have hpos := List.length_pos_of_ne_nil hm
      omega
  | succ calls ih =>
      cases houtcome : outcome k with
      | failed =>
          rw [sendLoop_failed houtcome, acceptedBy, houtcome]
          rfl
      | accepted more =>
          simp only [acceptedBy, houtcome]
          by_cases hmore : more + 1 < msg.length
          · have hrest : msg.drop (more + 1) ≠ [] := by
              rw [ne_eq, List.drop_eq_nil_iff, not_le]
              apply hmore
            have hshorter : (msg.drop (more + 1)).length ≤ calls := by
              rw [List.length_drop]
              omega
            have hsplit : msg.take (more + 1 + acceptedBy outcome (k + 1) calls)
                = msg.take (more + 1) ++
                  (msg.drop (more + 1)).take (acceptedBy outcome (k + 1) calls) := List.take_add
            rw [sendLoop_part houtcome hmore, hsplit]
            simp only [ih hrest hshorter]
          · rw [sendLoop_rest houtcome (le_of_not_gt hmore), List.take_of_length_le (by omega)]

/-- `Socket::sendMsg` ends, and returns the length of the message exactly when no call of `send` for
it fails, which is when the whole message has been accepted.  Otherwise it returns -1, and a
beginning of the message that is not the whole of it has been accepted. -/
theorem socketSendMsg_accepted (outcome : Nat → SendOutcome) (k : Nat)
    (hint : CInt.Fits 32 msg.length) (hpos : 1 ≤ msg.length) :
  ∃ r, (∀ fuel, msg.length ≤ fuel →
      socketSendMsg outcome k fuel msg msg.length = .ok (some r)) ∧
    r.written = msg.take (acceptedBy outcome k msg.length) ∧
    (r.rv = msg.length ↔ ¬ Fails outcome k msg) ∧ (r.rv = msg.length ↔ r.written = msg) ∧
    (r.written ≠ msg → r.rv = -1 ∧ r.written <+: msg)
  := by
  use sendMsg outcome k msg
  have hne : msg ≠ [] := List.ne_nil_of_length_pos hpos
  refine ⟨fun fuel hfuel => socketSendMsg_eq hint hpos hfuel,
    sendLoop_written hne (le_refl _) 0, ?_⟩
  rcases @sendLoop_cases outcome k msg hne 0 with
    ⟨hnone, hwritten, hrv⟩ | ⟨hfails, hwritten, hle, -, hrv⟩
  · rw [Nat.zero_add] at hrv
    exact ⟨⟨fun _ => hnone, fun _ => hrv⟩, ⟨fun _ => hwritten, fun _ => hrv⟩,
      fun hnot => absurd hwritten hnot⟩
  · have hneg : (sendMsg outcome k msg).rv = -1 := hrv
    have hshort : (sendMsg outcome k msg).rv ≠ msg.length := by omega
    exact ⟨⟨fun hlength => absurd hlength hshort, fun hnot => absurd hfails hnot⟩,
      ⟨fun hlength => absurd hlength hshort, fun hwhole => absurd hwhole hwritten⟩,
      fun _ => ⟨hneg, hle⟩⟩

/-- Three bytes, of which one call of `send` takes one, and the next fails: `Socket::sendMsg`
returns -1, and the first byte has been accepted. -/
theorem socketSendMsg_accepted_three :
  ∃ r, (∀ fuel, 3 ≤ fuel → socketSendMsg (fun j => if j = 0 then .accepted 0 else .failed) 0 fuel
      [1, 2, 3] 3 = .ok (some r)) ∧ r.written = [1] ∧ r.rv = -1
  := by
  obtain ⟨r, hends, hwritten, -, -, hbroken⟩ := @socketSendMsg_accepted [1, 2, 3]
    (fun j => if j = 0 then .accepted 0 else .failed) 0 (by decide) (by decide)
  have hone : r.written = [1] := hwritten
  have hpart : r.written ≠ [1, 2, 3] := by
    rw [hone]
    decide
  exact ⟨r, hends, hone, (hbroken hpart).1⟩

end X6losim
