import X6losim.Lib.CInt
import X6losim.Lib.Exec
import X6losim.Stop

/-!
# Receiving a reply

`Socket::recvReply` waits with `select` for a reply or for the unblocker, and its status is to tell
which of them came.  What the calls of `select` and `recv` come to is given.
-/

open CInt

namespace X6losim

/-- `SocketReadStatus`. -/
inductive SocketReadStatus where
  | connClosed
  | unblocked
  | ok
  | timeout
  | error
deriving DecidableEq, Repr

/-- What a call of `select` comes to: it fails, or a signal interrupts it, or it tells which of the
descriptors are ready, none of them when the time is over. -/
inductive SelectOutcome where
  | failed
  | interrupted
  | ready (socket unblocker : Bool)
deriving DecidableEq, Repr

/-- What a call of `recv` comes to: it fails, or stores bytes, none when the connection is
closed. -/
inductive RecvOutcome where
  | failed
  | received (bytes : List UInt8)
deriving DecidableEq, Repr

/-- What the calls made for a reply come to: only descriptors that are waited for are ready, and no
more is stored than there is room for. -/
structure ReplyCalls (unblocker : Option Int) (replyMsgLen : Nat) where
  select : Nat → SelectOutcome
  recv : RecvOutcome
  waited : ∀ k socket, select k = .ready socket true → unblocker ≠ none
  room : ∀ bytes, recv = .received bytes → bytes.length ≤ replyMsgLen

/-- `struct timeval`. -/
structure Timeval where
  tvSec : Int
  tvUsec : Int
deriving DecidableEq, Repr

/-- What there is of a reply: the calls of `select` so far, each with the time it waits at most, and
what the pointers `bytesReadOut` and `replyMsgBuf` point to. -/
structure Reply where
  selects : List (Option Timeval × SelectOutcome) := []
  bytesReadOut : Option Int
  replyMsgBuf : List UInt8
deriving DecidableEq, Repr

/-- The number of descriptors there is room for in a set. -/
def fdSetsize : Int := 1024

/-- `Socket::setupReadFdSet` for the read pipe of an unblocker. -/
def setupReadFdSet (fd : Int) (unblocker : Option Int) : Except Stop Int :=
  if fd < 0 then .error (.exception "Invalid Socket")
  else if fdSetsize ≤ fd then .error .outOfBounds
  else match unblocker with
    | none => .ok fd
    | some pipe =>
        if pipe < 0 then .error (.exception "Invalid Unblocker")
        else if fdSetsize ≤ pipe then .error .outOfBounds
        else .ok (if fd < pipe then pipe else fd)

/-- The time `recvReply` lets `select` wait at most, if there is a limit. -/
def recvTimeout (msTimeout : Int) : Except Stop (Option Timeval) :=
  if msTimeout = 0 then .ok none
  else match signed 32 (msTimeout * 1000) with
    | none => .error .overflow
    | some usec => .ok (some ⟨msTimeout.tdiv 1000, usec.tmod 1000000⟩)

variable {unblocker : Option Int} {replyMsgLen : Nat}

/-- The next call of `select`. -/
def selectReply (calls : ReplyCalls unblocker replyMsgLen) (timeout : Option Timeval) :
    EStateM Stop Reply SelectOutcome := do
  let outcome := calls.select (← get).selects.length
  modify fun t => { t with selects := t.selects ++ [(timeout, outcome)] }
  return outcome

/-- `recvReply` when the socket is ready. -/
def recvSocket (calls : ReplyCalls unblocker replyMsgLen) :
    EStateM Stop Reply SocketReadStatus := do
  match calls.recv with
  | .failed => modify fun t => { t with bytesReadOut := some (-1) }
  | .received bytes =>
      modify fun t => { t with
        bytesReadOut := some bytes.length
        replyMsgBuf := bytes ++ t.replyMsgBuf.drop bytes.length }
  let count := (← get).bytesReadOut.getD 0
  if (replyMsgLen : Int) ≤ count then throw (.assertion .recvReply)
  return if 0 < count then .ok else if count = 0 then .connClosed else .error

/-- `recvReply` when `select` returns descriptors that are ready. -/
def recvReady (calls : ReplyCalls unblocker replyMsgLen) (socket pipe : Bool) :
    EStateM Stop Reply SocketReadStatus := do
  let rv ← if socket then recvSocket calls else pure .ok
  let unblocked := unblocker.isSome && pipe
  let rv := if unblocked then .unblocked else rv
  let count : Int := socket.toNat + pipe.toNat - socket.toNat - unblocked.toNat
  return if count ≠ 0 ∧ rv = .ok then .error else rv

/-- `recvReply` when `select` has been called. -/
def recvSelected (calls : ReplyCalls unblocker replyMsgLen) :
    SelectOutcome → EStateM Stop Reply SocketReadStatus
  -- The loop is left: `continue` goes to its condition, which is 0.
  | .interrupted => return .ok
  | .failed => return .error
  | .ready false false => return .timeout
  | .ready socket pipe => recvReady calls socket pipe

/-- `Socket::recvReply`. -/
def recvReply (calls : ReplyCalls unblocker replyMsgLen) (fd : Int) (msTimeout : Int) :
    EStateM Stop Reply SocketReadStatus := do
  if (← get).bytesReadOut = none then throw (.exception "recvReply given NULL bytesReadOut")
  let fdmax ← Exec.ofExcept (setupReadFdSet fd unblocker)
  if 0 < fdmax then
    let timeout ← Exec.ofExcept (recvTimeout msTimeout)
    let outcome ← selectReply calls timeout
    recvSelected calls outcome
  else return .error

/-! ### Telling the truth -/

/-- What the last call of `select` came to. -/
def Reply.last (t : Reply) : Option SelectOutcome := t.selects.getLast?.map Prod.snd

/-- A status tells what has happened: something was stored at the beginning of the buffer and
counted, or the connection was closed, the unblocker was ready, the time was over or a call
failed. -/
def Truthful (calls : ReplyCalls unblocker replyMsgLen) (buf : List UInt8) (t : Reply) :
    SocketReadStatus → Prop
  | .ok => ∃ pipe bytes, t.last = some (.ready true pipe) ∧ calls.recv = .received bytes ∧
      bytes ≠ [] ∧ t.bytesReadOut = some bytes.length ∧
      t.replyMsgBuf = bytes ++ buf.drop bytes.length
  | .connClosed => ∃ pipe, t.last = some (.ready true pipe) ∧ calls.recv = .received []
  | .unblocked => ∃ socket, t.last = some (.ready socket true)
  | .timeout => t.last = some (.ready false false)
  | .error => t.last = some .failed ∨
      ∃ pipe, t.last = some (.ready true pipe) ∧ calls.recv = .failed

/-- What `recvReply` comes to tells the truth: the status that is returned does, after an
interruption there was another call of `select`, and the only other end is an exception. -/
structure TellsTruth (calls : ReplyCalls unblocker replyMsgLen) (buf : List UInt8)
    (r : EStateM.Result Stop Reply SocketReadStatus) : Prop where
  truthful : ∀ status t, r = .ok status t → Truthful calls buf t status
  restarted : ∀ status t, r = .ok status t → ∀ k timeout,
    t.selects[k]? = some (timeout, .interrupted) → k + 1 < t.selects.length
  stops : ∀ e t, r = .error e t → ∃ text, e = .exception text

/-- What `recvReply` refuses with an exception. -/
def Refused (bytesReadOut : Option Int) (fd : Int) (unblocker : Option Int) : Prop :=
  bytesReadOut = none ∨ fd < 0 ∨ fd < fdSetsize ∧ ∃ pipe ∈ unblocker, pipe < 0

/-- The descriptors and the time can be waited for, the wait is not interrupted, and a reply does
not fill the buffer. -/
structure Undisturbed (calls : ReplyCalls unblocker replyMsgLen) (fd msTimeout : Int) : Prop where
  setsize : fd < fdSetsize ∧ ∀ pipe ∈ unblocker, pipe < fdSetsize
  positive : 0 < fd ∨ ∃ pipe ∈ unblocker, 0 < pipe
  timeout : CInt.Fits 32 (msTimeout * 1000)
  uninterrupted : calls.select 0 ≠ .interrupted
  unfilled : ∀ pipe bytes, calls.select 0 = .ready true pipe → calls.recv = .received bytes →
    bytes.length < replyMsgLen

variable {calls : ReplyCalls unblocker replyMsgLen} {fd msTimeout : Int} {t : Reply}
  {bytesReadOut : Option Int} {buf : List UInt8}

/-! ### The ready descriptors -/

/-- A reply that leaves room in the buffer is told as it is. -/
theorem recvSocket_truthful {pipe : Bool} (hlast : t.last = some (.ready true pipe))
    (hroom : ∀ bytes, calls.recv = .received bytes → bytes.length < replyMsgLen) :
  ∃ status t', recvSocket calls t = .ok status t' ∧ t'.selects = t.selects ∧
    Truthful calls t.replyMsgBuf t' status
  := by
  cases hrecv : calls.recv with
  | failed =>
      have hpass : ¬ (replyMsgLen : Int) ≤ -1 := by omega
      refine ⟨.error, { t with bytesReadOut := some (-1) }, ?_, rfl, Or.inr ⟨pipe, hlast, hrecv⟩⟩
      simp [recvSocket, hrecv, hpass]
  | received bytes =>
      have hpass : ¬ (replyMsgLen : Int) ≤ bytes.length := by
        have hlt := hroom bytes hrecv
        omega
      cases bytes with
      | nil =>
          refine ⟨.connClosed, { t with bytesReadOut := some 0 }, ?_, rfl, pipe, hlast, hrecv⟩
          simpa [recvSocket, hrecv] using hpass
      | cons b bytes =>
          refine ⟨.ok, { t with
              bytesReadOut := some (b :: bytes).length
              replyMsgBuf := b :: bytes ++ t.replyMsgBuf.drop (b :: bytes).length }, ?_, rfl,
            pipe, b :: bytes, hlast, hrecv, List.cons_ne_nil b bytes, rfl, rfl⟩
          have hpos : (0 : Int) < (b :: bytes).length := by
            rw [List.length_cons]
            omega
          simp only [recvSocket, hrecv, Exec.bind_apply, Exec.modify_apply, Exec.get_apply,
            Option.getD_some, if_neg hpass, if_pos hpos, Exec.pure_apply]

/-- At a reply that fills the buffer the assertion fails. -/
theorem recvSocket_full {bytes : List UInt8} (hrecv : calls.recv = .received bytes)
    (hfull : replyMsgLen ≤ bytes.length) :
  ∀ t, ∃ t', recvSocket calls t = .error (.assertion .recvReply) t'
  := by
  intro t
  have hstop : (replyMsgLen : Int) ≤ bytes.length := by omega
  simp [recvSocket, hrecv, hstop]

/-- What `select` returns that is ready is told as it is when a reply leaves room in the buffer. -/
theorem recvReady_truthful {socket pipe : Bool} (hlast : t.last = some (.ready socket pipe))
    (hsome : socket ∨ pipe) (hwaited : pipe → unblocker.isSome)
    (hroom : socket → ∀ bytes, calls.recv = .received bytes → bytes.length < replyMsgLen) :
  ∃ status t', recvReady calls socket pipe t = .ok status t' ∧ t'.selects = t.selects ∧
    Truthful calls t.replyMsgBuf t' status
  := by
  cases socket with
  | false =>
      obtain rfl : pipe = true := by simpa using hsome
      refine ⟨.unblocked, t, ?_, rfl, false, hlast⟩
      simp [recvReady, hwaited rfl]
  | true =>
      obtain ⟨status, t', hrecv, hselects, htruthful⟩ := recvSocket_truthful hlast (hroom rfl)
      cases pipe with
      | false =>
          refine ⟨status, t', ?_, hselects, htruthful⟩
          simp [recvReady, hrecv]
      | true =>
          have hlast' : t'.last = some (.ready true true) := by
            rw [Reply.last, hselects]
            apply hlast
          refine ⟨.unblocked, t', ?_, hselects, true, hlast'⟩
          simp [recvReady, hrecv, hwaited rfl]

theorem recvReady_full {pipe : Bool} {bytes : List UInt8} (hrecv : calls.recv = .received bytes)
    (hfull : replyMsgLen ≤ bytes.length) :
  ∀ t, ∃ t', recvReady calls true pipe t = .error (.assertion .recvReply) t'
  := by
  intro t
  obtain ⟨t', h⟩ := recvSocket_full hrecv hfull t
  use t'
  simp [recvReady, h]

/-! ### The wait -/

/-- `setupReadFdSet` refuses a descriptor that is negative, has no room for one that is too great,
and otherwise returns the greatest. -/
theorem setupReadFdSet_cases (fd : Int) (unblocker : Option Int) :
  (Refused (some 0) fd unblocker ∧ ∃ text, setupReadFdSet fd unblocker = .error (.exception text)) ∨
  (¬ Refused (some 0) fd unblocker ∧ setupReadFdSet fd unblocker = .error .outOfBounds ∧
    ¬ (fd < fdSetsize ∧ ∀ pipe ∈ unblocker, pipe < fdSetsize)) ∨
  (¬ Refused (some 0) fd unblocker ∧
    (fd < fdSetsize ∧ ∀ pipe ∈ unblocker, pipe < fdSetsize) ∧
    ∃ fdmax, setupReadFdSet fd unblocker = .ok fdmax ∧
      (0 < fdmax ↔ 0 < fd ∨ ∃ pipe ∈ unblocker, 0 < pipe))
  := by
  cases unblocker with
  | none =>
      simp only [Refused, setupReadFdSet]
      split_ifs with hfd hset
      · simp [hfd]
      · simp [hfd, hset]
      · simp [hfd, Int.not_le.mp hset]
  | some pipe =>
      simp only [Refused, setupReadFdSet]
      split_ifs with hfd hset hpipe hset' hlt
      · simp [hfd]
      · simp [hfd, Int.not_lt.mpr hset]
      · simp [hfd, hpipe, Int.not_le.mp hset]
      · simp [hfd, hpipe, hset']
      · simp [hfd, Int.not_le.mp hset, Int.not_le.mp hset', hpipe]
        omega
      · simp [hfd, Int.not_le.mp hset, Int.not_le.mp hset', hpipe]
        omega

theorem recvTimeout_cases (msTimeout : Int) :
  (CInt.Fits 32 (msTimeout * 1000) ∧ ∃ timeout, recvTimeout msTimeout = .ok timeout) ∨
  (¬ CInt.Fits 32 (msTimeout * 1000) ∧ recvTimeout msTimeout = .error .overflow)
  := by
  rw [recvTimeout, signed]
  split_ifs with hzero hfits
  · left
    rw [hzero, Int.zero_mul, fits_32]
    exact ⟨by omega, none, rfl⟩
  · left
    exact ⟨hfits, _, rfl⟩
  · right
    exact ⟨hfits, rfl⟩

theorem selectReply_apply (timeout : Option Timeval) (t : Reply) :
  selectReply calls timeout t = .ok (calls.select t.selects.length)
    { t with selects := t.selects ++ [(timeout, calls.select t.selects.length)] }
  := rfl

/-! ### The status -/

/-- The reply before any call is made for it. -/
def Reply.start (bytesReadOut : Option Int) (buf : List UInt8) : Reply where
  bytesReadOut := bytesReadOut
  replyMsgBuf := buf

/-- The reply when `select` has been called for it. -/
def Reply.selected (count : Int) (buf : List UInt8) (timeout : Option Timeval)
    (outcome : SelectOutcome) : Reply where
  selects := [(timeout, outcome)]
  bytesReadOut := some count
  replyMsgBuf := buf

/-- `recvReply` when it gets to `select`. -/
theorem recvReply_select {count : Int} {fdmax : Int} {timeout : Option Timeval}
    (hset : setupReadFdSet fd unblocker = .ok fdmax) (hpos : 0 < fdmax)
    (htimeout : recvTimeout msTimeout = .ok timeout) :
  recvReply calls fd msTimeout (.start (some count) buf) =
    recvSelected calls (calls.select 0) (.selected count buf timeout (calls.select 0))
  := by
  simp only [recvReply, Reply.start, hset, htimeout, if_pos hpos, Exec.bind_apply,
    Exec.get_apply, Exec.ofExcept_ok, selectReply_apply, reduceCtorEq, if_false]
  rfl

/-- A status that is returned after one call of `select`, not interrupted. -/
theorem TellsTruth.of_ok {status : SocketReadStatus} {timeout : Option Timeval}
    {outcome : SelectOutcome} (hselects : t.selects = [(timeout, outcome)])
    (houtcome : outcome ≠ .interrupted) (h : Truthful calls buf t status) :
  TellsTruth calls buf (.ok status t)
  where
  truthful := by
    rintro _ _ ⟨⟩
    apply h
  restarted := by
    rintro _ _ ⟨⟩ k timeout' hk
    rw [hselects, List.getElem?_singleton] at hk
    split at hk
    · cases hk
      contradiction
    · cases hk
  stops := by
    rintro _ _ ⟨⟩

theorem recvSelected_ready {socket pipe : Bool} (hsome : socket ∨ pipe) :
  recvSelected calls (.ready socket pipe) = recvReady calls socket pipe
  := by
  cases socket with
  | true => rfl
  | false =>
      obtain rfl : pipe = true := by simpa using hsome
      rfl

theorem TellsTruth.of_exception (text : String) :
  TellsTruth calls buf (.error (.exception text) t)
  where
  truthful := by
    rintro _ _ ⟨⟩
  restarted := by
    rintro _ _ ⟨⟩
  stops := by
    rintro _ _ ⟨⟩
    exact ⟨text, rfl⟩

/-- What the call of `select` comes to is told as it is, unless it is interrupted or a reply fills
the buffer. -/
theorem recvSelected_tellsTruth (count : Int) (timeout : Option Timeval) :
  TellsTruth calls buf
      (recvSelected calls (calls.select 0) (.selected count buf timeout (calls.select 0))) ↔
    calls.select 0 ≠ .interrupted ∧
    ∀ pipe bytes, calls.select 0 = .ready true pipe → calls.recv = .received bytes →
      bytes.length < replyMsgLen
  := by
  have hwaited := calls.waited 0
  generalize calls.select 0 = outcome at hwaited ⊢
  cases outcome with
  | failed =>
      simp only [ne_eq, reduceCtorEq, not_false_eq_true, true_and, false_implies, implies_true,
        iff_true]
      apply TellsTruth.of_ok rfl SelectOutcome.noConfusion
      left
      rfl
  | interrupted =>
      simp only [ne_eq, not_true_eq_false, false_and, iff_false]
      intro h
      obtain ⟨pipe, bytes, hlast, -⟩ := h.truthful .ok _ rfl
      cases hlast
  | ready socket pipe =>
      simp only [ne_eq, reduceCtorEq, not_false_eq_true, true_and, SelectOutcome.ready.injEq]
      by_cases hsome : socket ∨ pipe
      · rw [recvSelected_ready hsome]
        constructor
        · rintro h pipe' bytes ⟨rfl, rfl⟩ hrecv
          by_contra hfull
          obtain ⟨t', hstop⟩ := recvReady_full hrecv (Nat.not_lt.mp hfull)
            (.selected count buf timeout (.ready true pipe))
          obtain ⟨text, ⟨⟩⟩ := h.stops _ _ hstop
        · intro hroom
          have hpipe : pipe → unblocker.isSome := by
            rintro rfl
            apply Option.isSome_iff_ne_none.mpr (hwaited socket rfl)
          have hsocket : socket → ∀ bytes, calls.recv = .received bytes →
              bytes.length < replyMsgLen := by
            intro hsocket bytes hrecv
            apply hroom pipe bytes ⟨hsocket, rfl⟩ hrecv
          have hlast : (Reply.selected count buf timeout (.ready socket pipe)).last
              = some (.ready socket pipe) := rfl
          obtain ⟨status, t', hready, hselects, htruthful⟩ :=
            recvReady_truthful hlast hsome hpipe hsocket
          rw [hready]
          apply TellsTruth.of_ok hselects SelectOutcome.noConfusion htruthful
      · obtain ⟨rfl, rfl⟩ : socket = false ∧ pipe = false := by simpa using hsome
        constructor
        · rintro - pipe bytes ⟨⟨⟩, -⟩
        · intro _
          apply TellsTruth.of_ok rfl SelectOutcome.noConfusion
          rfl

/-- A status that is returned before any call of `select` does not tell the truth. -/
theorem not_truthful_start (status : SocketReadStatus) :
  ¬ Truthful calls buf (.start bytesReadOut buf) status
  := by
  cases status <;> simp [Truthful, Reply.last, Reply.start]

/-- What is refused ends in an exception. -/
theorem recvReply_refused (h : Refused bytesReadOut fd unblocker) :
  ∃ text, recvReply calls fd msTimeout (.start bytesReadOut buf)
    = .error (.exception text) (.start bytesReadOut buf)
  := by
  cases bytesReadOut with
  | none => exact ⟨"recvReply given NULL bytesReadOut", rfl⟩
  | some count =>
      have hrefused : Refused (some 0) fd unblocker := by simpa [Refused] using h
      obtain ⟨-, text, hset⟩ | ⟨hpass, -⟩ | ⟨hpass, -⟩ := setupReadFdSet_cases fd unblocker
      · use text
        simp [recvReply, hset, Reply.start]
      · contradiction
      · contradiction

/-- What is not refused is told as it is exactly when it is not disturbed. -/
theorem recvReply_not_refused (h : ¬ Refused bytesReadOut fd unblocker) :
  TellsTruth calls buf (recvReply calls fd msTimeout (.start bytesReadOut buf)) ↔
    Undisturbed calls fd msTimeout
  := by
  obtain ⟨count, rfl⟩ : ∃ count, bytesReadOut = some count := by
    apply Option.ne_none_iff_exists'.mp
    intro hnone
    apply h (Or.inl hnone)
  obtain ⟨hrefused, -⟩ | ⟨-, hset, hsize⟩ | ⟨-, hsize, fdmax, hset, hpos⟩ :=
    setupReadFdSet_cases fd unblocker
  · apply absurd _ h
    simpa [Refused] using hrefused
  · have hstop : recvReply calls fd msTimeout (.start (some count) buf)
        = .error .outOfBounds (.start (some count) buf) := by
      simp [recvReply, hset, Reply.start]
    rw [hstop]
    constructor
    · intro htells
      obtain ⟨text, ⟨⟩⟩ := htells.stops _ _ rfl
    · intro hundisturbed
      apply absurd hundisturbed.setsize hsize
  by_cases hfdmax : 0 < fdmax
  · obtain ⟨hfits, timeout, htimeout⟩ | ⟨hfits, htimeout⟩ := recvTimeout_cases msTimeout
    · rw [recvReply_select hset hfdmax htimeout, recvSelected_tellsTruth]
      constructor
      · rintro ⟨huninterrupted, hunfilled⟩
        exact ⟨hsize, hpos.mp hfdmax, hfits, huninterrupted, hunfilled⟩
      · intro hundisturbed
        exact ⟨hundisturbed.uninterrupted, hundisturbed.unfilled⟩
    · have hstop : recvReply calls fd msTimeout (.start (some count) buf)
          = .error .overflow (.start (some count) buf) := by
        simp [recvReply, hset, hfdmax, htimeout, Reply.start]
      rw [hstop]
      constructor
      · intro htells
        obtain ⟨text, ⟨⟩⟩ := htells.stops _ _ rfl
      · intro hundisturbed
        apply absurd hundisturbed.timeout hfits
  · have herror : recvReply calls fd msTimeout (.start (some count) buf)
        = .ok .error (.start (some count) buf) := by
      simp [recvReply, hset, hfdmax, Reply.start]
    rw [herror]
    constructor
    · intro htells
      apply absurd (htells.truthful _ _ rfl) (not_truthful_start _)
    · intro hundisturbed
      apply absurd (hpos.mpr hundisturbed.positive) hfdmax

/-- The status tells the truth exactly when the call is refused, or is not disturbed. -/
theorem recvReply_tellsTruth_iff (calls : ReplyCalls unblocker replyMsgLen) (fd msTimeout : Int)
    (bytesReadOut : Option Int) (buf : List UInt8) :
  TellsTruth calls buf (recvReply calls fd msTimeout (.start bytesReadOut buf)) ↔
    Refused bytesReadOut fd unblocker ∨ Undisturbed calls fd msTimeout
  := by
  by_cases hrefused : Refused bytesReadOut fd unblocker
  · obtain ⟨text, hstop⟩ : ∃ text, recvReply calls fd msTimeout (.start bytesReadOut buf)
        = .error (.exception text) (.start bytesReadOut buf) := recvReply_refused hrefused
    rw [hstop]
    constructor
    · intro _
      left
      apply hrefused
    · intro _
      apply TellsTruth.of_exception
  · rw [recvReply_not_refused hrefused, or_iff_right hrefused]

/-- The calls of a reply that is interrupted once, and then has a byte. -/
def interruptedCalls : ReplyCalls none 2 where
  select
    | 0 => .interrupted
    | _ + 1 => .ready true false
  recv := .received [1]
  waited := by
    rintro (_ | k) socket ⟨⟩
  room := by
    rintro _ ⟨⟩
    decide

/-- The calls of a reply of as many bytes as the buffer has. -/
def filledCalls : ReplyCalls none 1 where
  select _ := .ready true false
  recv := .received [1]
  waited := by
    rintro k socket ⟨⟩
  room := by
    rintro _ ⟨⟩
    decide

/-- An interrupted wait is told as a reply, with what the count was before, and a reply that fills
the buffer fails the assertion. -/
theorem recvReply_disturbed :
  (recvReply interruptedCalls 3 1000 (.start (some 7) [0, 0])
      = .ok .ok (.selected 7 [0, 0] (some ⟨1, 0⟩) .interrupted) ∧
    ¬ TellsTruth interruptedCalls [0, 0]
      (recvReply interruptedCalls 3 1000 (.start (some 7) [0, 0]))) ∧
  (recvReply filledCalls 3 1000 (.start (some 7) [0])
      = .error (.assertion .recvReply) ⟨[(some ⟨1, 0⟩, .ready true false)], some 1, [1]⟩ ∧
    ¬ TellsTruth filledCalls [0] (recvReply filledCalls 3 1000 (.start (some 7) [0])))
  := by
  have hinterrupted : recvReply interruptedCalls 3 1000 (.start (some 7) [0, 0])
      = .ok .ok (.selected 7 [0, 0] (some ⟨1, 0⟩) .interrupted) := by
    rfl
  have hfilled : recvReply filledCalls 3 1000 (.start (some 7) [0])
      = .error (.assertion .recvReply) ⟨[(some ⟨1, 0⟩, .ready true false)], some 1, [1]⟩ := by
    rfl
  refine ⟨⟨hinterrupted, ?_⟩, hfilled, ?_⟩
  · rw [hinterrupted]
    intro htells
    obtain ⟨pipe, bytes, hlast, -⟩ := htells.truthful _ _ rfl
    cases hlast
  · rw [hfilled]
    intro htells
    obtain ⟨text, ⟨⟩⟩ := htells.stops _ _ rfl

end X6losim
