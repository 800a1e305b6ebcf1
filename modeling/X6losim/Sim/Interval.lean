import X6losim.Sim.Run

/-!
# The waits of an interval

`PhysicalMedium::interval` for any number of milliseconds.  What the calls made in it come to, and
the instants, in nanoseconds, at which they do, are given.  Its loop is to wait again when a signal
has interrupted it, but it goes on only after `epoll_wait` has returned events, and these end it.
-/

open Bytes

namespace X6losim

/-- What the calls made in a turn of the loop of `interval` come to: the answers of the system,
those while the events are processed one by one, and the instants at which `epoll_wait` returns and
at which `timer_gettime` is called. -/
structure Turn where
  env : Env
  process : Nat → Env
  returned : Int
  asked : Int

/-- The argument `epoll_wait` is called with in a turn: the milliseconds asked for, and then those
left after the turn before. -/
def turnTimeout (waitms : Nat) (turn : Nat → Turn) : Nat → Int
  | 0 => waitms
  | k + 1 =>
      match (turn k).env.timerGettime with
      | some left => msLeft left
      | none => 0

/-- The instant from which `epoll_wait` waits in a turn, for an `interval` entered at an instant. -/
def turnStart (entered : Int) (turn : Nat → Turn) : Nat → Int
  | 0 => entered
  | k + 1 => (turn k).asked

/-- What the calls made in an `interval` come to: the clock does not go back, and `epoll_wait`
returns nothing only after all of the time it has been called with. -/
structure IntervalCalls (waitms : Nat) where
  env : Env
  entered : Int
  turn : Nat → Turn
  returns : ∀ k, turnStart entered turn k ≤ (turn k).returned
  asks : ∀ k, (turn k).returned ≤ (turn k).asked
  elapsed : ∀ k, (turn k).env.epollWait = .ready [] →
    turnStart entered turn k + 1000000 * turnTimeout waitms turn k ≤ (turn k).returned

/-- How `interval` returns: the arguments `epoll_wait` has been called with, whether events have
been processed, and the instant. -/
structure IntervalReturn where
  waits : List Int
  processed : Bool
  returned : Int
deriving DecidableEq, Repr

/-- What `epoll_wait` returns. -/
def EpollWait.rv : EpollWait → Int
  | failed => -1
  | interrupted => -1
  | ready evs => evs.length

/-- The loop of `PhysicalMedium::processPollerEvents`, with the answers of the system from the
`k`-th event on. -/
def processEvents (host : ByteOrder) (process : Nat → Env) : Nat → List PollEvent → Prog Unit
  | _, [] => return
  | k, ev :: evs => do
      if ← processPollerEvent host (process k) ev then processEvents host process (k + 1) evs

/-- `PhysicalMedium::processPollerEvents`. -/
def processPollerEvents (host : ByteOrder) (process : Nat → Env) (evs : List PollEvent) :
    Prog Unit := do
  if epollMaxEvents < evs.length then throw (.assertion .processPollerEvents)
  processEvents host process 0 evs

variable {waitms : Nat}

/-- The loop of `interval` from its `k`-th turn, for as many turns as there is fuel for. -/
def intervalLoop (host : ByteOrder) (calls : IntervalCalls waitms) :
    Nat → Nat → List Int → Int → Prog (Option IntervalReturn)
  | 0, _, _, _ => return none
  | fuel + 1, k, waits, timeout => do
      let turn := calls.turn k
      let waits := waits ++ [timeout]
      match turn.env.epollWait with
      | .failed => throw (.exception "PhysicalMedium::interval: epoll failure")
      | .ready (ev :: evs) =>
          processPollerEvents host turn.process (ev :: evs)
          return some ⟨waits, true, turn.returned⟩
      | rv =>
          match turn.env.timerGettime with
          | none => throw (.exception "PhysicalMedium::interval: failed to get timer")
          | some left =>
              if 0 < rv.rv ∧ 0 < msLeft left then
                intervalLoop host calls fuel (k + 1) waits (msLeft left)
              else return some ⟨waits, false, turn.asked⟩

/-- `PhysicalMedium::interval`, if its loop ends with the fuel there is. -/
def interval (host : ByteOrder) (calls : IntervalCalls waitms) (fuel : Nat) :
    Prog (Option IntervalReturn) := do
  armInterval calls.env waitms
  intervalLoop host calls fuel 0 [] waitms

/-- `interval` has processed events or has waited as long as it was asked to, and after every
interruption before the end it has waited again for the time that was left. -/
structure Waited (calls : IntervalCalls waitms) (ret : IntervalReturn) : Prop where
  waited : ret.processed ∨ calls.entered + 1000000 * waitms ≤ ret.returned
  resumed : ∀ k, k < ret.waits.length → (calls.turn k).env.epollWait = .interrupted →
    (calls.turn k).asked < calls.entered + 1000000 * waitms →
    ret.waits[k + 1]? = some (turnTimeout waitms calls.turn (k + 1))

variable {host : ByteOrder} {calls : IntervalCalls waitms} {fuel : Nat} {m m' : Medium}

/-- The medium when `interval` has set the timer. -/
def Medium.arm (m : Medium) (waitms : Nat) : Medium :=
  { m with
    curTime := timespecAddMs m.curTime waitms
    log := m.log ++ [.interval waitms] }

theorem armInterval_apply (env : Env) (waitms : Nat) (m : Medium) :
  armInterval env waitms m =
    if env.timerSettime then .ok () (m.arm waitms)
    else .error (.exception "PhysicalMedium::interval: failed to arm timer") (m.arm waitms)
  := by
  cases hset : env.timerSettime with
  | false => simp [armInterval, hset, Medium.arm, record, Medium.record]
  | true => simp [armInterval, hset, Medium.arm, record, Medium.record]

/-- The loop ends in its first turn. -/
theorem intervalLoop_succ (fuel k : Nat) (waits : List Int) (timeout : Int) :
  intervalLoop host calls (fuel + 1) k waits timeout =
    match (calls.turn k).env.epollWait with
    | .failed => throw (.exception "PhysicalMedium::interval: epoll failure")
    | .ready (ev :: evs) => do
        processPollerEvents host (calls.turn k).process (ev :: evs)
        return some ⟨waits ++ [timeout], true, (calls.turn k).returned⟩
    | _ =>
        match (calls.turn k).env.timerGettime with
        | none => throw (.exception "PhysicalMedium::interval: failed to get timer")
        | some _ => return some ⟨waits ++ [timeout], false, (calls.turn k).asked⟩
  := by
  rw [intervalLoop]
  cases (calls.turn k).env.epollWait with
  | failed => rfl
  | interrupted =>
      simp [EpollWait.rv]
  | ready evs =>
      cases evs with
      | nil => simp [EpollWait.rv]
      | cons ev evs => rfl

/-- How `interval` returns: in its first turn, with the events that `epoll_wait` has returned
processed, or when no event has been returned. -/
inductive Returns (host : ByteOrder) (calls : IntervalCalls waitms) (m : Medium) :
    IntervalReturn → Medium → Prop where
  | processed (ev : PollEvent) (evs : List PollEvent) (m' : Medium) :
      (calls.turn 0).env.epollWait = .ready (ev :: evs) →
      processPollerEvents host (calls.turn 0).process (ev :: evs) (m.arm waitms) = .ok () m' →
      Returns host calls m ⟨[waitms], true, (calls.turn 0).returned⟩ m'
  | elapsed (left : Timespec) : (calls.turn 0).env.epollWait = .ready [] →
      (calls.turn 0).env.timerGettime = some left →
      Returns host calls m ⟨[waitms], false, (calls.turn 0).asked⟩ (m.arm waitms)
  | interrupted (left : Timespec) : (calls.turn 0).env.epollWait = .interrupted →
      (calls.turn 0).env.timerGettime = some left →
      Returns host calls m ⟨[waitms], false, (calls.turn 0).asked⟩ (m.arm waitms)

theorem interval_returns_iff {ret : IntervalReturn} :
  interval host calls (fuel + 1) m = .ok (some ret) m' ↔
    calls.env.timerSettime ∧ Returns host calls m ret m'
  := by
  rw [interval, Exec.bind_apply, armInterval_apply]
  cases hset : calls.env.timerSettime with
  | false => simp
  | true =>
      simp only [if_true, true_and]
      rw [intervalLoop_succ]
      constructor
      · intro h
        cases hwait : (calls.turn 0).env.epollWait with
        | failed =>
            rw [hwait] at h
            cases h
        | interrupted =>
            cases hleft : (calls.turn 0).env.timerGettime with
            | none =>
                simp only [hwait, hleft] at h
                cases h
            | some left =>
                simp only [hwait, hleft] at h
                cases h
                exact .interrupted left hwait hleft
        | ready evs =>
            cases evs with
            | nil =>
                cases hleft : (calls.turn 0).env.timerGettime with
                | none =>
                    simp only [hwait, hleft] at h
                    cases h
                | some left =>
                    simp only [hwait, hleft] at h
                    cases h
                    exact .elapsed left hwait hleft
            | cons ev evs =>
                simp only [hwait] at h
                obtain ⟨⟨⟩, m₁, hprocess, h⟩ := Exec.bind_eq_ok.mp h
                cases h
                exact .processed ev evs m' hwait hprocess
      · intro h
        cases h with
        | processed ev evs m' hwait hprocess =>
            simp only [hwait]
            apply Exec.bind_eq_ok.mpr
            exact ⟨(), m', hprocess, rfl⟩
        | elapsed left hwait hleft =>
            simp only [hwait, hleft]
            rfl
        | interrupted left hwait hleft =>
            simp only [hwait, hleft]
            rfl

/-- There is always fuel enough. -/
theorem interval_ends :
  interval host calls (fuel + 1) m ≠ .ok none m'
  := by
  intro h
  rw [interval, Exec.bind_eq_ok] at h
  obtain ⟨⟨⟩, m₁, -, hloop⟩ := h
  rw [intervalLoop_succ] at hloop
  split at hloop
  · cases hloop
  · obtain ⟨⟨⟩, m₂, -, hreturn⟩ := Exec.bind_eq_ok.mp hloop
    cases hreturn
  · split at hloop
    · cases hloop
    · cases hloop

/-- An interval waits as long as it is asked to exactly when its first wait is not interrupted
before the end, unless it fails. -/
theorem interval_waited_iff (host : ByteOrder) (calls : IntervalCalls waitms) (m : Medium) :
  (∀ fuel ret m', interval host calls fuel m = .ok (some ret) m' → Waited calls ret) ↔
    (calls.env.timerSettime → (calls.turn 0).env.epollWait = .interrupted →
      (calls.turn 0).env.timerGettime ≠ none →
      calls.entered + 1000000 * waitms ≤ (calls.turn 0).asked)
  := by
  constructor
  · intro h hset hwait hleft
    obtain ⟨left, hleft⟩ := Option.ne_none_iff_exists'.mp hleft
    have hreturn : interval host calls 1 m
        = .ok (some ⟨[waitms], false, (calls.turn 0).asked⟩) (m.arm waitms) :=
      interval_returns_iff.mpr ⟨hset, .interrupted left hwait hleft⟩
    rcases (h _ _ _ hreturn).waited with ⟨⟨⟩⟩ | hwaited
    apply hwaited
  · intro h fuel ret m' hreturn
    cases fuel with
    | zero =>
        rw [interval, Exec.bind_eq_ok] at hreturn
        obtain ⟨⟨⟩, m₁, -, ⟨⟩⟩ := hreturn
    | succ fuel =>
        obtain ⟨hset, hreturns⟩ := interval_returns_iff.mp hreturn
        cases hreturns with
        | processed ev evs m' hwait hprocess =>
            refine ⟨Or.inl rfl, ?_⟩
            intro k hk hinterrupted
            obtain rfl : k = 0 := Nat.lt_one_iff.mp hk
            rw [hwait] at hinterrupted
            cases hinterrupted
        | elapsed left hwait hleft =>
            refine ⟨Or.inr ((calls.elapsed 0 hwait).trans (calls.asks 0)), ?_⟩
            intro k hk hinterrupted
            obtain rfl : k = 0 := Nat.lt_one_iff.mp hk
            rw [hwait] at hinterrupted
            cases hinterrupted
        | interrupted left hwait hleft =>
            have hend : calls.entered + 1000000 * waitms ≤ (calls.turn 0).asked := by
              apply h hset hwait
              simp [hleft]
            refine ⟨Or.inr hend, ?_⟩
            intro k hk _ hbefore
            obtain rfl : k = 0 := Nat.lt_one_iff.mp hk
            apply absurd hend (not_le_of_gt hbefore)

/-- The calls of an interval that is interrupted as soon as it waits. -/
def interruptedAtOnce : IntervalCalls 1000 where
  env := .calm
  entered := 0
  turn _ := {
    env := { Env.calm with epollWait := .interrupted, timerGettime := some ⟨1, 0⟩ }
    process := fun _ => .calm
    returned := 0
    asked := 0
  }
  returns k := by
    cases k <;> exact le_refl 0
  asks _ := le_refl 0
  elapsed k h := by
    cases h

/-- An interval of a second that is interrupted returns at once. -/
theorem interval_interrupted :
  interval .little interruptedAtOnce 1 Medium.new
      = .ok (some ⟨[1000], false, 0⟩) (Medium.new.arm 1000) ∧
    ¬ ∀ fuel ret m', interval .little interruptedAtOnce fuel Medium.new = .ok (some ret) m' →
      Waited interruptedAtOnce ret
  := by
  have hreturn : interval .little interruptedAtOnce 1 Medium.new
      = .ok (some ⟨[1000], false, 0⟩) (Medium.new.arm 1000) :=
    interval_returns_iff.mpr ⟨rfl, .interrupted ⟨1, 0⟩ rfl rfl⟩
  refine ⟨hreturn, ?_⟩
  intro h
  rcases (h _ _ _ hreturn).waited with ⟨⟨⟩⟩ | hwaited
  have hlt : ¬ (0 : Int) + 1000000 * (1000 : Nat) ≤ 0 := by decide
  apply hlt hwaited

/-! ### The intervals of a medium -/

variable {kind : Kind} {ph : Phase}

/-- A medium that processes events gets to where they have been processed. -/
theorem reachable_processed {process : Nat → Env} {k : Nat} {evs : List PollEvent}
    (h : (medium host kind).Reachable ⟨.poll ph evs, m⟩)
    (hprocess : processEvents host process k evs m = .ok () m') :
  (medium host kind).Reachable ⟨.polled ph, m'⟩
  := by
  induction evs generalizing m k with
  | nil =>
      cases hprocess
      refine h.step (i := .run .calm) trivial ?_
      rfl
  | cons ev evs ih =>
      obtain ⟨more, m₁, hev, hrest⟩ := Exec.bind_eq_ok.mp hprocess
      cases more with
      | false =>
          cases hrest
          refine h.step (i := .run (process k)) trivial ?_
          simp [medium, Sys.step, stepProg, runStep, hev]
      | true =>
          apply ih _ hrest
          refine h.step (i := .run (process k)) trivial ?_
          simp [medium, Sys.step, stepProg, runStep, hev]

/-- A medium that has got to an interval gets to where it returns. -/
theorem reachable_returned {calls : IntervalCalls ph.waitms} {ret : IntervalReturn}
    (h : (medium host kind).Reachable ⟨.interval ph, m⟩)
    (hreport : ∀ evs, (calls.turn 0).env.epollWait = .ready evs → m.Reportable evs)
    (hreturn : interval host calls (fuel + 1) m = .ok (some ret) m') :
  (medium host kind).Reachable ⟨.polled ph, m'⟩
  := by
  obtain ⟨hset, hreturns⟩ := interval_returns_iff.mp hreturn
  have harmed : (medium host kind).Reachable ⟨.epollWait ph ph.waitms, m.arm ph.waitms⟩ := by
    refine h.step (i := .run calls.env) trivial ?_
    simp [medium, Sys.step, stepProg, runStep, armInterval_apply, hset]
  have hreport' : Sys.Enabled ⟨.epollWait ph ph.waitms, m.arm ph.waitms⟩
      (.run (calls.turn 0).env) := by
    intro evs hwait
    obtain ⟨hlength, hnodup, hinterest⟩ := hreport evs hwait
    exact ⟨hlength, hnodup, hinterest⟩
  have hnone : ∀ rv left, rv ≤ 0 → (calls.turn 0).env.timerGettime = some left →
      (medium host kind).Reachable ⟨.timeLeft ph rv, m.arm ph.waitms⟩ →
      (medium host kind).Reachable ⟨.polled ph, m.arm ph.waitms⟩ := by
    intro rv left hrv hleft htimeLeft
    refine htimeLeft.step (i := .run (calls.turn 0).env) trivial ?_
    have hover : ¬ (0 < rv ∧ 0 < msLeft left) := fun hlt => absurd hlt.1 (not_lt_of_ge hrv)
    simp only [medium, Sys.step, stepProg, runStep, hleft, if_neg hover]
    rfl
  cases hreturns with
  | processed ev evs m' hwait hprocess =>
      have hmax : ¬ epollMaxEvents < (ev :: evs).length :=
        not_lt_of_ge (hreport _ hwait).length_le
      simp only [processPollerEvents, if_neg hmax] at hprocess
      have hpoll : (medium host kind).Reachable ⟨.poll ph (ev :: evs), m.arm ph.waitms⟩ := by
        refine harmed.step (i := .run (calls.turn 0).env) hreport' ?_
        simp only [medium, Sys.step, stepProg, runStep, hwait, if_neg hmax]
        rfl
      apply reachable_processed hpoll hprocess
  | elapsed left hwait hleft =>
      apply hnone 0 left (le_refl 0) hleft
      refine harmed.step (i := .run (calls.turn 0).env) hreport' ?_
      simp only [medium, Sys.step, stepProg, runStep, hwait]
      rfl
  | interrupted left hwait hleft =>
      apply hnone (-1) left (by decide) hleft
      refine harmed.step (i := .run (calls.turn 0).env) hreport' ?_
      simp only [medium, Sys.step, stepProg, runStep, hwait]
      rfl

end X6losim
