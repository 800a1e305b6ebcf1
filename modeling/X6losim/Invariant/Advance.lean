import X6losim.Invariant.Deadline

/-!
# The time of a medium

`interval` hands the time of the medium, moved by the milliseconds it is called with, to
`timer_settime`.  The time starts with less than a second of nanoseconds, and every call keeps it
so.
-/

open Bytes CInt

namespace X6losim

variable {host : ByteOrder} {kind : Kind} {waitms fuel : Nat} {calls : IntervalCalls waitms}
  {m m' : Medium}

/-! ### Calls of `interval` -/

/-- Calls of `interval`, each for a positive number of milliseconds, an `int`, and with seconds that
stay in a `long`, and the times that they hand to `timer_settime`.  What is done before a call
leaves the time of the medium as it is. -/
inductive IntervalRun (host : ByteOrder) : Medium → List Timespec → Medium → Prop where
  | nil {m m' : Medium} : m'.curTime = m.curTime → IntervalRun host m [] m'
  | call {m m₁ m₂ m' : Medium} {handed : List Timespec} {waitms fuel : Nat}
      {calls : IntervalCalls waitms} {ret : Option IntervalReturn} {curTime : Timespec} :
      IntervalRun host m handed m₁ → 0 < waitms → CInt.Fits 32 waitms →
      timespecAddMsLong m₁.curTime waitms = some curTime →
      interval host calls fuel m₁ = .ok ret m₂ → m'.curTime = m₂.curTime →
      IntervalRun host m (handed ++ [curTime]) m'

/-- Processing an event leaves the time as it is. -/
theorem processPollerEvent_curTime {env : Env} {ev : PollEvent} {goOn : Bool}
    (hok : processPollerEvent host env ev m = .ok goOn m') :
  m'.curTime = m.curTime
  := by
  rcases processPollerEvent_ok hok with
    ⟨-, rfl⟩ | ⟨-, rfl⟩ | ⟨-, p, n, eff, -, -, -, -, rfl⟩
  · rfl
  · rfl
  · apply apply_curTime

theorem processEvents_curTime {process : Nat → Env} {k : Nat} {evs : List PollEvent}
    (hok : processEvents host process k evs m = .ok () m') :
  m'.curTime = m.curTime
  := by
  induction evs generalizing m k with
  | nil =>
      cases hok
      rfl
  | cons ev evs ih =>
      obtain ⟨goOn, m₁, hev, hrest⟩ := Exec.bind_eq_ok.mp hok
      have hfirst := processPollerEvent_curTime hev
      cases goOn with
      | false =>
          cases hrest
          apply hfirst
      | true => exact (ih hrest).trans hfirst

theorem processPollerEvents_curTime {process : Nat → Env} {evs : List PollEvent}
    (hok : processPollerEvents host process evs m = .ok () m') :
  m'.curTime = m.curTime
  := by
  rw [processPollerEvents] at hok
  split at hok
  · cases hok
  · apply processEvents_curTime hok

/-- After a call of `interval` the time of the medium is the one it has handed over. -/
theorem interval_curTime {ret : Option IntervalReturn}
    (hok : interval host calls fuel m = .ok ret m') :
  m'.curTime = timespecAddMs m.curTime waitms
  := by
  cases fuel with
  | zero =>
      obtain ⟨⟨⟩, m₁, harm, hreturn⟩ := Exec.bind_eq_ok.mp hok
      rw [armInterval_apply] at harm
      split at harm
      · cases harm
        cases hreturn
        rfl
      · cases harm
  | succ fuel =>
      cases ret with
      | none => apply absurd hok interval_ends
      | some ret =>
          obtain ⟨-, hreturns⟩ := interval_returns_iff.mp hok
          cases hreturns with
          | processed ev evs m' _ hprocess => apply processPollerEvents_curTime hprocess
          | elapsed => rfl
          | interrupted => rfl

/-- An `int` of milliseconds is small enough to be added to a time. -/
theorem nanoseconds_lt_of_int (h : CInt.Fits 32 waitms) :
  waitms * 1000000 + 1000000000 < 2 ^ 63
  := by
  have hle : waitms ≤ 2147483647 := by
    rw [fits_32] at h
    omega
  apply nanoseconds_lt_of_le hle
  decide

/-- Every call keeps the nanoseconds of the time less than a second. -/
theorem IntervalRun.normalised {handed : List Timespec} (run : IntervalRun host m handed m')
    (hm : m.curTime.Normalised) :
  m'.curTime.Normalised ∧ ∀ curTime ∈ handed, curTime.Normalised
  := by
  induction run with
  | nil hsame =>
      refine ⟨?_, by simp⟩
      rw [hsame]
      apply hm
  | call _ _ hfits hadd hok hsame ih =>
      obtain ⟨hbefore, hhanded⟩ := ih
      have hsum := normalised_timespecAddMs hbefore (nanoseconds_lt_of_int hfits)
      constructor
      · rw [hsame, interval_curTime hok]
        apply hsum
      · intro curTime hmem
        rcases List.mem_append.mp hmem with hmem | hmem
        · apply hhanded curTime hmem
        · rw [List.mem_singleton.mp hmem, ← timespecAddMs_of_eq_some hadd]
          apply hsum

/-! ### Runs of a medium -/

/-- The clock tells a time with less than a second of nanoseconds when it is read at the start. -/
def ClockNormalised (s : Sys) (i : Input) : Prop :=
  ∀ env curTime, i = .run env → s.pc = .start → env.clockGettime = some curTime →
    curTime.Normalised

/-- A medium that has started has a time with less than a second of nanoseconds. -/
def CurTimeNormalised (s : Sys) : Prop := s.pc ≠ .start → s.med.curTime.Normalised

theorem CurTimeNormalised.step {s s' : Sys} {i : Input} (h : CurTimeNormalised s)
    (henabled : (medium host kind).enabled s i) (hclock : ClockNormalised s i)
    (hstep : (medium host kind).step s i = .ok s') :
  CurTimeNormalised s'
  := by
  intro _
  cases timeNext_of_next (next_of_step henabled hstep) with
  | start => apply hclock _ _ rfl rfl (start_reads hstep)
  | @interval m env ph =>
      apply normalised_timespecAddMs (h Pc.noConfusion)
      apply nanoseconds_lt_of_le ph.waitms_le
      decide
  | stay hcurTime =>
      simp only [hcurTime]
      apply h
      assumption
  | go hcurTime hplaces =>
      simp only [hcurTime]
      apply h hplaces.1

/-- Every call of `interval` in a run hands over a time with less than a second of nanoseconds. -/
theorem interval_normalised {s s' : Sys} {visits : List (Sys × Input)}
    (hinit : (medium host kind).init s) (run : (medium host kind).Run s visits s')
    (hclock : ∀ v ∈ visits, ClockNormalised v.1 v.2) {v : Sys × Input} {ph : Phase}
    (hv : v ∈ visits) (hpc : v.1.pc = .interval ph) :
  (timespecAddMs v.1.med.curTime ph.waitms).Normalised
  := by
  obtain ⟨before, run', hle, -⟩ := run.visited hv
  have hstart : CurTimeNormalised s := by
    intro hpc'
    apply absurd _ hpc'
    rw [hinit]
  have hkept : CurTimeNormalised v.1 := by
    have hbefore : ∀ u ∈ before, ClockNormalised u.1 u.2 := by
      intro u hu
      apply hclock u (hle.subset (List.mem_append_left _ hu))
    apply run'.invariant hstart hbefore
    intro x y i hx henabled hclock' hstep
    apply hx.step henabled hclock' hstep
  apply normalised_timespecAddMs
  · apply hkept
    rw [hpc]
    apply Pc.noConfusion
  · apply nanoseconds_lt_of_le ph.waitms_le
    decide

/-! ### Instants -/

/-- `timespec_add_ms` moves instants by the milliseconds: the sum has less than a second of
nanoseconds, milliseconds can be added one after the other or together, and the order of two times,
which is that of their instants, is kept.  So in all calls of `interval` one after the other, and in
all runs of a medium, the timer is set for times with less than a second of nanoseconds. -/
theorem timespecAddMs_action {x y : Timespec} {a b : Nat} (hx : x.Normalised) (hy : y.Normalised)
    (hab : (a + b) * 1000000 + 1000000000 < 2 ^ 63) (hroom : x.Room (a + b))
    (hroom' : y.Room a) :
  ((∃ xa ya xb, timespecAddMsLong x a = some xa ∧ timespecAddMsLong y a = some ya ∧
      timespecAddMsLong xa b = some xb ∧ timespecAddMsLong x (a + b) = some xb ∧
      xa.Normalised ∧ xa.toNs = x.toNs + a * 1000000 ∧
      compareTimespecs xa ya = compareTimespecs x y) ∧
    compareTimespecs x y = (x.toNs - y.toNs).sign) ∧
  (∀ host m handed m', m.curTime.Normalised → IntervalRun host m handed m' →
    ∀ curTime ∈ handed, curTime.Normalised) ∧
  ∀ host kind s visits s', (medium host kind).init s → (medium host kind).Run s visits s' →
    (∀ v ∈ visits, ClockNormalised v.1 v.2) → ∀ v ∈ visits, ∀ ph, v.1.pc = .interval ph →
    (timespecAddMs v.1.med.curTime ph.waitms).Normalised
  := by
  have ha := nanoseconds_lt_of_le (Nat.le_add_right a b) hab
  have hb := nanoseconds_lt_of_le (Nat.le_add_left b a) hab
  obtain ⟨hrooma, hroomb⟩ := hroom.split hx ha
  have hsum : timespecAddMsLong (timespecAddMs x a) b = some (timespecAddMs x (a + b)) := by
    rw [timespecAddMsLong_eq (normalised_timespecAddMs hx ha) hb hroomb,
      timespecAddMs_timespecAddMs hx hab]
  refine ⟨⟨?_, compareTimespecs_eq_sign hx hy⟩, ?_, ?_⟩
  · use timespecAddMs x a, timespecAddMs y a, timespecAddMs x (a + b)
    refine ⟨timespecAddMsLong_eq hx ha hrooma, timespecAddMsLong_eq hy ha hroom', hsum,
      timespecAddMsLong_eq hx hab hroom, normalised_timespecAddMs hx ha,
      toNs_timespecAddMs hx ha, compareTimespecs_timespecAddMs hx hy ha⟩
  · intro host m handed m' hm run
    apply (run.normalised hm).2
  · intro host kind s visits s' hinit run hclock v hv ph hpc
    apply interval_normalised hinit run hclock hv hpc

/-- A second and a half, and then two and a half, after two instants a nanosecond apart. -/
theorem timespecAddMs_action_seconds :
  ∃ xa ya xb, timespecAddMsLong ⟨7, 999999999⟩ 1500 = some xa ∧
    timespecAddMsLong ⟨8, 0⟩ 1500 = some ya ∧ timespecAddMsLong xa 2500 = some xb ∧
    timespecAddMsLong ⟨7, 999999999⟩ (1500 + 2500) = some xb ∧ xa.Normalised ∧
    xa.toNs = (⟨7, 999999999⟩ : Timespec).toNs + (1500 : Nat) * 1000000 ∧
    compareTimespecs xa ya = compareTimespecs ⟨7, 999999999⟩ ⟨8, 0⟩
  := (timespecAddMs_action ⟨by decide, by decide⟩ ⟨by decide, by decide⟩ (by decide)
    ⟨by decide, by decide⟩ ⟨by decide, by decide⟩).1.1

end X6losim
