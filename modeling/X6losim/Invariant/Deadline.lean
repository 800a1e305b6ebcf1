import X6losim.Lib.Clock
import X6losim.Sim.Interval
import X6losim.Sim.Milliseconds
import X6losim.Sim.Next
import X6losim.Sim.Session

/-!
# The deadlines of intervals

`interval` sets its timer for the time at which the clock was read at the start and the milliseconds
that all its calls have asked for.  So the timer is set for the end of the wait only as long as the
calls have taken the time they have asked for.
-/

open Bytes

namespace X6losim

/-- What is noted down of the intervals of a medium: the instant at which the clock is read at the
start, the instant of the last call, and the milliseconds the calls have asked for. -/
structure Waits where
  startedAt : Int
  calledAt : Int
  asked : Nat
deriving DecidableEq, Repr

/-- What is noted down of a step. -/
def Waits.note (s : Sys) (_ : Input) (s' : Sys) (now : Int) (w : Waits) : Waits :=
  match s.pc, s'.pc with
  | .start, .outer => { w with startedAt := now }
  | .interval ph, .epollWait _ _ => { w with calledAt := now, asked := w.asked + ph.waitms }
  | _, _ => w

/-- The clock tells the instant it is read at, and the timer of the medium the time that is left. -/
def ClockAnswers (c : Clocked Sys Waits) : Input → Int → Prop
  | .run env, now =>
      (∀ t, env.clockGettime = some t → t.Normalised ∧ t.toNs = now) ∧
      ∀ left, env.timerGettime = some left →
        left.toNs = max 0 (c.state.med.curTime.toNs - now)
  | _, _ => True

/-- A medium against the clock its timer runs on. -/
def timedMedium (host : ByteOrder) (kind : Kind) :
    Machine (Clocked Sys Waits) (Input × Int) (Stop × Medium) :=
  (medium host kind).clocked ClockAnswers ⟨0, 0, 0⟩ Waits.note

/-- In a run every call of `interval` sets the timer for no later than the end of the wait, and no
more than the wait is left when the timer is read. -/
structure OnTime (visits : List (Clocked Sys Waits × (Input × Int))) : Prop where
  armed : ∀ c env now ph, (c, (.run env, now)) ∈ visits → c.state.pc = .interval ph →
    (timespecAddMs c.state.med.curTime ph.waitms).toNs ≤ now + 1000000 * ph.waitms
  left : ∀ c env now ph rv (left : Timespec), (c, (.run env, now)) ∈ visits →
    c.state.pc = .timeLeft ph rv → env.timerGettime = some left → left.toNs ≤ 1000000 * ph.waitms

/-- At a call of `interval` the calls before it have taken the time they have asked for. -/
def TakenTime (c : Clocked Sys Waits) (i : Input × Int) : Prop :=
  ∀ env ph, i.1 = .run env → c.state.pc = .interval ph →
    1000000 * c.notes.asked ≤ i.2 - c.notes.startedAt

variable {host : ByteOrder} {kind : Kind} {s s' : Sys} {ph : Phase}

/-! ### The time of a medium -/

/-- Milliseconds added to a time. -/
theorem timespecAddMs_toNs {x : Timespec} {ms : Nat} (hx : x.Normalised) (hms : ms ≤ 1000) :
  (timespecAddMs x ms).Normalised ∧ (timespecAddMs x ms).toNs = x.toNs + 1000000 * ms
  := by
  have hfits : ms * 1000000 + 1000000000 < 2 ^ 63 := nanoseconds_lt_of_le hms (by decide)
  refine ⟨normalised_timespecAddMs hx hfits, ?_⟩
  rw [toNs_timespecAddMs hx hfits, mul_comm]

/-- The phase of the call of `interval` a place is in. -/
def Pc.waiting : Pc → Option Phase
  | .epollWait ph _ => some ph
  | .poll ph _ => some ph
  | .timeLeft ph _ => some ph
  | _ => none

/-- What a step does to the time of a medium: the clock is read, the timer is set, or the time stays
as it is, on the way to places that are in no other call of `interval`. -/
inductive TimeNext : Sys → Input → Sys → Prop where
  | start {m : Medium} {env : Env} {curTime : Timespec} :
      TimeNext ⟨.start, m⟩ (.run env) ⟨.outer, { m with state := .idle, curTime }⟩
  | interval {m : Medium} {env : Env} {ph : Phase} :
      TimeNext ⟨.interval ph, m⟩ (.run env) ⟨.epollWait ph ph.waitms, m.arm ph.waitms⟩
  | stay {m m' : Medium} {pc : Pc} {i : Input} : m'.curTime = m.curTime →
      TimeNext ⟨pc, m⟩ i ⟨pc, m'⟩
  | go {m m' : Medium} {pc pc' : Pc} {i : Input} : m'.curTime = m.curTime →
      (pc ≠ .start ∧ pc' ≠ .start ∧ (∀ ph, pc ≠ .interval ph) ∧
        ∀ ph, pc'.waiting = some ph → pc.waiting = some ph) →
      TimeNext ⟨pc, m⟩ i ⟨pc', m'⟩

theorem apply_curTime (m : Medium) (eff : Effect) :
  (eff.apply m).curTime = m.curTime
  := by
  cases eff with
  | dispose map key p n => cases map <;> rfl
  | _ => rfl

theorem effects_curTime {m m' : Medium} {effs : List Effect} (h : Effects m effs m') :
  m'.curTime = m.curTime
  := by
  induction h with
  | nil => rfl
  | cons _ _ ih => rw [ih, apply_curTime]

theorem timeNext_of_next {i : Input} (h : Next host kind s i s') :
  TimeNext s i s'
  := by
  cases h with
  | start => apply TimeNext.start
  | interval => apply TimeNext.interval
  | add => exact .stay (apply_curTime ..)
  | stop => exact .stay rfl
  | move hmove =>
      refine .go rfl ?_
      cases hmove <;> simp [Pc.waiting]
  | poll | answer | collide | conclude =>
      refine .go (apply_curTime ..) ?_
      simp [Pc.waiting]
  | unblocked | mark | resetIdle | exiting =>
      refine .go rfl ?_
      simp [Pc.waiting]
  | sweep heffs =>
      refine .go (effects_curTime heffs) ?_
      simp [Pc.waiting]
  | delete heffs _ heffs' =>
      refine .go ((effects_curTime heffs').trans (effects_curTime heffs)) ?_
      simp [Pc.waiting]

/-- The thread leaves the entry of `run` with the time it has read. -/
theorem start_reads {m m' : Medium} {env : Env}
    (hstep : Sys.step host kind ⟨.start, m⟩ (.run env) = .ok ⟨.outer, m'⟩) :
  env.clockGettime = some m'.curTime
  := by
  cases hclock : env.clockGettime with
  | none => simp [Sys.step, stepProg, runStep, setState, hclock] at hstep
  | some curTime =>
      simp [Sys.step, stepProg, runStep, setState, hclock] at hstep
      rw [← hstep]

theorem note_stay (pc : Pc) (m m' : Medium) (i : Input) (now : Int) (w : Waits) :
  w.note ⟨pc, m⟩ i ⟨pc, m'⟩ now = w
  := by
  cases pc <;> rfl

theorem note_go {pc : Pc} (hstart : pc ≠ .start) (hinterval : ∀ ph, pc ≠ .interval ph) (pc' : Pc)
    (m m' : Medium) (i : Input) (now : Int) (w : Waits) :
  w.note ⟨pc, m⟩ i ⟨pc', m'⟩ now = w
  := by
  cases pc with
  | start => contradiction
  | interval ph => apply absurd rfl (hinterval ph)
  | _ => rfl

/-! ### Runs -/

/-- The time of a medium that has started is the one at the start and what all calls of `interval`
have asked for. -/
structure TimeKept (c : Clocked Sys Waits) : Prop where
  started : c.state.pc ≠ .start → c.state.med.curTime.Normalised ∧
    c.state.med.curTime.toNs = c.notes.startedAt + 1000000 * c.notes.asked
  asked : c.state.pc = .start → c.notes.asked = 0

/-- While `interval` waits, its timer is set for no later than the end of the wait. -/
def Awaited (c : Clocked Sys Waits) : Prop :=
  ∀ ph, c.state.pc.waiting = some ph → c.notes.calledAt ≤ c.now ∧
    c.state.med.curTime.toNs ≤ c.notes.calledAt + 1000000 * ph.waitms

theorem Phase.waitms_le (ph : Phase) :
  ph.waitms ≤ 1000
  := by
  cases ph <;> decide

variable {c c' : Clocked Sys Waits} {i : Input × Int}

theorem TimeKept.step (h : TimeKept c) (henabled : (timedMedium host kind).enabled c i)
    (hstep : (timedMedium host kind).step c i = .ok c') :
  TimeKept c'
  := by
  obtain ⟨s, now, w⟩ := c
  obtain ⟨s', now', w'⟩ := c'
  obtain ⟨i, t⟩ := i
  obtain ⟨hmedium, hnow, hnotes⟩ := Machine.clocked_step hstep
  have hnext := timeNext_of_next (next_of_step henabled.2.1 hmedium)
  simp only at hnow hnotes hnext hmedium
  subst hnotes hnow
  cases hnext with
  | start =>
      obtain ⟨hnormalised, hread⟩ := henabled.2.2.1 _ (start_reads hmedium)
      have hasked : w.asked = 0 := h.asked rfl
      constructor
      · intro _
        refine ⟨hnormalised, ?_⟩
        simp [Waits.note, hread, hasked]
      · rintro ⟨⟩
  | @interval m env ph =>
      obtain ⟨hnormalised, htime⟩ := h.started Pc.noConfusion
      obtain ⟨hnormalised', hadd⟩ := timespecAddMs_toNs hnormalised ph.waitms_le
      constructor
      · intro _
        refine ⟨hnormalised', ?_⟩
        simp only at htime
        simp only [Waits.note, Medium.arm, hadd, htime]
        push_cast
        ring
      · rintro ⟨⟩
  | stay hcurTime =>
      rw [note_stay]
      constructor
      · intro hpc
        simp only [hcurTime]
        apply h.started hpc
      · apply h.asked
  | go hcurTime hplaces =>
      obtain ⟨hstart, hstart', hinterval, -⟩ := hplaces
      rw [note_go hstart hinterval]
      constructor
      · intro _
        simp only [hcurTime]
        apply h.started hstart
      · intro hpc
        apply absurd hpc hstart'

/-- The timer is set for no later than the end of the wait exactly when the calls before have taken
the time they have asked for. -/
theorem TimeKept.armed_iff (h : TimeKept c) (hpc : c.state.pc = .interval ph) (now : Int) :
  (timespecAddMs c.state.med.curTime ph.waitms).toNs ≤ now + 1000000 * ph.waitms ↔
    1000000 * c.notes.asked ≤ now - c.notes.startedAt
  := by
  have hstarted : c.state.pc ≠ .start := by
    rw [hpc]
    apply Pc.noConfusion
  obtain ⟨hnormalised, htime⟩ := h.started hstarted
  rw [(timespecAddMs_toNs hnormalised ph.waitms_le).2, htime, add_le_add_iff_right,
    le_sub_iff_add_le']

theorem Awaited.step (h : Awaited c) (hkept : TimeKept c) (htaken : TakenTime c i)
    (henabled : (timedMedium host kind).enabled c i)
    (hstep : (timedMedium host kind).step c i = .ok c') :
  Awaited c'
  := by
  obtain ⟨s, now, w⟩ := c
  obtain ⟨s', now', w'⟩ := c'
  obtain ⟨i, t⟩ := i
  obtain ⟨hmedium, hnow, hnotes⟩ := Machine.clocked_step hstep
  have hnext := timeNext_of_next (next_of_step henabled.2.1 hmedium)
  have hle : now ≤ t := henabled.1
  simp only at hnow hnotes hnext
  subst hnotes hnow
  intro ph hwaiting
  cases hnext with
  | start => cases hwaiting
  | interval =>
      cases hwaiting
      refine ⟨le_refl _, ?_⟩
      apply (hkept.armed_iff rfl _).mpr
      apply htaken _ _ rfl rfl
  | stay hcurTime =>
      rw [note_stay]
      obtain ⟨hcalled, hexpiry⟩ := h ph hwaiting
      refine ⟨hcalled.trans hle, ?_⟩
      simp only [hcurTime]
      apply hexpiry
  | go hcurTime hplaces =>
      obtain ⟨hstart, -, hinterval, hback⟩ := hplaces
      rw [note_go hstart hinterval]
      obtain ⟨hcalled, hexpiry⟩ := h ph (hback ph hwaiting)
      refine ⟨hcalled.trans hle, ?_⟩
      simp only [hcurTime]
      apply hexpiry

variable {visits : List (Clocked Sys Waits × (Input × Int))}

theorem timeKept_run (hinit : (timedMedium host kind).init c)
    (run : (timedMedium host kind).Run c visits c') :
  TimeKept c'
  := by
  apply run.always
  · obtain ⟨hstate, hnotes⟩ := hinit
    constructor
    · intro hpc
      apply absurd _ hpc
      rw [hstate]
    · intro _
      rw [hnotes]
  · apply TimeKept.step

/-- As long as the calls take the time they ask for, `interval` waits until the time its timer is
set for. -/
theorem awaited_run (hinit : (timedMedium host kind).init c)
    (run : (timedMedium host kind).Run c visits c') (htaken : ∀ v ∈ visits, TakenTime v.1 v.2) :
  Awaited c'
  := by
  have hkept : TimeKept c' ∧ Awaited c' := by
    apply run.invariant (P := fun c => TimeKept c ∧ Awaited c) _ htaken
    · intro x y i ⟨hkept, hawaited⟩ henabled htaken hstep
      exact ⟨hkept.step henabled hstep, hawaited.step hkept htaken henabled hstep⟩
    · refine ⟨timeKept_run hinit (.nil c), ?_⟩
      intro ph hwaiting
      rw [hinit.1] at hwaiting
      cases hwaiting
  apply hkept.2

/-- The intervals of a run are on time exactly when at each call of `interval` the calls before have
taken the time they have asked for. -/
theorem onTime_iff (hinit : (timedMedium host kind).init c)
    (run : (timedMedium host kind).Run c visits c') :
  OnTime visits ↔ ∀ v ∈ visits, TakenTime v.1 v.2
  := by
  constructor
  · rintro h ⟨x, i, now⟩ hv env ph hi hpc
    obtain ⟨before, hbefore, -, -⟩ := run.visited hv
    obtain rfl : i = .run env := hi
    apply ((timeKept_run hinit hbefore).armed_iff hpc now).mp
    apply h.armed x env now ph hv hpc
  · intro htaken
    constructor
    · intro x env now ph hv hpc
      obtain ⟨before, hbefore, -, -⟩ := run.visited hv
      apply ((timeKept_run hinit hbefore).armed_iff hpc now).mpr
      apply htaken _ hv env ph rfl hpc
    · intro x env now ph rv left hv hpc hleft
      obtain ⟨before, hbefore, hvisits, hle, -, hanswers⟩ := run.visited hv
      have hawaited := awaited_run hinit hbefore (by
        intro v hv
        apply htaken v (hvisits.subset (List.mem_append_left _ hv)))
      have hwaiting : x.state.pc.waiting = some ph := by
        rw [hpc]
        rfl
      obtain ⟨hcalled, hexpiry⟩ := hawaited ph hwaiting
      have hle' : x.now ≤ now := hle
      rw [hanswers.2 left hleft]
      omega

/-! ### A node that leaves -/

/-- The answers of a system that is asked for no time. -/
def untimed : Env := { Env.calm with clockGettime := none, timerGettime := none }

/-- A step of the thread in which no time is asked for, by a clock that stands still. -/
theorem reachable_go {now : Int} {w : Waits} (env : Env)
    (h : (timedMedium host kind).Reachable ⟨s, now, w⟩) (henabled : s.Enabled (.run env))
    (hclock : env.clockGettime = none) (hleft : env.timerGettime = none)
    (hstep : s.step host kind (.run env) = .ok s') :
  (timedMedium host kind).Reachable ⟨s', now, w.note s (.run env) s' now⟩
  := by
  refine h.at (i := Input.run env) (le_refl now) henabled ?_ hstep
  constructor
  · intro t ht
    rw [hclock] at ht
    cases ht
  · intro left ht
    rw [hleft] at ht
    cases ht

theorem clockAnswers_untimed (c : Clocked Sys Waits) :
  ClockAnswers c (.run untimed) 0
  := by
  constructor
  · rintro t ⟨⟩
  · rintro left ⟨⟩

/-- The answers when the thread starts at the origin of the clock. -/
def starting : Env := { Env.calm with timerGettime := none }

theorem clockAnswers_starting (c : Clocked Sys Waits) :
  ClockAnswers c (.run starting) 0
  := by
  constructor
  · rintro t ⟨⟩
    exact ⟨⟨by decide, by decide⟩, rfl⟩
  · rintro left ⟨⟩

/-- The first call of `interval` is on time. -/
theorem onTime_first :
  ∃ c c' visits, (timedMedium .little .powerline).init c ∧
    (timedMedium .little .powerline).Run c visits c' ∧
    (∃ v ∈ visits, v.1.state.pc = .interval .idle) ∧ OnTime visits
  := by
  have hinit : (timedMedium .little .powerline).init ⟨⟨.start, Medium.new⟩, 0, ⟨0, 0, 0⟩⟩ :=
    ⟨rfl, rfl⟩
  have houter : (timedMedium .little .powerline).Run ⟨⟨.start, Medium.new⟩, 0, ⟨0, 0, 0⟩⟩ _
      ⟨⟨.outer, Medium.idle⟩, 0, ⟨0, 0, 0⟩⟩ :=
    (Machine.Run.nil _).snoc (i := (Input.run starting, 0))
      ⟨le_refl 0, trivial, clockAnswers_starting _⟩ rfl
  have hinterval : (timedMedium .little .powerline).Run _ _
      ⟨⟨.interval .idle, Medium.idle⟩, 0, ⟨0, 0, 0⟩⟩ :=
    houter.snoc (i := (Input.run untimed, 0)) ⟨le_refl 0, trivial, clockAnswers_untimed _⟩ rfl
  have hwait : (timedMedium .little .powerline).Run _ _
      ⟨⟨.epollWait .idle 1000, Medium.idle.arm 1000⟩, 0, ⟨0, 0, 1000⟩⟩ :=
    hinterval.snoc (i := (Input.run untimed, 0)) ⟨le_refl 0, trivial, clockAnswers_untimed _⟩ rfl
  refine ⟨_, _, _, hinit, hwait, ?_, ?_⟩
  · refine ⟨_, List.mem_append_right _ (List.mem_singleton_self _), rfl⟩
  · apply (onTime_iff hinit hwait).mpr
    intro v hv env ph hi hpc
    simp only [List.nil_append, List.cons_append, List.mem_cons, List.not_mem_nil, or_false] at hv
    rcases hv with rfl | rfl | rfl
    · cases hpc
    · cases hpc
    · exact le_refl _

/-- When the node that has been added to the map is taken out again, the map is empty. -/
theorem walk_left :
  PMap.Walk (((PMap.empty : PMap UInt64 NodePtr).insert 7 1).erase 7) []
  := by
  refine ⟨List.nodup_nil, ?_⟩
  intro k
  have hinsert : (PMap.empty : PMap UInt64 NodePtr).insert 7 1
      = Function.update PMap.empty 7 (some 1) := PMap.insert_new 1 rfl
  rw [hinsert]
  by_cases hk : k = 7
  · simp [hk]
  · simp [PMap.erase_ne _ hk, hk]

/-- The first call of `interval` is left at once, when a node that has just joined has closed its
connection. -/
theorem reachable_second :
  ∃ m, m.curTime = ⟨1, 0⟩ ∧ (timedMedium .little .powerline).Reachable
    ⟨⟨.interval .idle, m⟩, 0, ⟨0, 0, 1000⟩⟩
  := by
  have hstart : (timedMedium .little .powerline).Reachable
      ⟨⟨.start, Medium.new⟩, 0, ⟨0, 0, 0⟩⟩ := .initial ⟨rfl, rfl⟩
  have houter := hstart.at (i := Input.run starting) (le_refl 0) trivial
    (clockAnswers_starting _) rfl
  have hjoined := houter.at (i := Input.addNode .calm 1 7) (le_refl 0)
    ⟨Pc.noConfusion, fresh_idle 1 7⟩ trivial rfl
  have hinterval := reachable_go untimed hjoined trivial rfl rfl rfl
  have hwait := reachable_go untimed hinterval trivial rfl rfl rfl
  have hreport := reachable_go { untimed with epollWait := .ready [closeEvent 1] } hwait (by
    rintro evs ⟨⟩
    apply reportable_node rfl
    apply List.mem_singleton_self) rfl rfl rfl
  have hclosed := reachable_go untimed hreport trivial rfl rfl rfl
  have hpolled := reachable_go untimed hclosed trivial rfl rfl rfl
  have hmark := reachable_go untimed hpolled trivial rfl rfl rfl
  have hassess := reachable_go untimed hmark trivial rfl rfl rfl
  have hinner := reachable_go untimed hassess trivial rfl rfl rfl
  have hleft := reachable_go untimed hinner trivial rfl rfl rfl
  have hreset := reachable_go untimed hleft trivial rfl rfl rfl
  have hcheck := reachable_go untimed hreset trivial rfl rfl rfl
  have hagain := reachable_go untimed hcheck walk_left rfl rfl rfl
  have hagain' := reachable_go untimed hagain trivial rfl rfl rfl
  have hsecond := reachable_go untimed hagain' trivial rfl rfl rfl
  refine ⟨_, ?_, hsecond⟩
  rfl

/-- The second call of `interval` sets the timer for the end of two waits. -/
theorem second_call_late :
  ∃ c c' visits, (timedMedium .little .powerline).init c ∧
    (timedMedium .little .powerline).Run c visits c' ∧ ¬ OnTime visits
  := by
  obtain ⟨m, hcurTime, c, visits, hinit, run, -⟩ := reachable_second
  have hstep : (timedMedium .little .powerline).step ⟨⟨.interval .idle, m⟩, 0, ⟨0, 0, 1000⟩⟩
      (.run untimed, 0) = .ok ⟨⟨.epollWait .idle 1000, m.arm 1000⟩, 0, ⟨0, 0, 2000⟩⟩ := rfl
  have hrun := run.snoc (i := (Input.run untimed, 0))
    ⟨le_refl 0, trivial, clockAnswers_untimed _⟩ hstep
  refine ⟨c, _, _, hinit, hrun, ?_⟩
  intro h
  have harmed := h.armed _ untimed 0 .idle (List.mem_append_right _ (List.mem_singleton_self _)) rfl
  simp only [hcurTime] at harmed
  have hlate : ¬ (timespecAddMs ⟨1, 0⟩ Phase.idle.waitms).toNs
      ≤ 0 + 1000000 * (Phase.idle.waitms : Int) := by
    decide
  apply hlate harmed

end X6losim
