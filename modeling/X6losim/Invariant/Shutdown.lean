import X6losim.Invariant.Request
import Mathlib.Data.FinEnum

/-!
# The end of the program

The destructor of the simulator stops the media, waits for their threads and deletes the media.  It
comes to its end when the threads keep the requests to stop; and a request that is overwritten
leaves the main thread waiting for ever.
-/

open Bytes

namespace X6losim

variable {host : ByteOrder} {kind k : Kind} {s s' : Program} {i : ProgramInput}
  {visits : List (Program × ProgramInput)}

/-! ### The threads of the media -/

/-- A thread that is about to exit has been asked to. -/
def Sys.Leaving (x : Sys) : Prop := x.pc = .exiting → x.med.state = .stopping

theorem Sys.Leaving.next {x x' : Sys} {j : Input} (h : x.Leaving) (hnext : Next host kind x j x') :
  x'.Leaving
  := by
  cases hnext with
  | move hmove =>
      cases hmove with
      | idleStopping hstop => exact fun _ => hstop
      | againStopping hstop => exact fun _ => hstop
      | _ => simp [Leaving]
  | add => apply h
  | stop => exact fun _ => rfl
  | _ => simp [Leaving]

/-- What a step of the program does to the place and the state variable of a medium. -/
theorem Program.InOrder.medium_next (h : s.InOrder) (hnext : ProgramNext host s i s') (k : Kind) :
  s'.sim.medium k = ⟨.start, Medium.new⟩ ∨
    ((s'.sim.medium k).pc = (s.sim.medium k).pc ∧
      (s'.sim.medium k).med.state = (s.sim.medium k).med.state) ∨
    ∃ j, Next host k (s.sim.medium k) j (s'.sim.medium k)
  := by
  cases hnext with
  | construct => exact Or.inl rfl
  | setup _ hsetup =>
      right; left
      apply steady_medium (startStep_steady hsetup) k
  | accepting _ _ _ _ haccepting =>
      right; left
      apply steady_medium (startStep_steady haccepting) k
  | @stopMedium env j sys hpc hstop =>
      right
      by_cases hk : k = j
      · subst hk
        right
        rw [thread_medium_self]
        have hkept : (s.sim.medium k).pc ≠ .deleted := h.kept k (by rw [hpc]; rfl)
        exact ⟨_, next_of_step (i := .stop) hkept hstop⟩
      · left
        simp [thread_medium_other _ _ hk]
  | @deleteMedium env j sys hpc hreg hhash hdelete =>
      right
      by_cases hk : k = j
      · subst hk
        right
        rw [thread_medium_self]
        have hkept : (s.sim.medium k).pc ≠ .deleted := h.kept k (by rw [hpc]; cases k <;> rfl)
        have hexited := (h.joined k (by rw [hpc]; rfl)).resolve_right hkept
        exact ⟨_, next_of_step (i := .deleteMedium env.medium) ⟨hexited, hreg, hhash⟩ hdelete⟩
      · left
        simp [thread_medium_other _ _ hk]
  | @thread j env sys hpc hstarted hrun hpolls hstep =>
      right
      by_cases hk : k = j
      · subst hk
        right
        rw [thread_medium_self]
        exact ⟨_, next_of_step hrun hstep⟩
      · left
        simp [thread_medium_other _ _ hk]
  | _ => exact Or.inr (Or.inl ⟨rfl, rfl⟩)

/-- The threads of the media are in order, and have been started. -/
structure Program.Underway (s : Program) : Prop where
  returned : ∀ k, (s.sim.medium k).pc.Returned
  leaving : ∀ k, (s.sim.medium k).Leaving
  first : s.pc = .startMedium .wireless → s.started .powerline
  started : s.pc.hasSimulator → ∀ k, s.started k

theorem Program.Underway.next (h : s.Underway) (horder : s.InOrder)
    (hnext : ProgramNext host s i s') :
  s'.Underway
  := by
  have hmedium := horder.medium_next hnext
  constructor
  · intro k
    rcases hmedium k with hnew | ⟨hpc, -⟩ | ⟨j, hj⟩
    · rw [hnew]
      trivial
    · rw [hpc]
      apply h.returned
    · apply (h.returned k).next hj
  · intro k
    rcases hmedium k with hnew | ⟨hpc, hstate⟩ | ⟨j, hj⟩
    · rw [hnew]
      simp [Sys.Leaving]
    · rw [Sys.Leaving, hpc, hstate]
      apply h.leaving
    · apply (h.leaving k).next hj
  · cases hnext with
    | startMedium k hpc => cases k <;> simp [hpc, ProgramPc.after]
    | @stopMedium env k sys hpc => cases k <;> simp [hpc, ProgramPc.after]
    | joined k hpc => cases k <;> simp [hpc, ProgramPc.after]
    | @deleteMedium env k sys hpc => cases k <;> simp [hpc, ProgramPc.after]
    | thread => exact h.first
    | ignored => exact h.first
    | told => exact h.first
    | unblocked => exact h.first
    | _ => simp
  · cases hnext with
    | construct => simp [ProgramPc.hasSimulator]
    | failed => simp [ProgramPc.hasSimulator]
    | startMedium k hpc =>
        cases k with
        | powerline => simp [hpc, ProgramPc.after, ProgramPc.hasSimulator]
        | wireless =>
            intro _ j
            cases j with
            | powerline => simpa using h.first hpc
            | wireless => simp
    | exit => simp [ProgramPc.hasSimulator]
    | thread => exact h.started
    | ignored => exact h.started
    | told => exact h.started
    | unblocked => exact h.started
    | leave hpc =>
        intro _
        apply h.started
        rcases hpc with hpc | ⟨text, hpc⟩
        · rw [hpc]
          rfl
        · rw [hpc]
          rfl
    | setup hpc | accepting hpc | stopMedium hpc | joined _ hpc | deleteMedium hpc =>
        intro _
        apply h.started
        rw [hpc]
        rfl

/-- A step of the main thread or of the thread of a medium. -/
def ProgramInput.goesOn : ProgramInput → Bool
  | main _ => true
  | thread _ _ => true
  | _ => false

/-- The thread of a medium overwrites the request to stop. -/
def Program.Overwritten (s : Program) (i : ProgramInput) : Prop :=
  ∃ k env, i = .thread k env ∧ Overwrites (s.sim.medium k) (.run env)

/-- The steps that are left to the main thread and to the threads of the media. -/
def Program.stepsToExit (s : Program) : Nat :=
  s.pc.stepsToExit + (s.sim.medium .powerline).pc.stepsToExit (s.sim.medium .powerline).med +
    (s.sim.medium .wireless).pc.stepsToExit (s.sim.medium .wireless).med

/-- The media have been stopped, and the requests are still there. -/
structure Program.Ending (s : Program) : Prop where
  main : s.pc.stepsToExit ≤ 5
  requested : ∀ k, (s.sim.medium k).Stopping

theorem Program.Ending.requested_thread {sys : Sys} (h : s.Ending) (hsys : sys.Stopping)
    (j : Kind) :
  ((s.sim.thread k sys).medium j).Stopping
  := by
  by_cases hj : j = k
  · subst hj
    rw [thread_medium_self]
    apply hsys
  · rw [thread_medium_other _ _ hj]
    apply h.requested

/-- The steps that are left when a medium goes on. -/
theorem stepsToExit_medium {sys : Sys} {pc : ProgramPc} {n m : Nat}
    (hpc : pc.stepsToExit + n ≤ s.pc.stepsToExit)
    (hsys : sys.pc.stepsToExit sys.med + m ≤
      (s.sim.medium k).pc.stepsToExit (s.sim.medium k).med) :
  Program.stepsToExit { s with pc, sim := s.sim.thread k sys } + (n + m) ≤ s.stepsToExit
  := by
  cases k with
  | powerline =>
      simp only [Program.stepsToExit, thread_medium_self,
        thread_medium_other _ _ (show Kind.wireless ≠ .powerline by simp)]
      omega
  | wireless =>
      simp only [Program.stepsToExit, thread_medium_self,
        thread_medium_other _ _ (show Kind.powerline ≠ .wireless by simp)]
      omega

/-- A step that overwrites no request brings the program nearer to its exit. -/
theorem Program.Ending.next (h : s.Ending) (hunderway : s.Underway)
    (hkept : ¬ s.Overwritten i) (hnext : ProgramNext host s i s') :
  s'.Ending ∧ s'.stepsToExit + (if i.goesOn then 1 else 0) ≤ s.stepsToExit
  := by
  have hmain := h.main
  cases hnext with
  | construct _ hpc | setup hpc | accepting hpc => simp [hpc, ProgramPc.stepsToExit] at hmain
  | failed hpc =>
      rcases hpc with hpc | ⟨k, hpc⟩
      · simp [hpc, ProgramPc.stepsToExit] at hmain
      · cases k <;> simp [hpc, ProgramPc.stepsToExit] at hmain
  | startMedium k hpc => cases k <;> simp [hpc, ProgramPc.stepsToExit] at hmain
  | leave hpc =>
      rcases hpc with hpc | ⟨text, hpc⟩
      · simp [hpc, ProgramPc.stepsToExit] at hmain
      · simp [hpc, ProgramPc.stepsToExit] at hmain
  | @stopMedium env k sys hpc => cases k <;> simp [hpc, ProgramPc.stepsToExit] at hmain
  | joined k hpc =>
      have hafter : s.pc.after.stepsToExit + 1 = s.pc.stepsToExit := by
        cases k <;> simp [hpc, ProgramPc.after, ProgramPc.stepsToExit]
      refine ⟨⟨by simp only; omega, h.requested⟩, ?_⟩
      simp only [Program.stepsToExit, ProgramInput.goesOn, if_true]
      omega
  | @deleteMedium env k sys hpc hreg hhash hdelete =>
      have hafter : s.pc.after.stepsToExit + 1 = s.pc.stepsToExit := by
        cases k <;> simp [hpc, ProgramPc.after, ProgramPc.stepsToExit]
      have hdeleted := deleteMedium_pc hdelete
      have hsys : sys.pc.stepsToExit sys.med = 0 := by
        rw [hdeleted]
        rfl
      refine ⟨⟨by simp only; omega, h.requested_thread (Or.inr (Or.inr hdeleted))⟩,
        stepsToExit_medium (n := 1) (m := 0) (by omega) (by omega)⟩
  | exit constructed hpc =>
      refine ⟨⟨by simp [ProgramPc.stepsToExit], h.requested⟩, ?_⟩
      simp only [Program.stepsToExit, ProgramInput.goesOn, if_true, hpc, ProgramPc.stepsToExit]
      omega
  | @thread k env sys hpc hstarted hrun hpolls hstep =>
      have hover : ¬ Overwrites (s.sim.medium k) (.run env) := fun hover =>
        hkept ⟨k, env, rfl, hover⟩
      obtain ⟨hstopping, hle⟩ := (h.requested k).next (hunderway.returned k) hover
        (next_of_step hrun hstep)
      refine ⟨⟨h.main, h.requested_thread hstopping⟩, ?_⟩
      apply stepsToExit_medium (n := 0) (m := 1) (le_refl _) hle
  | ignored => exact ⟨h, le_refl _⟩
  | told => exact ⟨⟨h.main, h.requested⟩, le_refl _⟩
  | unblocked => exact ⟨⟨h.main, h.requested⟩, le_refl _⟩

/-! ### Calls that wait -/

/-- The thread of a medium is about to call `recv` on the socket of a node, which is blocking, and
there is nothing for one of the two calls: it waits until the node has sent more. -/
inductive Sys.RecvWaits : Sys → Prop where
  | event {ph : Phase} {ev : PollEvent} {evs : List PollEvent} {m : Medium} {p : NodePtr} :
      ev.data = .node p → ev.rdhup = false → ev.input → ev.delivery.first = none ∨
        ev.delivery.body = none → RecvWaits ⟨.poll ph (ev :: evs), m⟩

/-- A step of the thread of a medium waits in `recv`, or in `send`, where there is no room on the
socket of a node for what it sends. -/
def Program.Waits (host : ByteOrder) (full : Kind → NodePtr → Prop) (s : Program)
    (i : ProgramInput) : Prop :=
  ∃ k env, i = .thread k env ∧ ((s.sim.medium k).RecvWaits ∨
    ∃ sys p, (s.sim.medium k).step host k (.run env) = .ok sys ∧ full k p ∧
      sentTo p sys.med.log ≠ sentTo p (s.sim.medium k).med.log)

/-- The main thread waits for the thread of a medium, now or later, and nothing is there that would
tell the thread to stop. -/
structure Program.Hangs (s : Program) (k : Kind) : Prop where
  main : s.pc = .waitForExit .powerline ∨ s.pc = .waitForExit k
  quiet : s.unblock + s.stops = 0
  untold : ¬ s.Tells k

/-- Without a signal the main thread goes on waiting. -/
theorem Program.Hangs.next (h : s.Hangs k) (hsignal : ∀ signum, i ≠ .signal signum)
    (hnext : ProgramNext host s i s') :
  s'.Hangs k
  := by
  have hmain := h.main
  have hquiet := h.quiet
  cases hnext with
  | construct _ hpc | setup hpc | accepting hpc | stopMedium hpc | deleteMedium hpc
  | exit _ hpc | startMedium _ hpc => simp [hpc] at hmain
  | failed hpc =>
      rcases hpc with hpc | ⟨k, hpc⟩
      · simp [hpc] at hmain
      · simp [hpc] at hmain
  | leave hpc =>
      rcases hpc with hpc | ⟨text, hpc⟩
      · simp [hpc] at hmain
      · simp [hpc] at hmain
  | joined j hpc hexited =>
      have hjk : j ≠ k := by
        rintro rfl
        apply h.untold (Or.inl (Or.inr (Or.inr (Or.inl hexited))))
      rw [hpc] at hmain
      refine ⟨Or.inr ?_, hquiet, h.untold⟩
      rcases hmain with hj | hj
      · cases hj
        cases k with
        | powerline => apply absurd rfl hjk
        | wireless => simp [hpc, ProgramPc.after]
      · cases hj
        apply absurd rfl hjk
  | @thread j env sys hpc hstarted hrun hpolls hstep =>
      refine ⟨hmain, hquiet, ?_⟩
      intro htold
      by_cases hk : k = j
      · subst hk
        simp only [Tells, thread_medium_self] at htold
        rcases told_of_run hrun hstep htold with hsys | hsees | ⟨evs, hevs, ev, hev, hunblock⟩
        · apply h.untold (Or.inl hsys)
        · apply h.untold (Or.inr hsees)
        · have hbyte := (hpolls evs hevs ev hev hunblock).2
          omega
      · apply h.untold
        simpa [Tells, thread_medium_other _ _ hk] using htold
  | ignored => apply h
  | told => apply absurd rfl (hsignal _)
  | unblocked hstops => omega

/-- A request has been overwritten, and the thread has not been told in another way. -/
theorem Overwrites.untold {x x' : Sys} {j : Input} (h : Overwrites x j)
    (hnext : Next host kind x j x') :
  ¬ (x'.Told ∨ x'.pc.SeesUnblocker)
  := by
  cases h with
  | start =>
      cases hnext with
      | move hmove => cases hmove
      | start => simp [Sys.Told, Pc.SeesUnblocker]
  | mark _ hne =>
      cases hnext with
      | move hmove =>
          cases hmove with
          | noMark hnil => apply absurd hnil hne
      | mark => simp [Sys.Told, Pc.SeesUnblocker]
  | resetIdle =>
      cases hnext with
      | move hmove => cases hmove
      | resetIdle => simp [Sys.Told, Pc.SeesUnblocker]

/-- The main thread has stopped the media, and the unblock pipe is empty. -/
structure Program.Waited (s : Program) : Prop where
  main : (∃ k, s.pc = .waitForExit k ∨ s.pc = .deleteMedium k) ∨ s.pc = .deleted true ∨
    s.pc = .exited
  quiet : s.unblock + s.stops = 0

theorem Program.Waited.next (h : s.Waited) (hsignal : ∀ signum, i ≠ .signal signum)
    (hnext : ProgramNext host s i s') :
  s'.Waited
  := by
  have hmain := h.main
  have hquiet := h.quiet
  cases hnext with
  | construct _ hpc | setup hpc | accepting hpc | stopMedium hpc | startMedium _ hpc =>
      simp [hpc] at hmain
  | failed hpc =>
      rcases hpc with hpc | ⟨k, hpc⟩
      · simp [hpc] at hmain
      · simp [hpc] at hmain
  | leave hpc =>
      rcases hpc with hpc | ⟨text, hpc⟩
      · simp [hpc] at hmain
      · simp [hpc] at hmain
  | joined k hpc => exact ⟨by cases k <;> simp [hpc, ProgramPc.after], hquiet⟩
  | @deleteMedium env k sys hpc => exact ⟨by cases k <;> simp [hpc, ProgramPc.after], hquiet⟩
  | exit => exact ⟨by simp, hquiet⟩
  | thread => exact ⟨hmain, hquiet⟩
  | ignored => apply h
  | told => apply absurd rfl (hsignal _)
  | unblocked hstops => omega

/-- An input that is not a signal. -/
def NoSignal (_ : Program) (i : ProgramInput) : Prop := ∀ signum, i ≠ .signal signum

/-- As long as the requests to stop are kept, the program is ending, and the steps that go on are
bounded. -/
theorem Program.Ending.run {x : Program} (hx : x.Ending) (horder : x.InOrder)
    (hunderway : x.Underway) (run : (program host).Run x visits s)
    (hkept : ∀ v ∈ visits, ¬ v.1.Overwritten v.2) :
  (s.Ending ∧ s.InOrder ∧ s.Underway) ∧
    visits.countP (fun v => v.2.goesOn) + s.stepsToExit ≤ x.stepsToExit
  := by
  apply run.countP_le (P := fun y => y.Ending ∧ y.InOrder ∧ y.Underway)
    (fun y i => ¬ y.Overwritten i) ProgramInput.goesOn Program.stepsToExit
    ⟨hx, horder, hunderway⟩ hkept
  rintro y y' i ⟨hy, hyorder, hyunderway⟩ henabled hgood hstep
  have hnext := programNext_of_step henabled hstep
  obtain ⟨hy', hle⟩ := hy.next hyunderway hgood hnext
  exact ⟨⟨hy', hyorder.next hnext, hyunderway.next hyorder hnext⟩, hle⟩

/-- A program that hangs goes on to hang. -/
theorem Program.Hangs.run {x : Program} (hx : x.Hangs k) (run : (program host).Run x visits s)
    (hsignal : ∀ v ∈ visits, NoSignal v.1 v.2) :
  ∃ k, s.pc = .waitForExit k
  := by
  have hs : s.Hangs k := run.invariant (P := fun y => y.Hangs k) hx hsignal
    (fun hz henabled hgood hstep => hz.next hgood (programNext_of_step henabled hstep))
  rcases hs.main with hs | hs
  · exact ⟨_, hs⟩
  · exact ⟨_, hs⟩

/-- The program when the main thread waits for clients and the threads of the media have begun. -/
def Program.begun : Program :=
  { Program.listening with
    sim := (Simulation.listening.sim.thread .powerline ⟨.outer, Medium.idle⟩).thread .wireless
      ⟨.outer, Medium.idle⟩ }

/-- The program when a signal has made the main thread leave `start` and stop the media. -/
def Program.waiting (s : Program) : Program where
  pc := .waitForExit .powerline
  sim := (NetworkSimulator.thread { s.sim with stop := true, server := fun _ => -1 } .powerline
    ⟨(s.sim.medium .powerline).pc,
      { (s.sim.medium .powerline).med with state := .stopping }⟩).thread .wireless
    ⟨(s.sim.medium .wireless).pc, { (s.sim.medium .wireless).med with state := .stopping }⟩
  started := s.started
  unblock := 0
  stops := 0

end X6losim
