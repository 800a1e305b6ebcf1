import X6losim.Invariant.Accepted
import X6losim.Invariant.Registration
import X6losim.Sim.Program
import Mathlib.Data.FinEnum

/-!
# The way to the exit

When there are no transmissions, the main thread can get from the destructor to the end of `main`:
the threads of the media begin, are stopped and exit, and the media are deleted with their nodes.
It is said for the good steps of the program, whichever they are, as long as the steps that are
taken here are among them.
-/

open Bytes

namespace X6losim

variable {host : ByteOrder} {s : Program} {k : Kind} {Good : Program → ProgramInput → Prop}

@[simp]
theorem thread_medium_self (s : NetworkSimulator) (k : Kind) (sys : Sys) :
  (s.thread k sys).medium k = sys
  := by
  simp [NetworkSimulator.thread, NetworkSimulator.setMedium]

theorem thread_medium_other (s : NetworkSimulator) {j k : Kind} (sys : Sys) (h : j ≠ k) :
  (s.thread k sys).medium j = s.medium j
  := by
  simp [NetworkSimulator.thread, NetworkSimulator.setMedium, h]

theorem polls_calm (s : Program) :
  s.Polls .calm
  := by
  intro evs hevs ev hev
  cases hevs
  cases hev

/-- The unblock pipe can be read. -/
def AcceptEnv.unblocked : AcceptEnv where
  count := 1
  interrupted := false
  acceptFdSet fd := fd = 3
  accept _ := none

/-- What the system answers when all its calls succeed and `select` reports the unblock pipe. -/
def ProgramEnv.calm : ProgramEnv where
  construct := ⟨fun _ => some ⟨0, 1⟩, some 3, fun _ => true, fun _ => true, fun _ => true⟩
  pthreadCreate := true
  start := StartEnv.servers45 AcceptEnv.unblocked
  medium := Env.calm

/-- What the system answers when all its calls succeed and the maps are walked. -/
def Env.walking (regListWalk nodeHashWalk : List UInt64) : Env :=
  { Env.calm with regListWalk, nodeHashWalk }

/-- Steps on the way to the exit are good: those of the main thread outside the loop, and those of a
thread that does not look at its events.  The media of states reached by good steps keep the
lifecycle of nodes. -/
structure Program.LetsExit (host : ByteOrder) (Good : Program → ProgramInput → Prop) : Prop where
  main : ∀ {s : Program} {env : ProgramEnv}, s.pc ≠ .start .accepting →
    (∀ k, s.pc = .deleteMedium k → (s.sim.medium k).med.txList = []) → Good s (.main env)
  thread : ∀ {s : Program} {k : Kind} {env : Env},
    (∀ ph evs, (s.sim.medium k).pc ≠ .poll ph evs) → Good s (.thread k env)
  lifecycle : ∀ {s : Program}, (program host).Reaches Good s → ∀ k, Lifecycle (s.sim.medium k).med

/-! ### The threads -/

/-- A medium is at a place, there is no transmission, and its nodes are as given. -/
structure Sys.Rests (pc : Pc) (cells : NodePtr → NodeCell) (x : Sys) : Prop where
  pc : x.pc = pc
  txList : x.med.txList = []
  nodes : x.med.nodes = cells

/-- A state of the program in which the thread of a medium has gone on to a place. -/
def Program.At (host : ByteOrder) (Good : Program → ProgramInput → Prop) (s : Program) (k : Kind)
    (sys : Sys) : Prop :=
  ∃ sim : NetworkSimulator, (program host).Reaches Good { s with sim } ∧
    sim.medium k = sys ∧ ∀ j, j ≠ k → sim.medium j = s.sim.medium j

namespace Program.At

theorem step {pc : Pc} {m : Medium} {sys : Sys} (h : s.At host Good k ⟨pc, m⟩)
    (hgood : LetsExit host Good) (hmain : s.pc ≠ .exited) (hstarted : s.started k)
    (hpoll : ∀ ph evs, pc ≠ .poll ph evs) (henabled : Sys.Enabled ⟨pc, m⟩ (.run .calm))
    (hstep : Sys.step host k ⟨pc, m⟩ (.run .calm) = .ok sys) :
  s.At host Good k sys
  := by
  obtain ⟨sim, reached, hk, hother⟩ := h
  refine ⟨sim.thread k sys, ?_, thread_medium_self .., ?_⟩
  · apply reached.step (i := .thread k .calm)
    · refine ⟨hmain, hstarted, ?_, polls_calm _⟩
      rw [hk]
      apply henabled
    · apply hgood.thread
      rw [hk]
      apply hpoll
    · simp only [program, Program.step, hk, hstep]
  · intro j hj
    rw [thread_medium_other _ _ hj]
    apply hother j hj

/-- The thread of a medium begins. -/
theorem begins {m : Medium} (h : s.At host Good k ⟨.start, m⟩) (hgood : LetsExit host Good)
    (hmain : s.pc ≠ .exited) (hstarted : s.started k) :
  s.At host Good k ⟨.outer, { m with state := .idle, curTime := ⟨0, 0⟩ }⟩
  := h.step hgood hmain hstarted (by simp) trivial rfl

/-- A thread that has been stopped between two rounds, with no transmission, exits. -/
theorem exits {m : Medium} (h : s.At host Good k ⟨.outer, m⟩) (hgood : LetsExit host Good)
    (hmain : s.pc ≠ .exited) (hstarted : s.started k) (hstate : m.state = .stopping)
    (htxList : m.txList = []) :
  s.At host Good k ⟨.exited, { m with state := .stopped }⟩
  := by
  have hinner : s.At host Good k ⟨.inner, m⟩ := h.step hgood hmain hstarted (by simp) trivial
    (by simp [Sys.step, stepProg, runStep, hstate])
  have hleft : s.At host Good k ⟨.left, m⟩ := hinner.step hgood hmain hstarted (by simp) trivial
    (by simp [Sys.step, stepProg, runStep, htxList])
  have hagain : s.At host Good k ⟨.again, m⟩ := hleft.step hgood hmain hstarted (by simp) trivial
    (by simp [Sys.step, stepProg, runStep, hstate])
  have hexiting : s.At host Good k ⟨.exiting, m⟩ :=
    hagain.step hgood hmain hstarted (by simp) trivial
      (by simp [Sys.step, stepProg, runStep, hstate])
  exact hexiting.step hgood hmain hstarted (by simp) trivial rfl

/-- What each of the threads can reach, all of them can. -/
theorem each {P Q : Kind → Sys → Prop} (reached : (program host).Reaches Good s)
    (hP : ∀ k, P k (s.sim.medium k))
    (hQ : ∀ (sim : NetworkSimulator) (k : Kind), (program host).Reaches Good { s with sim } →
      P k (sim.medium k) → ∃ sys, Q k sys ∧ Program.At host Good { s with sim } k sys) :
  ∃ sim : NetworkSimulator, (program host).Reaches Good { s with sim } ∧ ∀ k, Q k (sim.medium k)
  := by
  obtain ⟨sys, hsys, sim, hreached, hhan, hother⟩ := hQ s.sim .powerline reached (hP .powerline)
  have hair : P .wireless (sim.medium .wireless) := by
    rw [hother _ (by simp)]
    apply hP
  obtain ⟨sys', hsys', sim', hreached', hair', hother'⟩ := hQ sim .wireless hreached hair
  refine ⟨sim', hreached', ?_⟩
  intro k
  cases k with
  | powerline =>
      rw [hother' _ (by simp), hhan]
      apply hsys
  | wireless =>
      rw [hair']
      apply hsys'

/-- Both threads begin. -/
theorem both_begin {cells : Kind → NodePtr → NodeCell} (hgood : LetsExit host Good)
    (reached : (program host).Reaches Good s) (hmain : s.pc ≠ .exited)
    (hstarted : ∀ k, s.started k) (hstart : ∀ k, (s.sim.medium k).Rests .start (cells k)) :
  ∃ sim : NetworkSimulator, (program host).Reaches Good { s with sim } ∧
    ∀ k, (sim.medium k).Rests .outer (cells k)
  := by
  apply each (P := fun k => Sys.Rests .start (cells k)) reached hstart
  intro sim k hreached hk
  generalize hx : sim.medium k = x at hk
  obtain ⟨pc, m⟩ := x
  obtain ⟨rfl, htxList, hnodes⟩ := hk
  have hat : Program.At host Good { s with sim } k ⟨.start, m⟩ :=
    ⟨sim, hreached, hx, fun _ _ => rfl⟩
  refine ⟨_, ?_, hat.begins hgood hmain (hstarted k)⟩
  exact ⟨rfl, htxList, hnodes⟩

/-- Both threads exit when they have been stopped. -/
theorem both_exit {cells : Kind → NodePtr → NodeCell} (hgood : LetsExit host Good)
    (reached : (program host).Reaches Good s) (hmain : s.pc ≠ .exited)
    (hstarted : ∀ k, s.started k)
    (hstopped : ∀ k, (s.sim.medium k).Rests .outer (cells k) ∧
      (s.sim.medium k).med.state = .stopping) :
  ∃ sim : NetworkSimulator, (program host).Reaches Good { s with sim } ∧
    ∀ k, (sim.medium k).Rests .exited (cells k)
  := by
  apply each (P := fun k x => x.Rests .outer (cells k) ∧ x.med.state = .stopping) reached hstopped
  intro sim k hreached hk
  generalize hx : sim.medium k = x at hk
  obtain ⟨pc, m⟩ := x
  obtain ⟨⟨rfl, htxList, hnodes⟩, hstate⟩ := hk
  have hat : Program.At host Good { s with sim } k ⟨.outer, m⟩ :=
    ⟨sim, hreached, hx, fun _ _ => rfl⟩
  refine ⟨_, ?_, hat.exits hgood hmain (hstarted k) hstate htxList⟩
  exact ⟨rfl, htxList, hnodes⟩

end Program.At

/-! ### The main thread -/

theorem stop_reaches (hgood : Program.LetsExit host Good)
    (reached : (program host).Reaches Good s) (hpc : s.pc = .stopMedium k) :
  (program host).Reaches Good { s with
    pc := s.pc.after
    sim := s.sim.thread k
      ⟨(s.sim.medium k).pc, { (s.sim.medium k).med with state := .stopping }⟩ }
  := by
  apply reached.step (i := .main .calm)
  · simp [program, Program.Enabled, hpc]
  · apply hgood.main
    · simp [hpc]
    · simp [hpc]
  · simp [program, Program.step, Program.main, hpc, Program.call, Sys.step, stepProg, setState]

theorem join_reaches (hgood : Program.LetsExit host Good)
    (reached : (program host).Reaches Good s) (hpc : s.pc = .waitForExit k)
    (hexited : (s.sim.medium k).pc = .exited) :
  (program host).Reaches Good { s with pc := s.pc.after }
  := by
  apply reached.step (i := .main .calm)
  · simpa [program, Program.Enabled, hpc] using hexited
  · apply hgood.main
    · simp [hpc]
    · simp [hpc]
  · simp only [program, Program.step, Program.main, hpc]

/-- A medium has been deleted, and the nodes it had have been destroyed. -/
structure Sys.Gone (cells : NodePtr → NodeCell) (x : Sys) : Prop where
  pc : x.pc = .deleted
  destroyed : ∀ p, cells p ≠ .unborn → x.med.nodes p = .destroyed

theorem delete_reaches {pc : Pc} {cells : NodePtr → NodeCell}
    (hgood : Program.LetsExit host Good) (reached : (program host).Reaches Good s)
    (hpc : s.pc = .deleteMedium k) (hrests : (s.sim.medium k).Rests pc cells) :
  ∃ sys : Sys, sys.Gone cells ∧ (program host).Reaches Good
    { s with pc := s.pc.after, sim := s.sim.thread k sys }
  := by
  obtain ⟨reg, hreg⟩ := (s.sim.medium k).med.regListMap.exists_walk
  obtain ⟨hash, hhash⟩ := (s.sim.medium k).med.nodeHashMap.exists_walk
  obtain ⟨m, hdelete, -, hnodes, hnone⟩ : ∃ m,
      deleteMedium (Env.walking reg hash) (s.sim.medium k).med = .ok () m ∧ _ :=
    deleteMedium_destroys (hgood.lifecycle reached k) hreg hhash
  refine ⟨⟨.deleted, m⟩, ⟨rfl, ?_⟩, ?_⟩
  · intro p hp
    rcases hnodes p with hkept | ⟨-, hdestroyed⟩
    · rw [← hrests.nodes, ← hkept] at hp
      cases hcell : m.nodes p with
      | unborn => apply absurd hcell hp
      | live n => apply absurd hcell (hnone p n)
      | destroyed => rfl
    · apply hdestroyed
  · apply reached.step (i := .main { ProgramEnv.calm with medium := Env.walking reg hash })
    · simp only [program, Program.Enabled, hpc]
      exact ⟨hreg, hhash⟩
    · apply hgood.main
      · simp [hpc]
      · intro j hj
        rw [hpc] at hj
        cases hj
        apply hrests.txList
    · simp [program, Program.step, Program.main, hpc, Program.call, Sys.step, stepProg, hdelete]

/-- The main thread stops both media. -/
theorem both_stopped (hgood : Program.LetsExit host Good)
    (reached : (program host).Reaches Good s) (hpc : s.pc = .stopMedium .powerline) :
  ∃ sim : NetworkSimulator,
    (program host).Reaches Good { s with pc := .waitForExit .powerline, sim } ∧
    ∀ k, sim.medium k
      = ⟨(s.sim.medium k).pc, { (s.sim.medium k).med with state := .stopping }⟩
  := by
  have hstopped := stop_reaches (k := .wireless) hgood (stop_reaches hgood reached hpc)
    (by simp [hpc, ProgramPc.after])
  simp only [hpc, ProgramPc.after] at hstopped
  refine ⟨_, hstopped, ?_⟩
  intro k
  cases k with
  | powerline => rw [thread_medium_other _ _ (by simp), thread_medium_self]
  | wireless => rw [thread_medium_self, thread_medium_other _ _ (by simp)]

/-- The main thread deletes both media when their threads have exited. -/
theorem both_deleted {cells : Kind → NodePtr → NodeCell} (hgood : Program.LetsExit host Good)
    (reached : (program host).Reaches Good s) (hpc : s.pc = .waitForExit .powerline)
    (hexited : ∀ k, (s.sim.medium k).Rests .exited (cells k)) :
  ∃ s', (program host).Reaches Good s' ∧ s'.pc = .deleted true ∧
    ∀ k, (s'.sim.medium k).Gone (cells k)
  := by
  have hjoined := join_reaches hgood reached hpc (hexited .powerline).pc
  rw [hpc] at hjoined
  have hboth := join_reaches hgood hjoined rfl (hexited .wireless).pc
  obtain ⟨sys, hsys, hfirst⟩ := delete_reaches hgood hboth rfl (hexited .powerline)
  have hother : (s.sim.thread .powerline sys).medium .wireless = s.sim.medium .wireless :=
    thread_medium_other _ _ (by simp)
  obtain ⟨sys', hsys', hlast⟩ := delete_reaches (k := .wireless) hgood hfirst rfl (by
    simp only [hother]
    apply hexited .wireless)
  refine ⟨_, hlast, rfl, ?_⟩
  intro k
  cases k with
  | powerline =>
      rw [thread_medium_other _ _ (by simp), thread_medium_self]
      apply hsys
  | wireless =>
      rw [thread_medium_self]
      apply hsys'

/-- When there are no transmissions and the threads begin before they are stopped, the main thread
can delete the simulator, and all nodes are destroyed. -/
theorem reaches_deleted {cells : Kind → NodePtr → NodeCell} (hgood : Program.LetsExit host Good)
    (reached : (program host).Reaches Good s) (hpc : s.pc = .stopMedium .powerline)
    (hstarted : ∀ k, s.started k) (hstart : ∀ k, (s.sim.medium k).Rests .start (cells k)) :
  ∃ s', (program host).Reaches Good s' ∧ s'.pc = .deleted true ∧
    ∀ k, (s'.sim.medium k).Gone (cells k)
  := by
  obtain ⟨sim₁, hbegun, houter⟩ :=
    Program.At.both_begin hgood reached (by simp [hpc]) hstarted hstart
  obtain ⟨sim₂, htold, hstopped⟩ := both_stopped hgood hbegun hpc
  have hstopping : ∀ k, (sim₂.medium k).Rests .outer (cells k) ∧
      (sim₂.medium k).med.state = .stopping := by
    intro k
    obtain ⟨houter, htxList, hnodes⟩ := houter k
    rw [hstopped k]
    exact ⟨⟨houter, htxList, hnodes⟩, rfl⟩
  obtain ⟨sim₃, hleft, hexited⟩ :=
    Program.At.both_exit hgood htold (by simp) hstarted hstopping
  apply both_deleted hgood hleft rfl hexited

end X6losim
