import X6losim.Invariant.Components
import X6losim.Invariant.Ownership

/-!
# What is left at the exit

When the main thread has deleted the simulator, nothing is left of what has been accepted, created
or started on its behalf, unless a step on the way has lost it.
-/

open Bytes History

namespace X6losim

variable {host : ByteOrder} {kind k : Kind} {s s' : Program} {i : ProgramInput}

/-! ### Nodes that are not added -/

/-- A step of the main thread leaves a client without an owner. -/
def Program.Loses (s : Program) : ProgramInput → Prop
  | .main env => s.pc = .start .accepting ∧ X6losim.Loses ⟨.accepting, s.sim⟩ (.main env.start)
  | _ => False

/-- A step of the program leaks a timer or a packet of a medium. -/
def Program.Leaks (host : ByteOrder) (s : Program) (i : ProgramInput) : Prop :=
  ∃ k j, s.mediumInput k i = some j ∧ X6losim.Leaks host (s.sim.medium k) j

/-- A client whose node is not added is lost. -/
theorem AddFails.loses (h : AddFails s i) (hnext : ProgramNext host s i s') :
  s.Loses i
  := by
  obtain ⟨k, nodeEnv, p, socket, hinput, hthrows⟩ := h
  cases hnext with
  | construct _ hpc | setup hpc | joined _ hpc | exit _ hpc | startMedium _ hpc =>
      simp [Program.mediumInput, hpc] at hinput
  | failed hpc =>
      rcases hpc with hpc | ⟨j, hpc⟩
      · simp [Program.mediumInput, hpc] at hinput
      · simp [Program.mediumInput, hpc] at hinput
  | leave hpc =>
      rcases hpc with hpc | ⟨text, hpc⟩
      · simp [Program.mediumInput, hpc] at hinput
      · simp [Program.mediumInput, hpc] at hinput
  | stopMedium hpc | deleteMedium hpc =>
      simp only [Program.mediumInput, hpc] at hinput
      split at hinput <;> cases hinput
  | thread =>
      simp only [Program.mediumInput] at hinput
      split at hinput <;> cases hinput
  | ignored | told | unblocked => cases hinput
  | @accepting env x hpc hselects hnew hfresh haccepting =>
      refine ⟨hpc, rfl, ?_⟩
      rcases mediumInput_accepting (k := k) hpc with ⟨⟨client, t, haccept, hk⟩, hnode⟩ | ⟨-, hnone⟩
      · rw [hnode] at hinput
        cases hinput
        rcases acceptConnections_ok hnew haccept with ⟨-, hclient, -⟩ | ⟨hsettled, hclient, -⟩
        · rw [hclient] at hk
          apply absurd rfl hk
        · refine ⟨hsettled, k, ?_⟩
          cases hhand : env.start.accept.hand s.sim k with
          | none => simp [hclient, hhand, toClient] at hk
          | some fd => exact ⟨fd, rfl, Or.inr hthrows⟩
      · rw [hnone] at hinput
        cases hinput

/-! ### What is kept until the exit -/

theorem Continues.of_stop {x x' : Sys} (hnext : Next host kind x .stop x') :
  Continues x.med x'.med
  := by
  cases hnext with
  | stop => exact .same (List.append_nil _).symm rfl

theorem Continues.of_delete {x x' : Sys} {env : Env}
    (hnext : Next host kind x (.deleteMedium env) x') :
  Continues x.med x'.med
  := by
  cases hnext with
  | delete heffs hdisposal heffs' hdisposal' =>
      apply Continues.effects (heffs.append heffs')
      intro eff heff
      rcases List.mem_append.mp heff with heff | heff
      · apply (hdisposal eff heff).not_add
      · apply (hdisposal' eff heff).not_add

/-- The main thread has deleted a medium. -/
def ProgramPc.past : ProgramPc → Kind → Bool
  | deleteMedium .wireless, .powerline => true
  | deleted constructed, _ => constructed
  | _, _ => false

/-- Everything has an owner, and nothing is left on a medium that has been deleted. -/
structure Program.Tidy (s : Program) : Prop where
  custody : InCustody s.sim (fun _ => none)
  owning : ∀ k, Owning (s.sim.medium k).med
  empty : ∀ k, (s.sim.medium k).pc = .deleted → ∀ p n, (s.sim.medium k).med.nodes p ≠ .live n
  past : ∀ k, s.pc.past k → (s.sim.medium k).pc = .deleted

/-- Nothing is left on a medium that has been deleted. -/
theorem empty_of_step {x x' : Sys} {j : Input} (hlife : Lifecycle x.med)
    (hempty : x.pc = .deleted → ∀ p n, x.med.nodes p ≠ .live n) (henabled : x.Enabled j)
    (hstep : x.step host kind j = .ok x') (hdeleted : x'.pc = .deleted) (p : NodePtr)
    (n : DeviceNode) :
  x'.med.nodes p ≠ .live n
  := by
  cases j with
  | run env => apply absurd hdeleted (next_of_step henabled hstep).run_pc.2.2
  | addNode env q socket =>
      cases next_of_step henabled hstep with
      | add => apply absurd hdeleted henabled.1
  | stop =>
      cases hstep
      apply hempty hdeleted
  | deleteMedium env =>
      obtain ⟨m, hdelete, -, -, hgone⟩ := deleteMedium_destroys hlife henabled.2.1 henabled.2.2
      simp [Sys.step, stepProg, hdelete] at hstep
      rw [← hstep]
      apply hgone

/-- What has been accepted has an owner after a step that loses no client. -/
theorem Program.Tidy.custody_next (h : s.Tidy) (horder : s.InOrder) (hloses : ¬ s.Loses i)
    (hnext : ProgramNext host s i s') :
  InCustody s'.sim (fun _ => none)
  := by
  cases hnext with
  | construct readPipe => apply InCustody.initial
  | setup hpc hsetup => exact h.custody.ofSame (setup_same rfl hsetup)
  | @accepting env x hpc hselects hnew hfresh haccepting =>
      have hkept : ∀ k, (s.sim.medium k).pc ≠ .deleted := fun k => horder.kept k (by rw [hpc]; rfl)
      have hround : Kept ⟨.accepting, s.sim⟩ (.main env.start) x :=
        InCustody.main h.custody ⟨Or.inr rfl, hnew, fun k => ⟨hkept k, hfresh k⟩⟩ haccepting
      cases hround with
      | kept _ hcustody => apply hcustody
      | lost hlost => apply absurd ⟨hpc, hlost⟩ hloses
  | @stopMedium env k sys hpc hstop =>
      have hkept : (s.sim.medium k).pc ≠ .deleted := horder.kept k (by rw [hpc]; rfl)
      have hsys := next_of_step (i := .stop) hkept hstop
      apply h.custody.continues ((h.custody.lifecycle k).next hsys) (.of_stop hsys)
  | @deleteMedium env k sys hpc hreg hhash hdelete =>
      have hkept : (s.sim.medium k).pc ≠ .deleted := horder.kept k (by rw [hpc]; cases k <;> rfl)
      have hexited := (horder.joined k (by rw [hpc]; rfl)).resolve_right hkept
      have hsys := next_of_step (i := .deleteMedium env.medium) ⟨hexited, hreg, hhash⟩ hdelete
      apply h.custody.continues ((h.custody.lifecycle k).next hsys) (.of_delete hsys)
  | thread hpc hstarted hrun hpolls hstep => apply h.custody.thread hrun hstep
  | told => exact h.custody.same rfl rfl rfl
  | _ => apply h.custody

/-- The media that the main thread has deleted stay deleted. -/
theorem Program.Tidy.past_next (h : s.Tidy) (hnext : ProgramNext host s i s') (k : Kind)
    (hpast : s'.pc.past k) :
  (s'.sim.medium k).pc = .deleted
  := by
  cases hnext with
  | startMedium j hpc => cases j <;> simp [hpc, ProgramPc.after, ProgramPc.past] at hpast
  | @stopMedium env j sys hpc => cases j <;> simp [hpc, ProgramPc.after, ProgramPc.past] at hpast
  | joined j hpc => cases j <;> simp [hpc, ProgramPc.after, ProgramPc.past] at hpast
  | @deleteMedium env j sys hpc hreg hhash hdelete =>
      by_cases hk : k = j
      · subst hk
        rw [thread_medium_self]
        apply deleteMedium_pc hdelete
      · rw [thread_medium_other _ _ hk]
        apply h.past k
        rw [hpc]
        revert hk
        cases j <;> cases k <;> simp_all [ProgramPc.after, ProgramPc.past]
  | @thread j env sys hpc hstarted hrun hpolls hstep =>
      have hdeleted := h.past k hpast
      by_cases hk : k = j
      · subst hk
        apply absurd hdeleted (next_of_step hrun hstep).run_pc.2.1
      · rw [thread_medium_other _ _ hk]
        apply hdeleted
  | ignored | told | unblocked => apply h.past k hpast
  | _ => cases hpast

theorem Program.Tidy.next (h : s.Tidy) (horder : s.InOrder) (hloses : ¬ s.Loses i)
    (hleaks : ¬ s.Leaks host i) (hnext : ProgramNext host s i s') :
  s'.Tidy
  := by
  have hproceeds := horder.proceeds hnext (fun hfails => hloses (hfails.loses hnext))
  constructor
  · apply h.custody_next horder hloses hnext
  · intro k
    apply (hproceeds k).keeps (P := fun x => Owning x.med) (h.owning k)
    intro j hj henabled hstep
    apply (h.owning k).next (fun hleak => hleaks ⟨k, j, hj, hleak⟩) (next_of_step henabled hstep)
  · intro k
    apply (hproceeds k).keeps (P := fun x => x.pc = .deleted → ∀ p n, x.med.nodes p ≠ .live n)
      (h.empty k)
    intro j _ henabled hstep
    apply empty_of_step (h.custody.lifecycle k) (h.empty k) henabled hstep
  · apply h.past_next hnext

theorem tidy_new :
  Program.new.Tidy
  where
  custody := .initial _
  owning _ := .initial
  empty k hpc := by cases hpc
  past k hpast := by cases hpast

/-- The nodes, timers and packets of a medium that has been deleted. -/
theorem Program.Tidy.medium_empty (h : s.Tidy) (hdeleted : (s.sim.medium k).pc = .deleted) :
  (∀ p, (s.sim.medium k).med.nodes p = .unborn ∨
      (s.sim.medium k).med.nodes p = .destroyed ∧
        (s.sim.medium k).med.log.count (.deleteNode p) = 1) ∧
    timers (s.sim.medium k).med.log = ∅ ∧ packets (s.sim.medium k).med.log = ∅
  := by
  have hempty := h.empty k hdeleted
  have hreleased := (h.owning k).released
  refine ⟨?_, ?_, ?_⟩
  · intro p
    cases hcell : (s.sim.medium k).med.nodes p with
    | unborn => exact Or.inl rfl
    | live n => apply absurd hcell (hempty p n)
    | destroyed =>
        right
        refine ⟨rfl, ?_⟩
        rw [(h.custody.lifecycle k).deleted, hcell, if_pos rfl]
  · rw [Finset.eq_empty_iff_forall_notMem]
    rintro ⟨p, t⟩ hp
    rw [hreleased.timers] at hp
    cases hcell : (s.sim.medium k).med.nodes p with
    | live n => apply absurd hcell (hempty p n)
    | unborn | destroyed =>
        rw [hcell] at hp
        cases hp
  · rw [Finset.eq_empty_iff_forall_notMem]
    intro id hid
    obtain ⟨p, hp, -⟩ := hreleased.packets id hid
    cases hcell : (s.sim.medium k).med.nodes p with
    | live n => apply absurd hcell (hempty p n)
    | unborn | destroyed =>
        rw [hcell] at hp
        cases hp

/-! ### Runs -/

/-- A step that loses no client and leaks nothing. -/
def Program.Careful (host : ByteOrder) (s : Program) (i : ProgramInput) : Prop :=
  ¬ s.Loses i ∧ ¬ s.Leaks host i

theorem tidy_reaches (reached : (program host).Reaches (Program.Careful host) s) :
  s.InOrder ∧ s.Tidy
  := by
  apply reached.invariant (P := fun s => s.InOrder ∧ s.Tidy)
  · rintro s rfl
    exact ⟨inOrder_new, tidy_new⟩
  · intro s s' i ⟨horder, hs⟩ henabled hcareful hstep
    have hnext := programNext_of_step henabled hstep
    exact ⟨horder.next hnext, hs.next horder hcareful.1 hcareful.2 hnext⟩

/-- In a run that loses no client and leaks no timer and no packet, nothing is left when the main
thread has deleted the simulator: the descriptors of all connections that have been accepted are
closed, every node that has been created has been deleted, once, and so have been all timers of
nodes and all packets. -/
theorem nothing_left (reached : (program host).Reaches (Program.Careful host) s)
    (hdeleted : s.pc = .deleted true) :
  (∀ fd, s.sim.fds fd = none) ∧
    ∀ k, (∀ p, (s.sim.medium k).med.nodes p = .unborn ∨
        (s.sim.medium k).med.nodes p = .destroyed ∧
          (s.sim.medium k).med.log.count (.deleteNode p) = 1) ∧
      timers (s.sim.medium k).med.log = ∅ ∧ packets (s.sim.medium k).med.log = ∅
  := by
  have htidy := tidy_reaches reached
  have hpast : ∀ k, (s.sim.medium k).pc = .deleted := by
    intro k
    apply htidy.2.past k
    rw [hdeleted]
    rfl
  constructor
  · intro fd
    cases hfd : s.sim.fds fd with
    | none => rfl
    | some k =>
        obtain ⟨p, ⟨hhas, -⟩, -⟩ := htidy.2.custody.eachOwned fd k hfd
        obtain ⟨n, hlive⟩ := (htidy.2.custody.lifecycle k).has_iff.mp hhas
        apply absurd hlive (htidy.2.empty k (hpast k) p n)
  · intro k
    apply htidy.2.medium_empty (hpast k)

/-! ### A run to the exit -/

/-- A step with which nothing is done to the media. -/
theorem careful_of_none (hpc : s.pc ≠ .start .accepting) (hnone : ∀ k, s.mediumInput k i = none) :
  s.Careful host i
  := by
  constructor
  · intro hloses
    cases i with
    | main env => apply hpc hloses.1
    | _ => cases hloses
  · rintro ⟨k, j, hj, -⟩
    rw [hnone k] at hj
    cases hj

/-- A run that loses no client and leaks nothing can go on to the exit. -/
theorem letsExit_careful (host : ByteOrder) :
  Program.LetsExit host (Program.Careful host)
  where
  main := by
    intro s env hpc htxList
    constructor
    · intro hloses
      apply hpc hloses.1
    · rintro ⟨k, j, hj, hleak⟩
      cases hmain : s.pc with
      | stopMedium l =>
          simp only [Program.mediumInput, hmain] at hj
          split at hj <;> cases hj
          generalize s.sim.medium k = x at hleak
          cases hleak with
          | cutOff hcut => cases hcut
      | deleteMedium l =>
          simp only [Program.mediumInput, hmain] at hj
          split at hj
          · next hl =>
              subst hl
              cases hj
              have hnone := htxList l hmain
              generalize s.sim.medium l = x at hleak hnone
              cases hleak with
              | cutOff hcut => cases hcut
              | deleted hp =>
                  rw [hnone] at hp
                  cases hp
          · cases hj
      | start pc =>
          cases pc with
          | accepting => apply hpc hmain
          | _ => simp [Program.mediumInput, hmain] at hj
      | _ => simp [Program.mediumInput, hmain] at hj
  thread := by
    intro s k env hpoll
    refine ⟨not_false, ?_⟩
    rintro ⟨l, j, hj, hleak⟩
    simp only [Program.mediumInput] at hj
    split at hj
    · next hl =>
        subst hl
        cases hj
        obtain ⟨ph, ev, evs, hpc⟩ := hleak.poll
        apply hpoll _ _ hpc
    · cases hj
  lifecycle reached := (tidy_reaches reached).2.custody.lifecycle

theorem careful_client (host : ByteOrder) :
  Program.told.Careful host (.main .client)
  := by
  constructor
  · rintro ⟨-, -, -, k, fd, hfd, ⟨j, hready, hfails⟩ | ⟨-, hthrows⟩⟩
    · cases j with
      | powerline => cases hfails
      | wireless => cases hready
    · simp [ProgramEnv.client, StartEnv.servers45, Env.calm] at hthrows
  · rintro ⟨k, j, hj, hleak⟩
    have haccepting : Program.told.pc = .start .accepting := rfl
    rcases mediumInput_accepting (k := k) haccepting with ⟨-, hinput⟩ | ⟨-, hnone⟩
    · rw [hinput] at hj
      cases hj
      generalize Program.told.sim.medium k = x at hleak
      cases hleak with
      | cutOff hcut => cases hcut
      | unarmed _ _ hsettime =>
          simp [ProgramEnv.client, StartEnv.servers45, Env.calm] at hsettime
    · rw [hnone] at hj
      cases hj

/-- A client is accepted, and its connection is closed at the exit. -/
theorem nothing_left_accepted :
  (∃ s, (program .big).Reaches (Program.Careful .big) s ∧ s.sim.fds 7 = some .powerline) ∧
    ∃ s, (program .big).Reaches (Program.Careful .big) s ∧ s.pc = .deleted true ∧
      ∀ fd, s.sim.fds fd = none
  := by
  obtain ⟨visits, run, hvisits⟩ := run_programListening .big
  have hlistening : (program .big).Reaches (Program.Careful .big) Program.listening :=
    ⟨_, visits, rfl, run, fun v hv => careful_of_none (hvisits v hv).1 (hvisits v hv).2⟩
  have htold : (program .big).Reaches (Program.Careful .big) Program.told :=
    hlistening.step (i := .signal .sigint)
      (by simp [program, Program.Enabled, Program.listening])
      ⟨not_false, by rintro ⟨k, j, hj, -⟩; cases hj⟩ rfl
  have haccepted := htold.step (enabled_client .big) (careful_client .big) rfl
  have hleft := haccepted.step (i := .main .calm) (by trivial)
    (careful_of_none (by simp) (by simp [Program.mediumInput])) rfl
  obtain ⟨s, hs, hdeleted, -⟩ := reaches_deleted (letsExit_careful .big) hleft rfl
    (fun k => by cases k <;> rfl) (fun k => ⟨by cases k <;> rfl, by cases k <;> rfl, rfl⟩)
  exact ⟨⟨_, haccepted, rfl⟩, s, hs, hdeleted, (nothing_left hs hdeleted).1⟩

end X6losim
