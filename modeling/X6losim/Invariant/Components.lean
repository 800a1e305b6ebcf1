import X6losim.Invariant.Teardown
import X6losim.Lib.Component
import X6losim.Sim.Start

/-!
# The media in the program

The machine of a medium takes it for granted that nodes are added to a medium and a medium is
stopped only as long as it is there, and that it is deleted only when its thread has exited.  The
main thread keeps to that, whatever the order of its steps, those of the threads and the signals, so
that a run of the program is a run of each of its media.
-/

open Bytes

namespace X6losim

variable {host : ByteOrder} {s s' : Program} {k : Kind}

/-- What a step of the program does with a medium. -/
def Program.mediumInput (k : Kind) (s : Program) : ProgramInput → Option Input
  | .main env =>
      match s.pc with
      | .start .accepting =>
          match acceptConnections env.start.accept s.sim with
          | .ok (.acceptOk, client) _ =>
              if client k = -1 then none
              else
                let node := env.start.node k
                some (.addNode node.env node.ptr node.socket)
          | _ => none
      | .stopMedium j => if j = k then some .stop else none
      | .deleteMedium j => if j = k then some (.deleteMedium env.medium) else none
      | _ => none
  | .thread j env => if j = k then some (.run env) else none
  | _ => none

/-- The node of a client is not made, or not added, because of an exception. -/
def AddFails (s : Program) (i : ProgramInput) : Prop :=
  ∃ k env p socket, s.mediumInput k i = some (.addNode env p socket) ∧ env.AddThrows

/-! ### A round of `start` -/

/-- What becomes of the media when a client, if there is one, gets its node. -/
theorem addClient_medium {startEnv : StartEnv} {t t' : NetworkSimulator} {o : Option Fd}
    (h : addClient host startEnv k (toClient o) t = .ok () t') :
  (∀ j, j ≠ k → t'.medium j = t.medium j) ∧
    (o ≠ none ∧ (t.medium k).step host k
          (.addNode (startEnv.node k).env (startEnv.node k).ptr (startEnv.node k).socket)
        = .ok (t'.medium k) ∨
      ¬ o ≠ none ∧ t'.medium k = t.medium k)
  := by
  cases o with
  | none =>
      cases h
      exact ⟨fun _ _ => rfl, Or.inr ⟨by simp, rfl⟩⟩
  | some fd =>
      rw [toClient, addClient_eq] at h
      cases hstep : (t.medium k).step host k
          (.addNode (startEnv.node k).env (startEnv.node k).ptr (startEnv.node k).socket) with
      | ok sys =>
          rw [hstep] at h
          cases h
          constructor
          · intro j hj
            simp [NetworkSimulator.setMedium, NetworkSimulator.setSockfd, hj]
          · left
            simp [NetworkSimulator.setMedium]
      | error x =>
          rw [hstep] at h
          cases h

/-- A client does not get its node because of an exception only when its addition throws. -/
theorem addClient_throws {startEnv : StartEnv} {t t' : NetworkSimulator} {o : Option Fd}
    {text : String}
    (h : addClient host startEnv k (toClient o) t = .error (.exception text) t') :
  o ≠ none ∧ (startEnv.node k).env.AddThrows
  := by
  cases o with
  | none => cases h
  | some fd =>
      refine ⟨by simp, ?_⟩
      rw [toClient, addClient_eq] at h
      cases hadd : addNode (startEnv.node k).env (startEnv.node k).ptr (startEnv.node k).socket
          (t.medium k).med with
      | ok u m' => simp [Sys.step, stepProg, hadd] at h
      | error e m' =>
          simp [Sys.step, stepProg, hadd] at h
          obtain ⟨rfl, -⟩ := h
          exact (addNode_error hadd).throws.1

/-- The client that `acceptConnections` has left for a medium, if it says that all is well. -/
def NetworkSimulator.Gets (t : NetworkSimulator) (env : AcceptEnv) (k : Kind) : Prop :=
  ∃ client t', acceptConnections env t = .ok (.acceptOk, client) t' ∧ client k ≠ -1

theorem mediumInput_accepting {env : ProgramEnv} (hpc : s.pc = .start .accepting) :
  (s.sim.Gets env.start.accept k ∧ s.mediumInput k (.main env) =
      some (.addNode (env.start.node k).env (env.start.node k).ptr (env.start.node k).socket)) ∨
    (¬ s.sim.Gets env.start.accept k ∧ s.mediumInput k (.main env) = none)
  := by
  simp only [Program.mediumInput, hpc, NetworkSimulator.Gets]
  cases haccept : acceptConnections env.start.accept s.sim with
  | error e t => simp
  | ok result t =>
      obtain ⟨rv, client⟩ := result
      cases rv with
      | acceptOk =>
          by_cases hclient : client k = -1
          · simp [hclient]
          · simp [hclient]
      | _ => simp

/-- What a round of `start` does with a medium: it adds the node of a client, or nothing. -/
theorem accepting_media {startEnv : StartEnv} {t : NetworkSimulator} {x : Simulation}
    (hnew : t.NewFds startEnv.accept)
    (hstep : Simulation.step host ⟨.accepting, t⟩ (.main startEnv) = .ok x)
    (hadded : ∀ k, t.Gets startEnv.accept k → ¬ (startEnv.node k).env.AddThrows) (k : Kind) :
  (t.Gets startEnv.accept k ∧
      (t.medium k).step host k
          (.addNode (startEnv.node k).env (startEnv.node k).ptr (startEnv.node k).socket)
        = .ok (x.sim.medium k)) ∨
    (¬ t.Gets startEnv.accept k ∧ x.sim.medium k = t.medium k)
  := by
  rcases accepting_ok rfl hstep with ⟨text, haccept⟩ | ⟨rv, client, t₁, haccept, hresult⟩
  · right
    refine ⟨?_, by rw [(acceptConnections_exception haccept).1]⟩
    rintro ⟨client, t', hgets, -⟩
    rw [haccept] at hgets
    cases hgets
  · have hmedium : t₁.medium = t.medium := by
      rcases acceptConnections_ok hnew haccept with ⟨-, -, rfl⟩ | ⟨-, -, rfl, -⟩
      · rfl
      · simp only [NetworkSimulator.accepted]
        cases startEnv.accept.hand t .powerline <;> cases startEnv.accept.hand t .wireless <;> rfl
    -- Without a client the media stay as they are.
    have hnone : (rv = .acceptOk → client = fun _ => -1) →
        ¬ t.Gets startEnv.accept k ∧ x.sim.medium k = t.medium k := by
      intro hclient
      constructor
      · rintro ⟨client', t', hgets, hk⟩
        rw [haccept] at hgets
        cases hgets
        rw [hclient rfl] at hk
        apply hk rfl
      · obtain ⟨hok, herror⟩ := handleAccept_same host startEnv t₁ rv client hclient
        rcases hresult with ⟨t₂, hhandle, hsame⟩ | ⟨text, hhandle⟩
        · rw [hsame.medium, (hok _ hhandle).medium, hmedium]
        · rw [(herror _ _ hhandle).medium, hmedium]
    rcases acceptConnections_ok hnew haccept with
      ⟨-, rfl, -⟩ | ⟨-, rfl, -, ⟨-, rfl⟩ | ⟨-, rfl⟩⟩
    · right
      apply hnone (fun _ => rfl)
    · right
      apply hnone (by simp)
    · -- Each medium gets the node of its client.
      have hgets : ∀ j, t.Gets startEnv.accept j ↔ startEnv.accept.hand t j ≠ none := by
        intro j
        constructor
        · rintro ⟨client', t', haccept', hj⟩
          rw [haccept] at haccept'
          cases haccept'
          simpa using hj
        · intro hj
          exact ⟨_, _, haccept, by simpa using hj⟩
      simp only [handleAccept, Exec.bind_apply, Exec.modify_apply] at hresult
      generalize ht₂ : { t₁ with errCount := 0 } = t₂ at hresult
      have hmedium₂ : t₂.medium = t.medium := by
        rw [← ht₂]
        apply hmedium
      cases hhan : addClient host startEnv .powerline
          (toClient (startEnv.accept.hand t .powerline)) t₂ with
      | error e t₃ =>
          simp only [hhan] at hresult
          rcases hresult with ⟨t₄, ⟨⟩, -⟩ | ⟨text, ⟨⟩⟩
          obtain ⟨hsome, hthrows⟩ := addClient_throws hhan
          apply absurd hthrows (hadded _ ((hgets _).mpr hsome))
      | ok u t₃ =>
          simp only [hhan] at hresult
          cases hair : addClient host startEnv .wireless
              (toClient (startEnv.accept.hand t .wireless)) t₃ with
          | error e t₄ =>
              simp only [hair] at hresult
              rcases hresult with ⟨t₅, ⟨⟩, -⟩ | ⟨text, ⟨⟩⟩
              obtain ⟨hsome, hthrows⟩ := addClient_throws hair
              apply absurd hthrows (hadded _ ((hgets _).mpr hsome))
          | ok u t₄ =>
              simp only [hair] at hresult
              rcases hresult with ⟨t₅, ⟨⟩, hsame⟩ | ⟨text, ⟨⟩⟩
              obtain ⟨hother, hfirst⟩ := addClient_medium hhan
              obtain ⟨hother', hsecond⟩ := addClient_medium hair
              rw [hgets, hsame.medium]
              cases k with
              | powerline =>
                  rw [hmedium₂] at hfirst
                  rw [hother' _ (by simp)]
                  apply hfirst
              | wireless =>
                  rw [hother _ (by simp), hmedium₂] at hsecond
                  apply hsecond

/-! ### The order of the main thread -/

/-- The main thread has waited for the exit of the thread of a medium. -/
def ProgramPc.joined : ProgramPc → Kind → Bool
  | waitForExit .wireless, .powerline => true
  | deleteMedium _, _ => true
  | deleted constructed, _ => constructed
  | _, _ => false

/-- The main thread may have deleted a medium. -/
def ProgramPc.gone : ProgramPc → Kind → Bool
  | deleteMedium .wireless, .powerline => true
  | deleted constructed, _ => constructed
  | exited, _ => true
  | _, _ => false

/-- A medium is there until it is deleted, and its thread has exited when it has been waited for. -/
structure Program.InOrder (s : Program) : Prop where
  new : s.pc = .construct → ∀ k, s.sim.medium k = ⟨.start, Medium.new⟩ ∧ s.started k = false
  kept : ∀ k, s.pc.gone k = false → (s.sim.medium k).pc ≠ .deleted
  joined : ∀ k, s.pc.joined k → (s.sim.medium k).pc = .exited ∨ (s.sim.medium k).pc = .deleted

theorem Next.run_pc {kind : Kind} {x x' : Sys} {env : Env}
    (hnext : Next host kind x (.run env) x') :
  x.pc ≠ .exited ∧ x.pc ≠ .deleted ∧ x'.pc ≠ .deleted
  := by
  cases hnext with
  | move hmove => cases hmove <;> simp
  | _ => simp

theorem deleteMedium_pc {kind : Kind} {env : Env} {x x' : Sys}
    (hstep : x.step host kind (.deleteMedium env) = .ok x') :
  x'.pc = .deleted
  := by
  cases hdelete : deleteMedium env x.med with
  | ok u m =>
      simp [Sys.step, stepProg, hdelete] at hstep
      rw [← hstep]
  | error e m => simp [Sys.step, stepProg, hdelete] at hstep

/-- Nodes are added to a medium, and it is stopped and deleted, only when that may be done. -/
theorem Program.InOrder.proceeds {i : ProgramInput} (h : s.InOrder)
    (hnext : ProgramNext host s i s') (hadded : ¬ AddFails s i) (k : Kind) :
  (medium host k).Proceeds (s.sim.medium k) (s.mediumInput k i) (s'.sim.medium k)
  := by
  cases hnext with
  | construct readPipe hpc =>
      simp only [mediumInput, hpc]
      rw [(h.new hpc k).1]
      apply Machine.Proceeds.rest
  | failed hpc =>
      rcases hpc with hpc | ⟨k, hpc⟩
      · simp only [mediumInput, hpc]
        apply Machine.Proceeds.rest
      · simp only [mediumInput, hpc]
        apply Machine.Proceeds.rest
  | startMedium k hpc =>
      simp only [mediumInput, hpc]
      apply Machine.Proceeds.rest
  | setup hpc hsetup =>
      simp only [mediumInput, hpc, (setup_same rfl hsetup).medium]
      apply Machine.Proceeds.rest
  | @accepting env x hpc hselects hnew hfresh haccepting =>
      have hgets : ∀ j, s.sim.Gets env.start.accept j → ¬ (env.start.node j).env.AddThrows := by
        intro j hj hthrows
        rcases mediumInput_accepting (k := j) hpc with ⟨-, hinput⟩ | ⟨hnone, -⟩
        · exact hadded ⟨j, _, _, _, hinput, hthrows⟩
        · apply hnone hj
      rcases mediumInput_accepting (k := k) hpc with ⟨hgot, hinput⟩ | ⟨hnone, hinput⟩
      · rcases accepting_media hnew haccepting hgets k with ⟨-, hstep⟩ | ⟨hnone, -⟩
        · have hkept : (s.sim.medium k).pc ≠ .deleted := h.kept k (by rw [hpc]; rfl)
          rw [hinput]
          exact Machine.Proceeds.step (N := medium host k) ⟨hkept, hfresh k⟩ hstep
        · apply absurd hgot hnone
      · rcases accepting_media hnew haccepting hgets k with ⟨hgot, -⟩ | ⟨-, hsame⟩
        · apply absurd hgot hnone
        · simp only [hinput, hsame]
          apply Machine.Proceeds.rest
  | leave hpc =>
      rcases hpc with hpc | ⟨text, hpc⟩
      · simp only [mediumInput, hpc]
        apply Machine.Proceeds.rest
      · simp only [mediumInput, hpc]
        apply Machine.Proceeds.rest
  | @stopMedium env j sys hpc hstop =>
      simp only [mediumInput, hpc]
      by_cases hj : j = k
      · subst hj
        rw [if_pos rfl, thread_medium_self]
        have hkept : (s.sim.medium j).pc ≠ .deleted := h.kept j (by rw [hpc]; rfl)
        exact Machine.Proceeds.step (N := medium host j) hkept hstop
      · rw [if_neg hj, thread_medium_other _ _ (Ne.symm hj)]
        apply Machine.Proceeds.rest
  | joined j hpc =>
      simp only [mediumInput, hpc]
      apply Machine.Proceeds.rest
  | @deleteMedium env j sys hpc hreg hhash hdelete =>
      simp only [mediumInput, hpc]
      by_cases hj : j = k
      · subst hj
        rw [if_pos rfl, thread_medium_self]
        have hkept : (s.sim.medium j).pc ≠ .deleted := by
          apply h.kept j
          rw [hpc]
          cases j <;> rfl
        have hexited : (s.sim.medium j).pc = .exited :=
          (h.joined j (by rw [hpc]; rfl)).resolve_right hkept
        exact Machine.Proceeds.step (N := medium host j) ⟨hexited, hreg, hhash⟩ hdelete
      · rw [if_neg hj, thread_medium_other _ _ (Ne.symm hj)]
        apply Machine.Proceeds.rest
  | exit constructed hpc =>
      simp only [mediumInput, hpc]
      apply Machine.Proceeds.rest
  | @thread j env sys hpc hstarted hrun hpolls hstep =>
      simp only [mediumInput]
      by_cases hj : j = k
      · subst hj
        rw [if_pos rfl, thread_medium_self]
        exact Machine.Proceeds.step (N := medium host j) hrun hstep
      · rw [if_neg hj, thread_medium_other _ _ (Ne.symm hj)]
        apply Machine.Proceeds.rest
  | ignored => apply Machine.Proceeds.rest
  | told => apply Machine.Proceeds.rest
  | unblocked => apply Machine.Proceeds.rest

/-- The main thread goes on, and the threads of the media are where they have been. -/
theorem Program.InOrder.goOn (h : s.InOrder) (hpc : s'.pc ≠ .construct)
    (hmedium : ∀ k, (s'.sim.medium k).pc = (s.sim.medium k).pc)
    (hgone : ∀ k, s'.pc.gone k = false → s.pc.gone k = false)
    (hjoined : ∀ k, s'.pc.joined k → s.pc.joined k ∨ (s.sim.medium k).pc = .exited) :
  s'.InOrder
  where
  new hnew := absurd hnew hpc
  kept k hk := by
    rw [hmedium]
    apply h.kept k (hgone k hk)
  joined k hk := by
    rw [hmedium]
    rcases hjoined k hk with hk | hk
    · apply h.joined k hk
    · left
      apply hk

theorem Program.InOrder.next {i : ProgramInput} (h : s.InOrder) (hnext : ProgramNext host s i s') :
  s'.InOrder
  := by
  cases hnext with
  | construct readPipe hpc =>
      apply h.goOn (by simp)
      · intro k
        rw [(h.new hpc k).1]
        rfl
      · simp [hpc, ProgramPc.gone]
      · simp [ProgramPc.joined]
  | failed hpc =>
      refine h.goOn (by simp) (fun _ => rfl) ?_ ?_
      · intro k _
        rcases hpc with hpc | ⟨j, hpc⟩
        · rw [hpc]
          rfl
        · rw [hpc]
          rfl
      · simp [ProgramPc.joined]
  | startMedium j hpc =>
      refine h.goOn ?_ (fun _ => rfl) ?_ ?_
      · cases j <;> simp [hpc, ProgramPc.after]
      · simp [hpc, ProgramPc.gone]
      · cases j <;> simp [hpc, ProgramPc.after, ProgramPc.joined]
  | setup hpc hsetup =>
      apply h.goOn (by simp)
      · intro k
        apply (steady_medium (startStep_steady hsetup) k).1
      · simp [hpc, ProgramPc.gone]
      · simp [ProgramPc.joined]
  | accepting hpc _ _ _ haccepting =>
      apply h.goOn (by simp)
      · intro k
        apply (steady_medium (startStep_steady haccepting) k).1
      · simp [hpc, ProgramPc.gone]
      · simp [ProgramPc.joined]
  | leave hpc =>
      refine h.goOn (by simp) (fun _ => rfl) ?_ ?_
      · intro k _
        rcases hpc with hpc | ⟨text, hpc⟩
        · rw [hpc]
          rfl
        · rw [hpc]
          rfl
      · simp [ProgramPc.joined]
  | @stopMedium env j sys hpc hstop =>
      apply h.goOn
      · cases j <;> simp [hpc, ProgramPc.after]
      · intro k
        by_cases hk : k = j
        · subst hk
          cases hstop
          simp
        · rw [thread_medium_other _ _ hk]
      · simp [hpc, ProgramPc.gone]
      · cases j <;> simp [hpc, ProgramPc.after, ProgramPc.joined]
  | joined j hpc hexited =>
      refine h.goOn ?_ (fun _ => rfl) ?_ ?_
      · cases j <;> simp [hpc, ProgramPc.after]
      · simp [hpc, ProgramPc.gone]
      · intro k hk
        by_cases hj : k = j
        · subst hj
          right
          apply hexited
        · left
          revert hk hj
          cases j <;> cases k <;> simp [hpc, ProgramPc.after, ProgramPc.joined]
  | @deleteMedium env j sys hpc hreg hhash hdelete =>
      constructor
      · cases j <;> simp [hpc, ProgramPc.after]
      · intro k hk
        have hkj : k ≠ j := by
          rintro rfl
          revert hk
          cases k <;> simp [hpc, ProgramPc.after, ProgramPc.gone]
        simp only [thread_medium_other _ _ hkj]
        apply h.kept k
        revert hk
        cases j <;> cases k <;> simp [hpc, ProgramPc.after, ProgramPc.gone]
      · intro k _
        by_cases hkj : k = j
        · subst hkj
          right
          rw [thread_medium_self, deleteMedium_pc hdelete]
        · simp only [thread_medium_other _ _ hkj]
          apply h.joined k
          rw [hpc]
          rfl
  | exit constructed hpc =>
      refine h.goOn (by simp) (fun _ => rfl) ?_ ?_
      · simp [ProgramPc.gone]
      · simp [ProgramPc.joined]
  | @thread j env sys hpc hstarted hrun hpolls hstep =>
      have hplaces := (next_of_step hrun hstep).run_pc
      constructor
      · intro hnew
        rw [(h.new hnew j).2] at hstarted
        cases hstarted
      · intro k hk
        by_cases hkj : k = j
        · subst hkj
          rw [thread_medium_self]
          apply hplaces.2.2
        · simp only [thread_medium_other _ _ hkj]
          apply h.kept k hk
      · intro k hk
        by_cases hkj : k = j
        · subst hkj
          rcases h.joined k hk with hexited | hdeleted
          · apply absurd hexited hplaces.1
          · apply absurd hdeleted hplaces.2.1
        · simp only [thread_medium_other _ _ hkj]
          apply h.joined k hk
  | ignored => apply h
  | told => exact ⟨h.new, h.kept, h.joined⟩
  | unblocked => exact ⟨h.new, h.kept, h.joined⟩

/-! ### Runs -/

theorem inOrder_new :
  Program.new.InOrder
  where
  new _ _ := ⟨rfl, rfl⟩
  kept _ _ := by simp [Program.new, NetworkSimulator.new]
  joined _ hjoined := by cases hjoined

/-- A run of the program in which no node fails to be added is, seen from a medium, a run of the
medium: nodes are added to it and it is stopped only as long as it is there, and it is deleted when
its thread has exited. -/
theorem program_drives_media {visits : List (Program × ProgramInput)}
    (run : (program host).Run Program.new visits s)
    (hadded : ∀ v ∈ visits, ¬ AddFails v.1 v.2) (k : Kind) :
  (medium host k).Run ⟨.start, Medium.new⟩
    (Machine.entriesOf (fun x => x.sim.medium k) (Program.mediumInput k) visits)
    (s.sim.medium k)
  := by
  have hcomponent := run.component (N := medium host k) (P := Program.InOrder)
    (fun x => x.sim.medium k) (Program.mediumInput k) inOrder_new hadded
    (fun hx henabled hgood hstep => ⟨hx.next (programNext_of_step henabled hstep),
      hx.proceeds (programNext_of_step henabled hstep) hgood k⟩)
  apply hcomponent.2

/-- The program when the thread of the powerline has been started. -/
def Program.powerlineStarted : Program where
  pc := .startMedium .wireless
  sim := NetworkSimulator.new 3
  started := Function.update (fun _ => false) .powerline true
  unblock := 0
  stops := 0

theorem run_powerlineStarted (host : ByteOrder) :
  (program host).Run Program.new
    [(Program.new, .main .calm),
      ({ Program.new with pc := .startMedium .powerline, sim := NetworkSimulator.new 3 },
        .main .calm)]
    Program.powerlineStarted
  := by
  have hconstruct : (program host).Run Program.new [(Program.new, .main .calm)]
      { Program.new with pc := .startMedium .powerline, sim := NetworkSimulator.new 3 } :=
    Machine.Run.nil _ |>.snoc trivial rfl
  exact hconstruct.snoc trivial rfl

/-- The program when the main thread waits for clients. -/
def Program.listening : Program where
  pc := .start .accepting
  sim := Simulation.listening.sim
  started := Function.update (Function.update (fun _ => false) .powerline true) .wireless true
  unblock := 0
  stops := 0

theorem run_programListening (host : ByteOrder) :
  ∃ visits, (program host).Run Program.new visits Program.listening ∧
    ∀ v ∈ visits, v.1.pc ≠ .start .accepting ∧ ∀ k, v.1.mediumInput k v.2 = none
  := by
  have hwireless : (program host).enabled Program.powerlineStarted (.main .calm) := trivial
  have hsetup : (program host).enabled
      { Program.listening with pc := .start .setup, sim := NetworkSimulator.new 3 }
      (.main .calm) := trivial
  refine ⟨_, ((run_powerlineStarted host).snoc hwireless rfl).snoc hsetup rfl, ?_⟩
  simp [Program.new, Program.powerlineStarted, ProgramPc.after, Program.mediumInput]

/-- What the system answers when a client can be accepted. -/
def ProgramEnv.client : ProgramEnv :=
  { ProgramEnv.calm with start := StartEnv.servers45 AcceptEnv.single }

/-- The program when a signal has come and a client is there. -/
def Program.told : Program :=
  { Program.listening with sim := { Simulation.listening.sim with stop := true }, stops := 1 }

/-- A signal has come to the main thread while it waits for clients, and a client can be
accepted. -/
theorem enabled_client (host : ByteOrder) :
  (program host).enabled Program.told (.main .client)
  := by
  refine ⟨⟨by decide, fun _ => by decide⟩, ⟨fun _ => rfl, ?_⟩, ?_⟩
  · intro fd _ hair
    cases hair
  · intro k
    refine ⟨rfl, ?_⟩
    intro q n hq
    cases hq

/-- A node can fail to be added only by a step of the main thread in the loop. -/
theorem AddFails.accepting {i : ProgramInput} (h : AddFails s i) :
  ∃ env, i = .main env ∧ s.pc = .start .accepting
  := by
  obtain ⟨k, env, p, socket, hinput, -⟩ := h
  cases i with
  | main env =>
      refine ⟨env, rfl, ?_⟩
      cases hpc : s.pc with
      | start pc =>
          cases pc with
          | accepting => rfl
          | _ => simp [Program.mediumInput, hpc] at hinput
      | stopMedium j | deleteMedium j =>
          simp only [Program.mediumInput, hpc] at hinput
          split at hinput <;> cases hinput
      | _ => simp [Program.mediumInput, hpc] at hinput
  | thread =>
      simp only [Program.mediumInput] at hinput
      split at hinput <;> cases hinput
  | _ => cases hinput

/-- The media of a run in which every node is added keep the lifecycle of nodes, so that such a run
can go on to the exit. -/
theorem letsExit_added (host : ByteOrder) :
  Program.LetsExit host (fun s i => ¬ AddFails s i)
  where
  main hpc _ hfails := by
    obtain ⟨-, -, haccepting⟩ := hfails.accepting
    apply hpc haccepting
  thread _ hfails := by
    obtain ⟨env, hmain, -⟩ := hfails.accepting
    cases hmain
  lifecycle := by
    intro s reached k
    have hkeeps : s.InOrder ∧ ∀ k, Lifecycle (s.sim.medium k).med := by
      apply reached.invariant (P := fun s => s.InOrder ∧ ∀ k, Lifecycle (s.sim.medium k).med)
      · rintro s rfl
        exact ⟨inOrder_new, fun _ => .initial⟩
      · intro x y i ⟨horder, hlife⟩ henabled hadded hstep
        have hnext := programNext_of_step henabled hstep
        refine ⟨horder.next hnext, ?_⟩
        intro j
        apply (horder.proceeds hnext hadded j).keeps (P := fun x => Lifecycle x.med) (hlife j)
        intro i' _ henabled' hstep'
        apply (hlife j).next (next_of_step henabled' hstep')
    apply hkeeps.2 k

/-- A client is accepted and gets its node on the powerline, which is stopped and deleted at the
exit, and the node with it. -/
theorem program_drives_media_deleted :
  ∃ visits s, (program .little).Run Program.new visits s ∧
    (medium .little .powerline).Run ⟨.start, Medium.new⟩
      (Machine.entriesOf (fun x => x.sim.medium .powerline) (Program.mediumInput .powerline) visits)
      (s.sim.medium .powerline) ∧
    (s.sim.medium .powerline).pc = .deleted ∧
    (s.sim.medium .powerline).med.nodes 0 = .destroyed
  := by
  obtain ⟨visits, run, hvisits⟩ := run_programListening .little
  have hlistening : (program .little).Reaches (fun s i => ¬ AddFails s i) Program.listening := by
    refine ⟨_, visits, rfl, run, ?_⟩
    intro v hv hfails
    obtain ⟨-, -, haccepting⟩ := hfails.accepting
    apply (hvisits v hv).1 haccepting
  have htold : (program .little).Reaches (fun s i => ¬ AddFails s i) Program.told := by
    apply hlistening.step (i := .signal .sigint) _ _ rfl
    · simp [program, Program.Enabled, Program.listening]
    · intro hfails
      obtain ⟨env, hmain, -⟩ := hfails.accepting
      cases hmain
  have haccepted := htold.step (enabled_client .little) (by
    rintro ⟨k, env, p, socket, hinput, hthrows⟩
    rcases mediumInput_accepting (k := k) (s := .told) rfl with ⟨-, hinput'⟩ | ⟨-, hnone⟩
    · rw [hinput'] at hinput
      cases hinput
      simp [ProgramEnv.client, StartEnv.servers45, Env.calm, Env.AddThrows] at hthrows
    · rw [hnone] at hinput
      cases hinput) rfl
  have hleft := haccepted.step (i := .main .calm) (by trivial)
    ((letsExit_added .little).main (by simp) (by simp)) rfl
  obtain ⟨s, ⟨_, visits, rfl, run, hadded⟩, -, hgone⟩ := reaches_deleted (letsExit_added .little)
    hleft rfl (fun k => by cases k <;> rfl) (fun k => ⟨by cases k <;> rfl, by cases k <;> rfl, rfl⟩)
  refine ⟨visits, s, run, program_drives_media run hadded .powerline, (hgone .powerline).pc, ?_⟩
  apply (hgone .powerline).destroyed
  intro hunborn
  cases hunborn

end X6losim
