import X6losim.Lib.Frame
import X6losim.Sim.Handover

/-!
# What `start` leaves as it is

`NetworkSimulator::start` changes the open descriptors, the server sockets, the error count and the
nodes of the media.  What does not look at those is the same after it, however it comes to an end.
-/

open Bytes

namespace X6losim

variable {host : ByteOrder} {env : StartEnv}

/-- The stop flag, the unblock pipe, and of each medium the place of its thread and the state
variable. -/
def NetworkSimulator.steady (s : NetworkSimulator) :
    Bool × Int × (Kind → Pc × PhysicalMediumState) :=
  (s.stop, s.readPipe, fun k => ((s.medium k).pc, (s.medium k).med.state))

theorem steady_stop {s t : NetworkSimulator} (h : t.steady = s.steady) :
  t.stop = s.stop
  := congrArg Prod.fst h

theorem steady_readPipe {s t : NetworkSimulator} (h : t.steady = s.steady) :
  t.readPipe = s.readPipe
  := congrArg (fun z => z.2.1) h

theorem steady_medium {s t : NetworkSimulator} (h : t.steady = s.steady) (k : Kind) :
  (t.medium k).pc = (s.medium k).pc ∧ (t.medium k).med.state = (s.medium k).med.state
  := Prod.mk.inj (congrArg (fun z => z.2.2 k) h)

section

open NetworkSimulator Exec

/-! ### A node that is added -/

theorem state_deref (p : NodePtr) :
  Keeps Medium.state (deref p)
  := by
  apply Keeps.get.bind
  intro m
  cases m.nodes p with
  | live n => apply Keeps.pure
  | unborn => apply Keeps.throw
  | destroyed => apply Keeps.throw

theorem state_assign (p : NodePtr) (n : DeviceNode) :
  Keeps Medium.state (assign p n)
  := by
  apply Keeps.modify
  intro _
  rfl

theorem state_record (e : Event) :
  Keeps Medium.state (record e)
  := by
  apply Keeps.modify
  intro _
  rfl

theorem state_arm (nodeEnv : Env) (p : NodePtr) (t : TimerName) (itValue : Timespec) :
  Keeps Medium.state (arm nodeEnv p t itValue)
  := by
  apply (state_deref p).bind
  intro n
  apply (state_assign p _).bind
  intro _
  apply Keeps.guard
  apply (state_record _).bind
  intro _
  apply Keeps.guard
  apply state_assign

theorem state_newNode (nodeEnv : Env) (p : NodePtr) (socket : UInt64) :
  Keeps Medium.state (newNode nodeEnv p socket)
  := by
  have hsend : Keeps Medium.state (sendRegistrationRequest nodeEnv p) := by
    apply ((state_deref p).bind fun _ => state_record _).bind
    intro _
    apply Keeps.ite
    · apply Keeps.throw
    · apply Keeps.pure
  have hstart : Keeps Medium.state (startTimer nodeEnv p .regTimer) := by
    apply (state_deref p).bind
    intro n
    apply Keeps.guard
    apply state_arm
  exact (state_assign p _).bind fun _ => (state_record _).bind fun _ => hsend.bind fun _ => hstart

/-- The addition of a node does not change the state variable. -/
theorem state_addNode (nodeEnv : Env) (p : NodePtr) (socket : UInt64) :
  Keeps Medium.state (addNode nodeEnv p socket)
  := by
  have hepoll : Keeps Medium.state (epollAdd nodeEnv p) := by
    apply Keeps.guard
    apply Keeps.modify
    intro _
    rfl
  have hinsert : Keeps Medium.state (insertReg p) := by
    apply (state_deref p).bind
    intro n
    apply Keeps.modify
    intro _
    rfl
  apply ((state_newNode nodeEnv p socket).bind fun _ => hepoll).bind
  intro _
  apply hinsert

/-! ### The functions of `start` -/

theorem setupAcceptFdSet_keeps {γ : Type} (f : NetworkSimulator → γ) :
  Keeps f setupAcceptFdSet
  := by
  apply Keeps.get.bind
  intro s
  apply Keeps.guard
  apply Keeps.guard
  apply Keeps.guard
  apply Keeps.pure

section

variable {γ : Type} {f : NetworkSimulator → γ} (hf : ∀ s fds, f { s with fds } = f s)

include hf

theorem acceptOn_keeps (env : AcceptEnv) (k : Kind) (a : Accepting) :
  Keeps f (acceptOn env k a)
  := by
  apply Keeps.get.bind
  intro s
  apply Keeps.ite
  · cases env.accept k with
    | none =>
        apply Keeps.guard
        apply Keeps.pure
    | some fd =>
        apply Keeps.bind
        · apply Keeps.modify
          intro s
          apply hf
        · intro _
          apply Keeps.pure
  · apply Keeps.pure

theorem closeClient_keeps (client : Int) :
  Keeps f (closeClient client)
  := by
  apply Keeps.ite
  · apply Keeps.modify
    intro s
    apply hf
  · apply Keeps.pure

theorem closeClients_keeps (a : Accepting) :
  Keeps f (closeClients a)
  := (closeClient_keeps hf _).bind fun _ => (closeClient_keeps hf _).bind fun _ => Keeps.pure _

theorem acceptUnblocked_keeps (env : AcceptEnv) (a : Accepting) :
  Keeps f (acceptUnblocked env a)
  := by
  apply Keeps.get.bind
  intro s
  apply Keeps.ite
  · exact (closeClients_keeps hf a).bind fun _ => Keeps.pure _
  · apply Keeps.pure

theorem acceptUnknown_keeps (a : Accepting) :
  Keeps f (acceptUnknown a)
  := by
  apply Keeps.ite
  · exact (closeClients_keeps hf a).bind fun _ => Keeps.pure _
  · apply Keeps.pure

/-- `acceptConnections` changes nothing but the open descriptors. -/
theorem acceptConnections_keeps (env : AcceptEnv) :
  Keeps f (acceptConnections env)
  := by
  apply (setupAcceptFdSet_keeps f).bind
  intro fdmax
  apply Keeps.ite
  · apply Keeps.ite
    · apply Keeps.ite
      · apply Keeps.pure
      · apply Keeps.pure
    · apply Keeps.ite
      · apply Keeps.pure
      · exact (acceptOn_keeps hf env _ _).bind fun _ => (acceptOn_keeps hf env _ _).bind fun _ =>
          (acceptUnblocked_keeps hf env _).bind fun _ => (acceptUnknown_keeps hf _).bind fun _ =>
            Keeps.pure _
  · apply Keeps.pure

end

theorem steady_acceptConnections (env : AcceptEnv) :
  Keeps steady (acceptConnections env)
  := by
  apply acceptConnections_keeps
  intro _ _
  rfl

theorem steady_newServer (k : Kind) :
  Keeps steady (newServer env k)
  := by
  rw [newServer]
  cases (env.servers k).socket with
  | none => apply Keeps.throw
  | some fd =>
      apply Keeps.modify
      intro _
      rfl

theorem steady_openServer (k : Kind) :
  Keeps steady (openServer env k)
  := by
  apply Keeps.guard
  apply Keeps.ite
  · apply Keeps.throw
  · apply Keeps.pure

theorem steady_deleteServers :
  Keeps steady deleteServers
  := by
  apply Keeps.modify
  intro _
  rfl

theorem steady_setMedium {s : NetworkSimulator} {k : Kind} {sys : Sys}
    (hpc : sys.pc = (s.medium k).pc) (hstate : sys.med.state = (s.medium k).med.state) :
  (s.setMedium k sys).steady = s.steady
  := by
  have hplaces : (fun j => (((s.setMedium k sys).medium j).pc,
      ((s.setMedium k sys).medium j).med.state)) =
      fun j => ((s.medium j).pc, (s.medium j).med.state) := by
    funext j
    by_cases hj : j = k
    · subst hj
      simp [setMedium, hpc, hstate]
    · simp [setMedium, hj]
  simp only [steady, hplaces]
  rfl

theorem steady_addClient (k : Kind) (client : Int) :
  Keeps steady (addClient host env k client)
  := by
  apply Keeps.ite
  · apply Keeps.bind
    · apply Keeps.modify
      intro _
      rfl
    · intro _
      -- The medium that is set is the one the node has been added to.
      have hstate := state_addNode (env.node k).env (env.node k).ptr (env.node k).socket
      constructor
      · intro s t _ h
        cases hadd : addNode (env.node k).env (env.node k).ptr (env.node k).socket
            (s.medium k).med with
        | ok u m =>
            simp [Sys.step, stepProg, hadd] at h
            rw [← h]
            apply steady_setMedium
            · rfl
            · apply hstate.ok hadd
        | error e m => simp [Sys.step, stepProg, hadd] at h
      · intro s t e' h
        cases hadd : addNode (env.node k).env (env.node k).ptr (env.node k).socket
            (s.medium k).med with
        | ok u m => simp [Sys.step, stepProg, hadd] at h
        | error e m =>
            simp [Sys.step, stepProg, hadd] at h
            rw [← h.2]
            apply steady_setMedium
            · rfl
            · apply hstate.error hadd
  · apply Keeps.pure

theorem steady_handleAccept (client : Kind → Int) (rv : AcceptStatus) :
  Keeps steady (handleAccept host env client rv)
  := by
  cases rv with
  | acceptOk =>
      apply Keeps.bind
      · apply Keeps.modify
        intro _
        rfl
      · intro _
        exact (steady_addClient _ _).bind fun _ => steady_addClient _ _
  | acceptTimeout =>
      apply Keeps.modify
      intro _
      rfl
  | acceptError =>
      apply Keeps.bind
      · apply Keeps.modify
        intro _
        rfl
      · intro _
        apply Keeps.get.bind
        intro s
        apply Keeps.ite
        · exact steady_deleteServers.bind fun _ => Keeps.throw _
        · apply Keeps.pure
  | acceptUnblock => apply Keeps.pure

/-- A step of `start`. -/
theorem steady_startStep (pc : MainPc) :
  Keeps steady (startStep host env pc)
  := by
  cases pc with
  | setup =>
      exact (steady_newServer _).bind fun _ => (steady_newServer _).bind fun _ =>
        (steady_openServer _).bind fun _ => (steady_openServer _).bind fun _ => Keeps.pure _
  | accepting =>
      apply (steady_acceptConnections _).bind
      rintro ⟨rv, client⟩
      apply (steady_handleAccept client rv).bind
      intro _
      apply Keeps.get.bind
      intro s
      apply Keeps.ite
      · apply Keeps.pure
      · exact steady_deleteServers.bind fun _ => Keeps.pure _
  | returned => apply Keeps.pure
  | thrown text => apply Keeps.pure

end

/-! ### How a step ends -/

variable {s s' : NetworkSimulator} {x : Simulation}

/-- `acceptConnections` says that it has been unblocked only when `select` has reported the unblock
pipe. -/
theorem acceptConnections_unblock {acceptEnv : AcceptEnv} {client : Kind → Int}
    (h : acceptConnections acceptEnv s = .ok (.acceptUnblock, client) s') :
  acceptEnv.count ≠ -1 ∧ acceptEnv.acceptFdSet s.readPipe
  := by
  have hfds : ∀ (s : NetworkSimulator) fds, { s with fds }.readPipe = s.readPipe :=
    fun _ _ => rfl
  obtain ⟨fdmax, s₀, hsetup, h⟩ := Exec.bind_eq_ok.mp h
  have hpipe₀ := (setupAcceptFdSet_keeps NetworkSimulator.readPipe).ok hsetup
  rw [Exec.ite_apply] at h
  split at h
  · rw [Exec.ite_apply] at h
    split at h
    · split at h <;> cases h
    · next hcount =>
        rw [Exec.ite_apply] at h
        split at h
        · cases h
        · obtain ⟨a₁, s₁, hhan, h⟩ := Exec.bind_eq_ok.mp h
          obtain ⟨a₂, s₂, hair, h⟩ := Exec.bind_eq_ok.mp h
          obtain ⟨a₃, s₃, hunblock, h⟩ := Exec.bind_eq_ok.mp h
          obtain ⟨a₄, s₄, hunknown, h⟩ := Exec.bind_eq_ok.mp h
          have hpipe₁ := (acceptOn_keeps hfds _ _ _).ok hhan
          have hpipe₂ := (acceptOn_keeps hfds _ _ _).ok hair
          refine ⟨hcount, ?_⟩
          by_contra hnot
          have hrv₂ : a₂.rv ≠ .acceptUnblock := by
            obtain ⟨-, -, -, ⟨-, hrv⟩ | ⟨-, hrv⟩⟩ := acceptOn_both hhan hair rfl
            · rw [hrv]
              simp
            · rw [hrv]
              simp
          have hpipe₃ : acceptEnv.acceptFdSet s₂.readPipe = false := by
            rw [hpipe₂, hpipe₁, hpipe₀]
            simpa using hnot
          have hrv₄ : a₄.rv = .acceptUnblock := by
            rw [Exec.pure_apply] at h
            injection h with hresult
            apply (Prod.mk.inj hresult).1
          simp [acceptUnblocked, hpipe₃] at hunblock
          obtain ⟨rfl, rfl⟩ := hunblock
          apply hrv₂
          rw [acceptUnknown, Exec.ite_apply] at hunknown
          split at hunknown
          · obtain ⟨s₅, hclose⟩ := closeClients_total a₂ s₂
            simp only [Exec.bind_apply, hclose] at hunknown
            cases hunknown
            rw [← hrv₄]
            simp only
            split
            · next hok => simp [hok] at hrv₄
            · rfl
          · cases hunknown
            apply hrv₄
  · cases h

/-- What a step of `start` leaves as it is. -/
theorem startStep_steady {pc : MainPc} (h : Simulation.step host ⟨pc, s⟩ (.main env) = .ok x) :
  x.sim.steady = s.steady
  := by
  have hkeeps : Exec.Keeps NetworkSimulator.steady (startStep host env pc) := steady_startStep pc
  simp only [Simulation.step] at h
  cases hstart : startStep host env pc s with
  | ok pc' t =>
      rw [hstart] at h
      cases h
      apply hkeeps.ok hstart
  | error e t =>
      rw [hstart] at h
      cases e <;> cases h
      apply hkeeps.error hstart

/-- The exceptions of the server sockets. -/
def serverErrors : List String := ["ERROR opening socket", "ERROR on binding", "ERROR on listen"]

theorem newServer_ok {k : Kind} (h : newServer env k s = .ok () s') :
  ∃ fd : Fd, s' = { s with server := Function.update s.server k fd }
  := by
  rw [newServer] at h
  cases hsocket : (env.servers k).socket with
  | none =>
      rw [hsocket] at h
      cases h
  | some fd =>
      rw [hsocket] at h
      cases h
      exact ⟨fd, rfl⟩

theorem newServer_error {k : Kind} {e : Stop} (h : newServer env k s = .error e s') :
  ∃ text ∈ serverErrors, e = .exception text
  := by
  rw [newServer] at h
  cases hsocket : (env.servers k).socket with
  | none =>
      rw [hsocket] at h
      cases h
      exact ⟨_, by simp [serverErrors], rfl⟩
  | some fd =>
      rw [hsocket] at h
      cases h

theorem openServer_ok {k : Kind} (h : openServer env k s = .ok () s') :
  s' = s
  := by
  simp only [openServer, Exec.bind_apply, Exec.ite_apply] at h
  split at h
  · cases h
  · split at h
    · cases h
    · cases h
      rfl

theorem openServer_error {k : Kind} {e : Stop} (h : openServer env k s = .error e s') :
  ∃ text ∈ serverErrors, e = .exception text
  := by
  simp only [openServer, Exec.bind_apply, Exec.ite_apply] at h
  split at h
  · cases h
    exact ⟨_, by simp [serverErrors], rfl⟩
  · split at h
    · cases h
      exact ⟨_, by simp [serverErrors], rfl⟩
    · cases h

/-- The setup leads to the loop, with both server sockets, or to an exception of one of them. -/
theorem setup_result (h : Simulation.step host ⟨.setup, s⟩ (.main env) = .ok x) :
  (x.main = .accepting ∧ x.sim.errCount = s.errCount ∧ ∀ k, 0 ≤ x.sim.server k) ∨
    ∃ text ∈ serverErrors, x.main = .thrown text
  := by
  simp only [Simulation.step] at h
  cases hstart : startStep host env .setup s with
  | ok pc t =>
      left
      rw [hstart] at h
      cases h
      obtain ⟨_, s₁, hhan, hrest⟩ := Exec.bind_eq_ok.mp hstart
      obtain ⟨_, s₂, hair, hrest⟩ := Exec.bind_eq_ok.mp hrest
      obtain ⟨_, s₃, hopen₁, hrest⟩ := Exec.bind_eq_ok.mp hrest
      obtain ⟨_, s₄, hopen₂, hrest⟩ := Exec.bind_eq_ok.mp hrest
      obtain ⟨fd₁, rfl⟩ := newServer_ok hhan
      obtain ⟨fd₂, rfl⟩ := newServer_ok hair
      obtain rfl := openServer_ok hopen₁
      obtain rfl := openServer_ok hopen₂
      cases hrest
      refine ⟨rfl, rfl, ?_⟩
      intro k
      cases k with
      | powerline => simp
      | wireless => simp
  | error e t =>
      right
      have herror : ∃ text ∈ serverErrors, e = .exception text := by
        rcases Exec.bind_eq_error.mp hstart with hhan | ⟨_, s₁, -, hrest⟩
        · apply newServer_error hhan
        rcases Exec.bind_eq_error.mp hrest with hair | ⟨_, s₂, -, hrest⟩
        · apply newServer_error hair
        rcases Exec.bind_eq_error.mp hrest with hopen₁ | ⟨_, s₃, -, hrest⟩
        · apply openServer_error hopen₁
        rcases Exec.bind_eq_error.mp hrest with hopen₂ | ⟨_, s₄, -, hrest⟩
        · apply openServer_error hopen₂
        · cases hrest
      obtain ⟨text, htext, rfl⟩ := herror
      rw [hstart] at h
      cases h
      exact ⟨text, htext, rfl⟩

/-- The setup leads to the loop, or to an exception. -/
theorem setup_main (h : Simulation.step host ⟨.setup, s⟩ (.main env) = .ok x) :
  x.main = .accepting ∨ ∃ text, x.main = .thrown text
  := by
  rcases setup_result h with ⟨hmain, -, -⟩ | ⟨text, -, hmain⟩
  · left
    apply hmain
  · right
    exact ⟨text, hmain⟩

/-- How a round of the loop ends: it goes on, `start` returns, or there is an exception. -/
theorem accepting_result (h : Simulation.step host ⟨.accepting, s⟩ (.main env) = .ok x) :
  (∃ text, acceptConnections env.accept s = .error (.exception text) x.sim ∧
      x.main = .thrown text) ∨
    ∃ rv client s₁, acceptConnections env.accept s = .ok (rv, client) s₁ ∧
      ((∃ text, handleAccept host env client rv s₁ = .error (.exception text) x.sim ∧
          x.main = .thrown text) ∨
        ∃ s₂, handleAccept host env client rv s₁ = .ok () s₂ ∧
          (s.stop = false ∧ rv ≠ .acceptUnblock ∧ x = ⟨.accepting, s₂⟩ ∨
            (s.stop ∨ rv = .acceptUnblock) ∧
              x = ⟨.returned, { s₂ with server := fun _ => -1 }⟩))
  := by
  simp only [Simulation.step, startStep, Exec.bind_apply] at h
  cases haccept : acceptConnections env.accept s with
  | error e s₁ =>
      left
      rw [haccept] at h
      cases e <;> cases h
      exact ⟨_, rfl, rfl⟩
  | ok result s₁ =>
      right
      obtain ⟨rv, client⟩ := result
      refine ⟨rv, client, s₁, rfl, ?_⟩
      simp only [haccept] at h
      cases hhandle : handleAccept host env client rv s₁ with
      | error e s₂ =>
          left
          rw [hhandle] at h
          cases e <;> cases h
          exact ⟨_, rfl, rfl⟩
      | ok u s₂ =>
          right
          refine ⟨s₂, rfl, ?_⟩
          have hstop : s₂.stop = s.stop :=
            (steady_stop ((steady_handleAccept client rv).ok hhandle)).trans
              (steady_stop ((steady_acceptConnections env.accept).ok haccept))
          simp only [hhandle, Exec.get_apply, Exec.ite_apply, hstop] at h
          by_cases hgo : s.stop = false ∧ rv ≠ .acceptUnblock
          · left
            simp only [if_pos hgo, Exec.pure_apply] at h
            cases h
            exact ⟨hgo.1, hgo.2, rfl⟩
          · right
            simp only [if_neg hgo, deleteServers, Exec.bind_apply, Exec.modify_apply,
              Exec.pure_apply] at h
            cases h
            refine ⟨?_, rfl⟩
            by_cases hflag : s.stop = false
            · right
              by_contra hne
              apply hgo ⟨hflag, hne⟩
            · left
              simpa using hflag

/-- The loop goes on as long as the stop flag is not set, and it is left when the flag is set or the
accepts are unblocked, or by an exception. -/
theorem accepting_main (h : Simulation.step host ⟨.accepting, s⟩ (.main env) = .ok x) :
  (x.main = .accepting ∧ s.stop = false) ∨
    (x.main = .returned ∧
      (s.stop ∨ ∃ client t, acceptConnections env.accept s = .ok (.acceptUnblock, client) t)) ∨
    ∃ text, x.main = .thrown text
  := by
  rcases accepting_result h with ⟨text, -, hmain⟩ | ⟨rv, client, s₁, haccept,
    ⟨text, -, hmain⟩ | ⟨s₂, -, ⟨hstop, -, rfl⟩ | ⟨hcause, rfl⟩⟩⟩
  · right; right
    exact ⟨text, hmain⟩
  · right; right
    exact ⟨text, hmain⟩
  · left
    exact ⟨rfl, hstop⟩
  · right; left
    refine ⟨rfl, ?_⟩
    rcases hcause with hstop | rfl
    · left
      apply hstop
    · right
      exact ⟨client, s₁, haccept⟩

end X6losim
