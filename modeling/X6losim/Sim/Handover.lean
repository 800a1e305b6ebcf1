import X6losim.Sim.Accepting

/-!
# What `acceptConnections` hands over

How `NetworkSimulator::acceptConnections` returns, by what `select` has reported and which of the
two accepts succeed.
-/

open Bytes

namespace X6losim

variable {env : AcceptEnv} {s s' : NetworkSimulator} {k : Kind} {fd : Fd}

/-! ### What `acceptConnections` returns -/

/-- The client accepted on a server socket, if `select` has reported one. -/
def AcceptEnv.hand (env : AcceptEnv) (s : NetworkSimulator) (k : Kind) : Option Fd :=
  if env.acceptFdSet (s.server k) then env.accept k else none

/-- `select` has reported a connection on a server socket, and it cannot be accepted. -/
def AcceptEnv.Fails (env : AcceptEnv) (s : NetworkSimulator) (k : Kind) : Prop :=
  env.acceptFdSet (s.server k) ∧ env.accept k = none

/-- One if `select` has reported a connection on a server socket. -/
def AcceptEnv.ready (env : AcceptEnv) (s : NetworkSimulator) (k : Kind) : Int :=
  if env.acceptFdSet (s.server k) then 1 else 0

/-- `select` has reported connections on server sockets and nothing else. -/
structure AcceptEnv.Settled (env : AcceptEnv) (s : NetworkSimulator) : Prop where
  valid : (∀ k, 0 ≤ s.server k) ∧ 0 ≤ s.readPipe
  fdMax : 0 < s.fdMax
  count : env.count = env.ready s .powerline + env.ready s .wireless
  some : env.count ≠ 0
  blocked : env.acceptFdSet s.readPipe = false

/-- What `acceptConnections` sets for a client. -/
def toClient : Option Fd → Int
  | none => -1
  | some fd => fd

@[simp]
theorem toClient_eq_iff {o : Option Fd} :
  toClient o = -1 ↔ o = none
  := by
  cases o with
  | none => simp [toClient]
  | some fd =>
      have hne : (fd : Int) ≠ -1 := by omega
      simp [toClient, hne]

/-- The simulator when a client has been accepted on a server socket. -/
def NetworkSimulator.openFd (s : NetworkSimulator) (k : Kind) : Option Fd → NetworkSimulator
  | none => s
  | some fd => { s with fds := Function.update s.fds fd (some k) }

/-- The simulator when the clients of both server sockets have been accepted. -/
def NetworkSimulator.accepted (s : NetworkSimulator) (env : AcceptEnv) : NetworkSimulator :=
  (s.openFd .powerline (env.hand s .powerline)).openFd .wireless (env.hand s .wireless)

@[simp]
theorem openFd_server (s : NetworkSimulator) (k : Kind) (o : Option Fd) :
  (s.openFd k o).server = s.server
  := by
  cases o <;> rfl

@[simp]
theorem openFd_readPipe (s : NetworkSimulator) (k : Kind) (o : Option Fd) :
  (s.openFd k o).readPipe = s.readPipe
  := by
  cases o <;> rfl

/-- An accept on a server socket that returns. -/
theorem acceptOn_ok {a a' : Accepting} (h : acceptOn env k a s = .ok a' s')
    (hclient : a.client k = -1) :
  a'.client = Function.update a.client k (toClient (env.hand s k)) ∧
    a'.count = a.count - env.ready s k ∧ s' = s.openFd k (env.hand s k) ∧
    (env.Fails s k ∧ a'.rv = .acceptError ∨ ¬ env.Fails s k ∧ a'.rv = a.rv)
  := by
  cases hready : env.acceptFdSet (s.server k) with
  | false =>
      simp [acceptOn, hready] at h
      obtain ⟨rfl, rfl⟩ := h
      simp [AcceptEnv.hand, AcceptEnv.ready, AcceptEnv.Fails, hready, toClient, ← hclient,
        NetworkSimulator.openFd]
  | true =>
      cases haccept : env.accept k with
      | none =>
          simp [acceptOn, hready, haccept] at h
          split at h
          · cases h
          · cases h
            simp [AcceptEnv.hand, AcceptEnv.ready, AcceptEnv.Fails, hready, haccept, toClient,
              NetworkSimulator.openFd]
      | some fd =>
          simp [acceptOn, hready, haccept] at h
          obtain ⟨rfl, rfl⟩ := h
          simp [AcceptEnv.hand, AcceptEnv.ready, AcceptEnv.Fails, hready, haccept, toClient,
            NetworkSimulator.openFd]

theorem closeClient_eq (o : Option Fd) (s : NetworkSimulator) :
  closeClient (toClient o) s = .ok () (match o with
    | none => s
    | some fd => { s with fds := Function.update s.fds fd none })
  := by
  cases o with
  | none => rfl
  | some fd =>
      have hne : (fd : Int) ≠ -1 := by omega
      simp [closeClient, toClient, hne]

/-- Closing the clients that have just been accepted undoes the accepts. -/
theorem closeClients_accepted (hnew : s.NewFds env) {a : Accepting}
    (hclient : a.client = fun k => toClient (env.hand s k)) :
  closeClients a (s.accepted env) = .ok { a with client := fun _ => -1 } s
  := by
  have hclosed : ∀ {k fd}, env.hand s k = some fd → s.fds fd = none := by
    intro k fd hhand
    rw [AcceptEnv.hand] at hhand
    split at hhand
    · apply hnew.closed hhand
    · cases hhand
  have hne : ∀ {fd}, env.hand s .powerline = some fd → env.hand s .wireless ≠ some fd := by
    intro fd hhan hair
    rw [AcceptEnv.hand] at hhan hair
    split at hhan
    · split at hair
      · apply hnew.ne hhan hair
      · cases hair
    · cases hhan
  have hundo : ∀ {k fd}, env.hand s k = some fd → Function.update s.fds fd none = s.fds := by
    intro k fd hhand
    rw [← hclosed hhand]
    apply Function.update_eq_self
  simp only [closeClients, Exec.bind_apply, hclient, closeClient_eq, Exec.pure_apply,
    NetworkSimulator.accepted]
  cases hhan : env.hand s .powerline with
  | none =>
      cases hair : env.hand s .wireless with
      | none => rfl
      | some fd =>
          simp [NetworkSimulator.openFd, hundo hair]
  | some fd =>
      cases hair : env.hand s .wireless with
      | none => simp [NetworkSimulator.openFd, hundo hhan]
      | some fd' =>
          have hfd : fd ≠ fd' := by
            rintro rfl
            apply hne hhan hair
          simp [NetworkSimulator.openFd, Function.update_comm hfd, hundo hhan, hundo hair]

/-- The accepts on both server sockets. -/
theorem acceptOn_both {a₀ a₁ a₂ : Accepting} {s₁ s₂ : NetworkSimulator}
    (hhan : acceptOn env .powerline a₀ s = .ok a₁ s₁)
    (hair : acceptOn env .wireless a₁ s₁ = .ok a₂ s₂) (hclient : a₀.client = fun _ => -1) :
  a₂.client = (fun k => toClient (env.hand s k)) ∧
    a₂.count = a₀.count - (env.ready s .powerline + env.ready s .wireless) ∧
    s₂ = s.accepted env ∧
    ((∃ k, env.Fails s k) ∧ a₂.rv = .acceptError ∨ (∀ k, ¬ env.Fails s k) ∧ a₂.rv = a₀.rv)
  := by
  obtain ⟨hclient₁, hcount₁, rfl, hrv₁⟩ := acceptOn_ok hhan (by rw [hclient])
  obtain ⟨hclient₂, hcount₂, rfl, hrv₂⟩ := acceptOn_ok hair (by simp [hclient₁, hclient])
  have hfails : env.Fails (s.openFd .powerline (env.hand s .powerline)) .wireless ↔
      env.Fails s .wireless := by simp [AcceptEnv.Fails]
  have hready : env.ready (s.openFd .powerline (env.hand s .powerline)) .wireless =
      env.ready s .wireless := by simp [AcceptEnv.ready]
  have hhand : env.hand (s.openFd .powerline (env.hand s .powerline)) .wireless =
      env.hand s .wireless := by simp [AcceptEnv.hand]
  rw [hfails] at hrv₂
  refine ⟨?_, ?_, ?_, ?_⟩
  · funext k
    rw [hclient₂, hclient₁, hhand]
    cases k with
    | powerline => simp
    | wireless => simp
  · rw [hcount₂, hcount₁, hready]
    omega
  · rw [hhand]
    rfl
  · rcases hrv₂ with ⟨hfails₂, hrv₂⟩ | ⟨hfails₂, hrv₂⟩
    · left
      exact ⟨⟨_, hfails₂⟩, hrv₂⟩
    · rcases hrv₁ with ⟨hfails₁, hrv₁⟩ | ⟨hfails₁, hrv₁⟩
      · left
        exact ⟨⟨_, hfails₁⟩, hrv₂.trans hrv₁⟩
      · right
        refine ⟨?_, hrv₂.trans hrv₁⟩
        intro k
        cases k with
        | powerline => apply hfails₁
        | wireless => apply hfails₂

/-- When there are no clients, nothing is closed. -/
theorem acceptUnknown_none {a a' : Accepting} (h : acceptUnknown a s = .ok a' s')
    (hclient : a.client = fun _ => -1) :
  a'.client = (fun _ => -1) ∧ s' = s
  := by
  simp only [acceptUnknown, closeClients, closeClient, hclient, Exec.ite_apply] at h
  split at h
  · cases h
    exact ⟨rfl, rfl⟩
  · cases h
    exact ⟨hclient, rfl⟩

/-- What comes after the accepts: the clients are closed, or left to the caller because `select`
has reported nothing else. -/
theorem acceptEnd_ok {a₂ a₃ a₄ : Accepting} {s₃ : NetworkSimulator} (hnew : s.NewFds env)
    (hunblock : acceptUnblocked env a₂ (s.accepted env) = .ok a₃ s₃)
    (hunknown : acceptUnknown a₃ s₃ = .ok a₄ s')
    (hclient : a₂.client = fun k => toClient (env.hand s k)) :
  ((env.acceptFdSet s.readPipe ∨ a₂.count ≠ 0) ∧ a₄.client = (fun _ => -1) ∧ s' = s) ∨
    (env.acceptFdSet s.readPipe = false ∧ a₂.count = 0 ∧ a₄ = a₂ ∧ s' = s.accepted env)
  := by
  have hpipe : (s.accepted env).readPipe = s.readPipe := by simp [NetworkSimulator.accepted]
  cases hblocked : env.acceptFdSet s.readPipe with
  | true =>
      left
      simp [acceptUnblocked, hpipe, hblocked, closeClients_accepted hnew hclient] at hunblock
      obtain ⟨rfl, rfl⟩ := hunblock
      obtain ⟨hclient₄, rfl⟩ := acceptUnknown_none hunknown rfl
      exact ⟨Or.inl rfl, hclient₄, rfl⟩
  | false =>
      simp [acceptUnblocked, hpipe, hblocked] at hunblock
      obtain ⟨rfl, rfl⟩ := hunblock
      by_cases hzero : a₂.count = 0
      · right
        simp [acceptUnknown, hzero] at hunknown
        obtain ⟨rfl, rfl⟩ := hunknown
        exact ⟨rfl, hzero, rfl, rfl⟩
      · left
        simp [acceptUnknown, hzero, closeClients_accepted hnew hclient] at hunknown
        obtain ⟨rfl, rfl⟩ := hunknown
        exact ⟨Or.inr hzero, rfl, rfl⟩

theorem setupAcceptFdSet_ok {fdmax : Int} (h : setupAcceptFdSet s = .ok fdmax s') :
  fdmax = s.fdMax ∧ s' = s ∧ (∀ k, 0 ≤ s.server k) ∧ 0 ≤ s.readPipe
  := by
  simp only [setupAcceptFdSet, Exec.bind_apply, Exec.get_apply, Exec.ite_apply] at h
  split at h
  · cases h
  · next hhan =>
      split at h
      · cases h
      · next hair =>
          split at h
          · cases h
          · next hpipe =>
              cases h
              refine ⟨rfl, rfl, ?_, not_lt.mp hpipe⟩
              intro k
              cases k with
              | powerline => apply not_lt.mp hhan
              | wireless => apply not_lt.mp hair

theorem setupAcceptFdSet_error {e : Stop} (h : setupAcceptFdSet s = .error e s') :
  s' = s ∧ ¬ env.Settled s
  := by
  have hvalid : s' = s ∧ ((∀ k, 0 ≤ s.server k) → ¬ 0 ≤ s.readPipe) := by
    simp only [setupAcceptFdSet, Exec.bind_apply, Exec.get_apply, Exec.ite_apply] at h
    split at h
    · next hhan =>
        cases h
        exact ⟨rfl, fun hserver => absurd (hserver .powerline) (not_le.mpr hhan)⟩
    · split at h
      · next hair =>
          cases h
          exact ⟨rfl, fun hserver => absurd (hserver .wireless) (not_le.mpr hair)⟩
      · split at h
        · next hpipe =>
            cases h
            exact ⟨rfl, fun _ => not_le.mpr hpipe⟩
        · cases h
  refine ⟨hvalid.1, ?_⟩
  intro hsettled
  apply hvalid.2 hsettled.valid.1 hsettled.valid.2

/-- How `acceptConnections` returns: the clients it has accepted are left to its caller, or there
are none and nothing has changed. -/
theorem acceptConnections_ok {rv : AcceptStatus} {client : Kind → Int} (hnew : s.NewFds env)
    (h : acceptConnections env s = .ok (rv, client) s') :
  (¬ env.Settled s ∧ client = (fun _ => -1) ∧ s' = s) ∨
    (env.Settled s ∧ client = (fun k => toClient (env.hand s k)) ∧ s' = s.accepted env ∧
      ((∃ k, env.Fails s k) ∧ rv = .acceptError ∨ (∀ k, ¬ env.Fails s k) ∧ rv = .acceptOk))
  := by
  obtain ⟨fdmax, s₀, hsetup, h⟩ := Exec.bind_eq_ok.mp h
  obtain ⟨rfl, rfl, hvalid⟩ := setupAcceptFdSet_ok hsetup
  rw [Exec.ite_apply] at h
  split at h
  · next hmax =>
      rw [Exec.ite_apply] at h
      split at h
      · next hcount =>
          have hnone : ¬ env.Settled s₀ := by
            intro hsettled
            have hready := hsettled.count
            simp only [AcceptEnv.ready] at hready
            split at hready <;> split at hready <;> omega
          left
          split at h
          · cases h
            exact ⟨hnone, rfl, rfl⟩
          · cases h
            exact ⟨hnone, rfl, rfl⟩
      · rw [Exec.ite_apply] at h
        split at h
        · next hcount =>
            left
            cases h
            exact ⟨fun hsettled => hsettled.some hcount, rfl, rfl⟩
        · next hcount =>
            obtain ⟨a₁, s₁, hhan, h⟩ := Exec.bind_eq_ok.mp h
            obtain ⟨a₂, s₂, hair, h⟩ := Exec.bind_eq_ok.mp h
            obtain ⟨hclient, hrest, rfl, hrv⟩ := acceptOn_both hhan hair rfl
            obtain ⟨a₃, s₃, hunblock, h⟩ := Exec.bind_eq_ok.mp h
            obtain ⟨a₄, s₄, hunknown, h⟩ := Exec.bind_eq_ok.mp h
            cases h
            change a₂.count = env.count - _ at hrest
            rcases acceptEnd_ok hnew hunblock hunknown hclient with
              ⟨hother, hnone, rfl⟩ | ⟨hblocked, hzero, rfl, rfl⟩
            · left
              refine ⟨?_, hnone, rfl⟩
              intro hsettled
              rcases hother with hblocked | hother
              · rw [hsettled.blocked] at hblocked
                cases hblocked
              · apply hother
                rw [hrest, hsettled.count, Int.sub_self]
            · right
              exact ⟨⟨hvalid, hmax, by omega, hcount, hblocked⟩, hclient, rfl, hrv⟩
  · next hmax =>
      left
      cases h
      exact ⟨fun hsettled => hmax hsettled.fdMax, rfl, rfl⟩

theorem acceptOn_error {a : Accepting} {e : Stop} (h : acceptOn env k a s = .error e s') :
  e = .assertion .acceptConnections
  := by
  simp only [acceptOn, Exec.bind_apply, Exec.get_apply, Exec.ite_apply] at h
  split at h
  · cases haccept : env.accept k with
    | none =>
        simp [haccept] at h
        split at h
        · cases h
          rfl
        · cases h
    | some fd => simp [haccept] at h
  · cases h

/-- Closing clients does not fail. -/
theorem closeClients_total (a : Accepting) (s : NetworkSimulator) :
  ∃ s', closeClients a s = .ok { a with client := fun _ => -1 } s'
  := by
  have hclose : ∀ client s, ∃ s', closeClient client s = .ok () s' := by
    intro client s
    rw [closeClient, Exec.ite_apply]
    split
    · exact ⟨_, rfl⟩
    · exact ⟨_, rfl⟩
  obtain ⟨s₁, hhan⟩ := hclose (a.client .powerline) s
  obtain ⟨s₂, hair⟩ := hclose (a.client .wireless) s₁
  use s₂
  simp [closeClients, hhan, hair]

/-- The exceptions of `acceptConnections` are those of `setupAcceptFdSet`. -/
theorem acceptConnections_setup {text : String}
    (h : acceptConnections env s = .error (.exception text) s') :
  setupAcceptFdSet s = .error (.exception text) s'
  := by
  rcases Exec.bind_eq_error.mp h with hsetup | ⟨fdmax, s₀, hsetup, h⟩
  · apply hsetup
  · rw [Exec.ite_apply] at h
    split at h
    · rw [Exec.ite_apply] at h
      split at h
      · split at h <;> cases h
      · rw [Exec.ite_apply] at h
        split at h
        · cases h
        · rcases Exec.bind_eq_error.mp h with hhan | ⟨a₁, s₁, -, h⟩
          · cases acceptOn_error hhan
          rcases Exec.bind_eq_error.mp h with hair | ⟨a₂, s₂, -, h⟩
          · cases acceptOn_error hair
          rcases Exec.bind_eq_error.mp h with hunblock | ⟨a₃, s₃, -, h⟩
          · obtain ⟨s₃, hclose⟩ := closeClients_total a₂ s₂
            simp only [acceptUnblocked, Exec.bind_apply, Exec.get_apply, Exec.ite_apply, hclose]
              at hunblock
            split at hunblock <;> cases hunblock
          rcases Exec.bind_eq_error.mp h with hunknown | ⟨a₄, s₄, -, h⟩
          · obtain ⟨s₄, hclose⟩ := closeClients_total a₃ s₃
            simp only [acceptUnknown, Exec.bind_apply, Exec.ite_apply, hclose] at hunknown
            split at hunknown <;> cases hunknown
          · cases h
    · cases h

/-- When `acceptConnections` throws, it has accepted nothing. -/
theorem acceptConnections_exception {text : String}
    (h : acceptConnections env s = .error (.exception text) s') :
  s' = s ∧ ¬ env.Settled s
  := setupAcceptFdSet_error (acceptConnections_setup h)

/-- With its server sockets and the unblock pipe, `acceptConnections` does not throw. -/
theorem acceptConnections_valid (hserver : ∀ k, 0 ≤ s.server k) (hpipe : 0 ≤ s.readPipe)
    (text : String) :
  acceptConnections env s ≠ .error (.exception text) s'
  := by
  intro h
  have hsetup := acceptConnections_setup h
  have hhan : ¬ s.server .powerline < 0 := not_lt.mpr (hserver .powerline)
  have hair : ¬ s.server .wireless < 0 := not_lt.mpr (hserver .wireless)
  have hread : ¬ s.readPipe < 0 := not_lt.mpr hpipe
  simp [setupAcceptFdSet, hhan, hair, hread] at hsetup

/-! ### What `acceptConnections` hands over -/

/-- What `acceptConnections` is to return: when all is well every client is a descriptor that has
just been accepted on its server socket, or there is none; otherwise there are no clients, and all
that has been accepted is closed. -/
structure Handover (s s' : NetworkSimulator) (rv : AcceptStatus) (client : Kind → Int) : Prop where
  ok : rv = .acceptOk →
    ∀ k, client k = -1 ∨ ∃ fd : Fd, client k = fd ∧ s.fds fd = none ∧ s'.fds fd = some k
  other : rv ≠ .acceptOk → (∀ k, client k = -1) ∧ s'.fds = s.fds

/-- `select` has reported connections on both server sockets and nothing else; one of them can be
accepted, the other cannot. -/
def AcceptEnv.Mixed (env : AcceptEnv) (s : NetworkSimulator) : Prop :=
  env.Settled s ∧ (∃ k, env.Fails s k) ∧ ∃ k fd, env.hand s k = some fd

theorem hand_closed (hnew : s.NewFds env) (h : env.hand s k = some fd) :
  s.fds fd = none
  := by
  rw [AcceptEnv.hand] at h
  split at h
  · apply hnew.closed h
  · cases h

theorem hand_ne (hnew : s.NewFds env) (h : env.hand s .powerline = some fd) :
  env.hand s .wireless ≠ some fd
  := by
  intro h'
  rw [AcceptEnv.hand] at h h'
  split at h
  · split at h'
    · apply hnew.ne h h'
    · cases h'
  · cases h

theorem accepted_fds (hnew : s.NewFds env) (h : env.hand s k = some fd) :
  (s.accepted env).fds fd = some k
  := by
  cases k with
  | powerline =>
      have hne := hand_ne hnew h
      simp only [NetworkSimulator.accepted, h]
      cases hair : env.hand s .wireless with
      | none => simp [NetworkSimulator.openFd]
      | some fd' =>
          have hfd : fd ≠ fd' := by
            rintro rfl
            apply hne hair
          simp [NetworkSimulator.openFd, hfd]
  | wireless => simp [NetworkSimulator.accepted, h, NetworkSimulator.openFd]

/-- `acceptConnections` hands over what it is to, except when it accepts one client and fails to
accept another. -/
theorem handover_iff {rv : AcceptStatus} {client : Kind → Int} (hnew : s.NewFds env)
    (h : acceptConnections env s = .ok (rv, client) s') :
  Handover s s' rv client ↔ ¬ env.Mixed s
  := by
  rcases acceptConnections_ok hnew h with
    ⟨hnone, rfl, rfl⟩ | ⟨hsettled, rfl, rfl, ⟨hfails, rfl⟩ | ⟨hfails, rfl⟩⟩
  · constructor
    · rintro - ⟨hsettled, -⟩
      apply hnone hsettled
    · intro _
      exact ⟨fun _ _ => Or.inl rfl, fun _ => ⟨fun _ => rfl, rfl⟩⟩
  · constructor
    · rintro hhand ⟨-, -, k, fd, hfd⟩
      have hclient := (hhand.other (by simp)).1 k
      rw [toClient_eq_iff, hfd] at hclient
      cases hclient
    · intro hmixed
      have hempty : ∀ k, env.hand s k = none := by
        intro k
        cases hhand : env.hand s k with
        | none => rfl
        | some fd => apply absurd ⟨hsettled, hfails, k, fd, hhand⟩ hmixed
      refine ⟨by simp, ?_⟩
      intro _
      refine ⟨fun k => by rw [hempty k]; rfl, ?_⟩
      rw [NetworkSimulator.accepted, hempty, hempty]
      rfl
  · constructor
    · rintro - ⟨-, ⟨k, hk⟩, -⟩
      apply hfails k hk
    · intro _
      refine ⟨?_, by simp⟩
      intro _ k
      cases hhand : env.hand s k with
      | none =>
          left
          rfl
      | some fd =>
          right
          exact ⟨fd, rfl, hand_closed hnew hhand, accepted_fds hnew hhand⟩
end X6losim
