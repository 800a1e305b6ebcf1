import X6losim.Invariant.Outbound
import X6losim.Lib.Custody
import X6losim.Sim.Handover

/-!
# Descriptors and their nodes

Every descriptor that has been accepted and is open is in hand, or it is the one of a node that has
been added to the medium of its server socket; and the threads of the media keep that.
-/

open Bytes

namespace X6losim

variable {host : ByteOrder} {env : AcceptEnv} {s s' : NetworkSimulator} {k : Kind} {fd : Fd}

/-! ### Nodes and their descriptors -/

/-- A node has been added to a medium, and not been taken off it. -/
def Medium.Has (m : Medium) (p : NodePtr) : Prop :=
  ∃ key, m.regListMap key = some p ∨ m.nodeHashMap key = some p

theorem Lifecycle.has_iff {m : Medium} {p : NodePtr} (h : Lifecycle m) :
  m.Has p ↔ ∃ n, m.nodes p = .live n
  := by
  constructor
  · rintro ⟨key, hkey | hkey⟩
    · obtain ⟨n, hlive, -⟩ := h.regListMap hkey
      exact ⟨n, hlive⟩
    · obtain ⟨n, hlive, -⟩ := h.nodeHashMap hkey
      exact ⟨n, hlive⟩
  · rintro ⟨n, hlive⟩
    exact ⟨n.socket, (h.placed hlive).onMap⟩

/-- A descriptor is the one of a node that has been added to a medium. -/
def NetworkSimulator.Owns (s : NetworkSimulator) (k : Kind) (p : NodePtr) (fd : Fd) : Prop :=
  (s.medium k).med.Has p ∧ s.sockfd k p = fd

/-- Every descriptor that has been accepted is closed, or it is owned by one node, which has been
added to the medium of the server socket. -/
def NetworkSimulator.EachOwned (s : NetworkSimulator) : Prop := Custody.Owned s.fds s.Owns

/-- The nodes of the media are in order, and every descriptor that is open is in hand or owned by
a node. -/
structure InCustody (s : NetworkSimulator) (hand : Kind → Option Fd) : Prop where
  lifecycle : ∀ k, Lifecycle (s.medium k).med
  custody : Custody s.fds s.Owns hand

namespace InCustody

variable {hand : Kind → Option Fd}

theorem initial (readPipe : Int) :
  InCustody (NetworkSimulator.new readPipe) (fun _ => none)
  where
  lifecycle k := Lifecycle.initial
  custody := by
    apply Custody.empty
    rintro k p fd ⟨⟨key, hkey | hkey⟩, -⟩
    · cases hkey
    · cases hkey

/-- The flag, the server sockets and the error count have nothing to do with it. -/
theorem same (h : InCustody s hand) (hmedium : s'.medium = s.medium)
    (hsockfd : s'.sockfd = s.sockfd) (hfds : s'.fds = s.fds) :
  InCustody s' hand
  := by
  have howns : s'.Owns = s.Owns := by
    funext k p fd
    rw [NetworkSimulator.Owns, hmedium, hsockfd]
    rfl
  constructor
  · rw [hmedium]
    apply h.lifecycle
  · rw [howns, hfds]
    apply h.custody

theorem openFd (h : InCustody s hand) {o : Option Fd} (hhand : hand k = none)
    (hclosed : ∀ fd, o = some fd → s.fds fd = none) :
  InCustody (s.openFd k o) (Function.update hand k o)
  := by
  cases o with
  | none =>
      have hsame : Function.update hand k none = hand := by
        rw [← hhand, Function.update_eq_self]
      rw [hsame]
      apply h
  | some fd => exact ⟨h.lifecycle, h.custody.take hhand (hclosed fd rfl)⟩

theorem accepted (h : InCustody s (fun _ => none)) (hnew : s.NewFds env) :
  InCustody (s.accepted env) (env.hand s)
  := by
  have hhan := h.openFd (k := .powerline) (o := env.hand s .powerline) rfl
    (fun fd hfd => hand_closed hnew hfd)
  have hair := hhan.openFd (k := .wireless) (o := env.hand s .wireless) (by simp) (by
    intro fd hfd
    have hclosed := hand_closed hnew hfd
    cases hhand : env.hand s .powerline with
    | none => apply hclosed
    | some fd' =>
        have hne : fd ≠ fd' := by
          rintro rfl
          apply hand_ne hnew hhand hfd
        simpa [NetworkSimulator.openFd, hne] using hclosed)
  have hboth : Function.update (Function.update (fun _ => none) .powerline
      (env.hand s .powerline)) .wireless (env.hand s .wireless) = env.hand s := by
    funext k
    cases k with
    | powerline => simp
    | wireless => simp
  rw [hboth] at hair
  apply hair

end InCustody

/-! ### The threads of the media -/

/-- What a thread does to a medium: it logs what it does, and it creates no nodes. -/
def Continues (m m' : Medium) : Prop :=
  ∃ es, m'.log = m.log ++ es ∧ ∀ q, m'.nodes q = .unborn ↔ m.nodes q = .unborn

theorem Continues.same {m m' : Medium} {es : List Event} (hlog : m'.log = m.log ++ es)
    (hnodes : m'.nodes = m.nodes) :
  Continues m m'
  := ⟨es, hlog, fun q => by rw [hnodes]⟩

theorem Continues.effect {m : Medium} {eff : Effect} (hguard : eff.Guard m)
    (hne : ∀ p socket, eff ≠ .add p socket) :
  Continues m (eff.apply m)
  := by
  refine ⟨eff.events m, eff.log_apply m, ?_⟩
  intro q
  rcases unborn_apply hguard q with h | ⟨socket, hadd⟩
  · apply h
  · apply absurd hadd (hne q socket)

theorem Continues.effects {m m' : Medium} {effs : List Effect} (heffs : Effects m effs m')
    (hne : ∀ eff ∈ effs, ∀ p socket, eff ≠ .add p socket) :
  Continues m m'
  := by
  induction heffs with
  | nil => exact ⟨[], (List.append_nil _).symm, fun q => Iff.rfl⟩
  | cons hguard _ ih =>
      obtain ⟨es, hlog, hborn⟩ := Continues.effect hguard (hne _ (List.mem_cons_self ..))
      obtain ⟨es', hlog', hborn'⟩ := ih (fun eff heff => hne eff (List.mem_cons_of_mem _ heff))
      refine ⟨es ++ es', ?_, fun q => (hborn' q).trans (hborn q)⟩
      rw [hlog', hlog, List.append_assoc]

theorem Next.continues {kind : Kind} {x x' : Sys} {nodeEnv : Env}
    (hnext : Next host kind x (.run nodeEnv) x') :
  Continues x.med x'.med
  := by
  cases hnext with
  | move => exact .same (List.append_nil _).symm rfl
  | start => exact .same (List.append_nil _).symm rfl
  | interval => exact .same rfl rfl
  | poll hdata hlive heff hguard => apply Continues.effect hguard heff.not_add
  | unblocked => exact .same (List.append_nil _).symm rfl
  | mark => exact .same (List.append_nil _).symm rfl
  | answer hguard => exact .effect hguard (by simp)
  | collide hkind hguard => exact .effect hguard (by simp)
  | conclude hguard => exact .effect hguard (by simp)
  | resetIdle => exact .same (List.append_nil _).symm rfl
  | sweep heffs hexpiry =>
      apply Continues.effects heffs
      intro eff heff
      apply (hexpiry eff heff).not_add
  | exiting => exact .same (List.append_nil _).symm rfl

/-- A node is on a medium when it has been created and not been deleted. -/
theorem Lifecycle.has_iff_cell {m : Medium} {p : NodePtr} (h : Lifecycle m) :
  m.Has p ↔ m.nodes p ≠ .unborn ∧ m.nodes p ≠ .destroyed
  := by
  rw [h.has_iff]
  cases m.nodes p <;> simp

/-- The nodes a thread deletes are on the medium, and those it leaves on it are the others. -/
theorem Continues.has_iff {m m' : Medium} {es : List Event} (h : Lifecycle m) (h' : Lifecycle m')
    (hlog : m'.log = m.log ++ es) (hborn : ∀ q, m'.nodes q = .unborn ↔ m.nodes q = .unborn)
    (q : NodePtr) :
  (m'.Has q ↔ m.Has q ∧ .deleteNode q ∉ es) ∧ (.deleteNode q ∈ es → m.Has q)
  := by
  have hcount := h'.deleted q
  rw [hlog, List.count_append, h.deleted q] at hcount
  rw [h'.has_iff_cell, h.has_iff_cell, Ne, Ne, hborn q, ← List.count_pos_iff]
  by_cases hdestroyed : m.nodes q = .destroyed
  · rw [if_pos hdestroyed] at hcount
    have hle : (if m'.nodes q = .destroyed then 1 else 0) ≤ 1 := by split <;> omega
    have hnone : es.count (.deleteNode q) = 0 := by omega
    have hdestroyed' : m'.nodes q = .destroyed := by
      by_contra hne
      rw [if_neg hne] at hcount
      omega
    simp [hdestroyed, hdestroyed', hnone]
  · rw [if_neg hdestroyed] at hcount
    by_cases hdestroyed' : m'.nodes q = .destroyed
    · rw [if_pos hdestroyed'] at hcount
      have hsome : 0 < es.count (.deleteNode q) := by omega
      have hne : m.nodes q ≠ .unborn := by
        rw [Ne, ← hborn q, hdestroyed']
        simp
      simp [hdestroyed, hdestroyed', hsome, hne]
    · rw [if_neg hdestroyed'] at hcount
      have hnone : es.count (.deleteNode q) = 0 := by omega
      simp [hdestroyed, hdestroyed', hnone]

/-- What is open when a thread has gone on is what it has not closed. -/
theorem foldl_closeDeleted (sockfd : NodePtr → Fd) (es : List Event) (fds : Fd → Option Kind)
    (fd : Fd) (j : Kind) :
  es.foldl (closeDeleted sockfd) fds fd = some j ↔
    fds fd = some j ∧ ∀ p, .deleteNode p ∈ es → sockfd p ≠ fd
  := by
  induction es generalizing fds with
  | nil => simp
  | cons e es ih =>
      rw [List.foldl_cons, ih]
      cases e with
      | deleteNode p =>
          by_cases hp : sockfd p = fd
          · simp [closeDeleted, hp]
          · have hne : fd ≠ sockfd p := fun heq => hp heq.symm
            simp [closeDeleted, hp, hne]
      | _ => simp [closeDeleted]

namespace InCustody

variable {hand : Kind → Option Fd}

/-- What is done with a medium logs the nodes it deletes, and creates none. -/
theorem continues {sys : Sys} (h : InCustody s hand) (hlife : Lifecycle sys.med)
    (hcontinues : Continues (s.medium k).med sys.med) :
  InCustody (s.thread k sys) hand
  := by
  obtain ⟨es, hlog, hborn⟩ := hcontinues
  have hhas := fun p => (Continues.has_iff (h.lifecycle k) hlife hlog hborn p).1
  have hhad := fun p => (Continues.has_iff (h.lifecycle k) hlife hlog hborn p).2
  have hdrop : sys.med.log.drop (s.medium k).med.log.length = es := by
    rw [hlog, List.drop_left]
  constructor
  · intro j
    by_cases hj : j = k
    · subst hj
      simpa [NetworkSimulator.thread, NetworkSimulator.setMedium] using hlife
    · simpa [NetworkSimulator.thread, NetworkSimulator.setMedium, hj] using h.lifecycle j
  · apply h.custody.drop (k := k) (fun p => (s.medium k).med.Has p ∧ .deleteNode p ∈ es)
    · intro j p fd
      by_cases hj : j = k
      · subst hj
        simp only [NetworkSimulator.Owns, NetworkSimulator.thread, NetworkSimulator.setMedium,
          Function.update_self, hhas p]
        tauto
      · simp [NetworkSimulator.Owns, NetworkSimulator.thread, NetworkSimulator.setMedium, hj]
    · intro fd j
      rw [NetworkSimulator.thread, hdrop, foldl_closeDeleted]
      apply and_congr_right
      intro _
      constructor
      · rintro hleft p ⟨-, hp⟩ ⟨-, hfd⟩
        apply hleft p hp hfd
      · intro hleft p hp hfd
        apply hleft p ⟨hhad p hp, hp⟩ ⟨hhad p hp, hfd⟩

theorem thread {sys : Sys} {nodeEnv : Env} (h : InCustody s hand)
    (henabled : (s.medium k).Enabled (.run nodeEnv))
    (hstep : (s.medium k).step host k (.run nodeEnv) = .ok sys) :
  InCustody (s.thread k sys) hand
  := by
  have hnext := next_of_step henabled hstep
  apply h.continues ((h.lifecycle k).next hnext) hnext.continues

end InCustody
end X6losim
