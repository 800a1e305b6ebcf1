import X6losim.Invariant.Descriptors

/-!
# Accepted connections

What becomes of a connection that the main thread has accepted: it is owned by one node, which has
been added to the medium of its server socket, or it is closed, unless a client is accepted on one
server socket and another is not accepted on the other, or a client does not get a node that is
added.
-/

open Bytes

namespace X6losim

variable {host : ByteOrder} {env : AcceptEnv} {s s' : NetworkSimulator} {k : Kind} {fd : Fd}

/-! ### Nodes for the clients -/

/-- The node of a client is not made, or not added, because of an exception. -/
def Env.AddThrows (env : Env) : Prop :=
  env.sendMsg = Hdr.size ∧
    (env.nodeTimerCreate = false ∨ env.nodeTimerSettime = false ∨ env.epollCtl = false)

theorem addNode_not_throws {nodeEnv : Env} {p : NodePtr} {socket : UInt64} {u : Unit}
    {m m' : Medium} (h : addNode nodeEnv p socket m = .ok u m') :
  ¬ nodeEnv.AddThrows
  := by
  rintro ⟨hsend, hthrows⟩
  cases hcreate : nodeEnv.nodeTimerCreate with
  | false =>
      rw [addNode_uncreated hsend hcreate] at h
      cases h
  | true =>
      cases hsettime : nodeEnv.nodeTimerSettime with
      | false =>
          rw [addNode_unarmed hsend hcreate hsettime] at h
          cases h
      | true =>
          have hepoll : nodeEnv.epollCtl = false := by simpa [hcreate, hsettime] using hthrows
          rw [addNode_unpolled hsend hcreate hsettime hepoll] at h
          cases h

/-- A node that is not added because of an exception gets on no map. -/
theorem AddError.throws {nodeEnv : Env} {p : NodePtr} {socket : UInt64} {text : String}
    {m m' : Medium} (h : AddError nodeEnv m p socket (.exception text) m') :
  nodeEnv.AddThrows ∧ m'.regListMap = m.regListMap ∧ m'.nodeHashMap = m.nodeHashMap
  := by
  cases h with
  | create hsend hcreate => exact ⟨⟨hsend, Or.inl hcreate⟩, rfl, rfl⟩
  | arm hsend _ hsettime => exact ⟨⟨hsend, Or.inr (Or.inl hsettime)⟩, rfl, rfl⟩
  | epoll hsend _ _ hepoll => exact ⟨⟨hsend, Or.inr (Or.inr hepoll)⟩, rfl, rfl⟩

/-- The addition of a node puts it on the medium. -/
theorem Next.add_has {kind : Kind} {x x' : Sys} {nodeEnv : Env} {p : NodePtr} {socket : UInt64}
    (h : Lifecycle x.med) (hnext : Next host kind x (.addNode nodeEnv p socket) x') (q : NodePtr) :
  x'.med.Has q ↔ x.med.Has q ∨ q = p
  := by
  rw [(h.next hnext).has_iff, h.has_iff]
  cases hnext with
  | add hfresh =>
      by_cases hq : q = p
      · simp [Effect.apply, hq]
      · simp [Effect.apply, hq]

theorem addClient_eq (host : ByteOrder) (startEnv : StartEnv) (k : Kind) (fd : Fd)
    (s : NetworkSimulator) :
  addClient host startEnv k fd s =
    match (s.medium k).step host k
      (.addNode (startEnv.node k).env (startEnv.node k).ptr (startEnv.node k).socket) with
    | .ok sys => .ok () ((s.setSockfd k (startEnv.node k).ptr fd).setMedium k sys)
    | .error (e, med) => .error e
        ((s.setSockfd k (startEnv.node k).ptr fd).setMedium k ⟨(s.medium k).pc, med⟩)
  := by
  have hne : (fd : Int) ≠ -1 := by omega
  simp only [addClient, Exec.ite_apply, if_pos hne, Exec.bind_apply, Exec.modify_apply,
    Exec.get_apply, Int.toNat_natCast]
  have hmedium : (s.setSockfd k (startEnv.node k).ptr fd).medium = s.medium := rfl
  rw [hmedium]
  cases (s.medium k).step host k
      (.addNode (startEnv.node k).env (startEnv.node k).ptr (startEnv.node k).socket) with
  | ok sys => rfl
  | error x => rfl

namespace InCustody

variable {hand : Kind → Option Fd} {startEnv : StartEnv}

/-- The descriptor of a new node is known before the node is on a map. -/
theorem setSockfd {p : NodePtr} (h : InCustody s hand) (hborn : (s.medium k).med.nodes p = .unborn)
    (fd : Fd) :
  InCustody (s.setSockfd k p fd) hand
  := by
  have hnot : ¬ (s.medium k).med.Has p := by
    rw [(h.lifecycle k).has_iff, hborn]
    rintro ⟨n, hlive⟩
    cases hlive
  have howns : (s.setSockfd k p fd).Owns = s.Owns := by
    funext j q x
    apply propext
    apply and_congr_right
    intro hhas
    by_cases hj : j = k
    · subst hj
      have hq : q ≠ p := by
        rintro rfl
        apply hnot hhas
      simp [NetworkSimulator.setSockfd, hq]
    · simp [NetworkSimulator.setSockfd, hj]
  refine ⟨h.lifecycle, ?_⟩
  rw [howns]
  apply h.custody

/-- A client gets its node, and the node is added. -/
theorem add {sys : Sys} {nodeEnv : Env} {p : NodePtr} {socket : UInt64} (h : InCustody s hand)
    (hhand : hand k = some fd) (henabled : (s.medium k).Enabled (.addNode nodeEnv p socket))
    (hstep : (s.medium k).step host k (.addNode nodeEnv p socket) = .ok sys) :
  InCustody ((s.setSockfd k p fd).setMedium k sys) (Function.update hand k none)
  := by
  have h' := h.setSockfd henabled.2.1 fd
  have hnext := next_of_step henabled hstep
  have hlife := (h.lifecycle k).next hnext
  have hhas := hnext.add_has (h.lifecycle k)
  constructor
  · intro j
    by_cases hj : j = k
    · subst hj
      simpa [NetworkSimulator.setMedium] using hlife
    · simpa [NetworkSimulator.setMedium, hj] using h'.lifecycle j
  · apply h'.custody.give (b := p) hhand
    intro j q x
    by_cases hj : j = k
    · subst hj
      have hfd : (s.setSockfd j p fd).sockfd j p = fd := by simp [NetworkSimulator.setSockfd]
      simp only [NetworkSimulator.Owns, NetworkSimulator.setMedium, Function.update_self, hhas]
      constructor
      · rintro ⟨hq | rfl, hx⟩
        · left
          exact ⟨hq, hx⟩
        · right
          exact ⟨trivial, rfl, hx.symm.trans hfd⟩
      · rintro (⟨hq, hx⟩ | ⟨-, rfl, rfl⟩)
        · exact ⟨Or.inl hq, hx⟩
        · exact ⟨Or.inr rfl, hfd⟩
    · simp [NetworkSimulator.Owns, NetworkSimulator.setMedium, NetworkSimulator.setSockfd, hj]

/-- What becomes of a client: it gets a node that is added, it does not because of an exception,
or an assertion fails. -/
theorem addClient (host : ByteOrder) (h : InCustody s hand)
    (henabled : (s.medium k).Enabled
      (.addNode (startEnv.node k).env (startEnv.node k).ptr (startEnv.node k).socket)) :
  (((hand k).isSome → ¬ (startEnv.node k).env.AddThrows) ∧
      ∃ s', X6losim.addClient host startEnv k (toClient (hand k)) s = .ok () s' ∧
        InCustody s' (Function.update hand k none) ∧ ∀ j, j ≠ k → s'.medium j = s.medium j) ∨
    ((hand k).isSome ∧ (startEnv.node k).env.AddThrows ∧
      ∃ text s', X6losim.addClient host startEnv k (toClient (hand k)) s
          = .error (.exception text) s' ∧ Custody s'.fds s'.Owns hand) ∨
    ∃ e s', X6losim.addClient host startEnv k (toClient (hand k)) s = .error e s' ∧
      ∀ text, e ≠ .exception text
  := by
  cases hhand : hand k with
  | none =>
      left
      have hsame : Function.update hand k none = hand := by rw [← hhand, Function.update_eq_self]
      rw [hsame]
      exact ⟨by simp, s, rfl, h, fun _ _ => rfl⟩
  | some fd =>
      rw [toClient, addClient_eq]
      cases hstep : (s.medium k).step host k
          (.addNode (startEnv.node k).env (startEnv.node k).ptr (startEnv.node k).socket) with
      | ok sys =>
          left
          have hadded := h.add hhand henabled hstep
          have hthrows : ¬ (startEnv.node k).env.AddThrows := by
            cases hadd : X6losim.addNode (startEnv.node k).env (startEnv.node k).ptr
                (startEnv.node k).socket (s.medium k).med with
            | ok u m' => apply addNode_not_throws hadd
            | error e m' => simp [Sys.step, stepProg, hadd] at hstep
          refine ⟨fun _ => hthrows, _, rfl, hadded, ?_⟩
          intro j hj
          simp [NetworkSimulator.setMedium, NetworkSimulator.setSockfd, hj]
      | error x =>
          right
          obtain ⟨e, med⟩ := x
          have herror : AddError (startEnv.node k).env (s.medium k).med (startEnv.node k).ptr
              (startEnv.node k).socket e med := by
            cases hadd : X6losim.addNode (startEnv.node k).env (startEnv.node k).ptr
                (startEnv.node k).socket (s.medium k).med with
            | ok u m' => simp [Sys.step, stepProg, hadd] at hstep
            | error e' m' =>
                simp [Sys.step, stepProg, hadd] at hstep
                obtain ⟨rfl, rfl⟩ := hstep
                apply addNode_error hadd
          cases e with
          | exception text =>
              left
              obtain ⟨hthrows, hreg, hhash⟩ := herror.throws
              refine ⟨rfl, hthrows, text, _, rfl, ?_⟩
              have howns : ((s.setSockfd k (startEnv.node k).ptr fd).setMedium k
                  ⟨(s.medium k).pc, med⟩).Owns
                  = (s.setSockfd k (startEnv.node k).ptr fd).Owns := by
                funext j q x
                by_cases hj : j = k
                · subst hj
                  simp [NetworkSimulator.Owns, NetworkSimulator.setMedium,
                    NetworkSimulator.setSockfd, Medium.Has, hreg, hhash]
                · simp [NetworkSimulator.Owns, NetworkSimulator.setMedium,
                    NetworkSimulator.setSockfd, hj]
              rw [howns]
              apply (h.setSockfd henabled.2.1 fd).custody
          | _ =>
              right
              exact ⟨_, _, rfl, by simp⟩

end InCustody

/-! ### A round of `start` -/

/-- The media, the nodes' descriptors and the open descriptors of a simulator have not changed. -/
structure NetworkSimulator.Same (s s' : NetworkSimulator) : Prop where
  medium : s'.medium = s.medium
  sockfd : s'.sockfd = s.sockfd
  fds : s'.fds = s.fds

theorem InCustody.ofSame {hand : Kind → Option Fd} (h : InCustody s hand) (hsame : s.Same s') :
  InCustody s' hand
  := h.same hsame.medium hsame.sockfd hsame.fds

/-- How a round of `start` ends that does not end the program. -/
theorem accepting_ok {x x' : Simulation} {startEnv : StartEnv} (hmain : x.main = .accepting)
    (hstep : x.step host (.main startEnv) = .ok x') :
  (∃ text, acceptConnections startEnv.accept x.sim = .error (.exception text) x'.sim) ∨
    ∃ rv client s₁, acceptConnections startEnv.accept x.sim = .ok (rv, client) s₁ ∧
      ((∃ s₂, handleAccept host startEnv client rv s₁ = .ok () s₂ ∧ s₂.Same x'.sim) ∨
        ∃ text, handleAccept host startEnv client rv s₁ = .error (.exception text) x'.sim)
  := by
  simp only [Simulation.step, hmain, startStep, Exec.bind_apply] at hstep
  cases haccept : acceptConnections startEnv.accept x.sim with
  | error e s₁ =>
      left
      rw [haccept] at hstep
      cases e <;> cases hstep
      exact ⟨_, rfl⟩
  | ok result s₁ =>
      right
      obtain ⟨rv, client⟩ := result
      refine ⟨rv, client, s₁, rfl, ?_⟩
      simp only [haccept] at hstep
      cases hhandle : handleAccept host startEnv client rv s₁ with
      | error e s₂ =>
          right
          rw [hhandle] at hstep
          cases e <;> cases hstep
          exact ⟨_, rfl⟩
      | ok u s₂ =>
          left
          refine ⟨s₂, rfl, ?_⟩
          simp only [hhandle, Exec.get_apply, Exec.ite_apply] at hstep
          by_cases hgo : s₂.stop = false ∧ rv ≠ .acceptUnblock
          · simp only [if_pos hgo, Exec.pure_apply] at hstep
            cases hstep
            exact ⟨rfl, rfl, rfl⟩
          · simp only [if_neg hgo, deleteServers, Exec.bind_apply, Exec.modify_apply,
              Exec.pure_apply] at hstep
            cases hstep
            exact ⟨rfl, rfl, rfl⟩

/-- Before the loop nothing is done with the media. -/
theorem setup_same {x x' : Simulation} {startEnv : StartEnv} (hmain : x.main = .setup)
    (hstep : x.step host (.main startEnv) = .ok x') :
  x.sim.Same x'.sim
  := by
  have hserver : ∀ (k : Kind) (t : NetworkSimulator),
      (∃ t', newServer startEnv k t = .ok () t' ∧ t.Same t') ∨
        ∃ text, newServer startEnv k t = .error (.exception text) t := by
    intro k t
    rw [newServer]
    cases (startEnv.servers k).socket with
    | none =>
        right
        exact ⟨_, rfl⟩
    | some fd =>
        left
        exact ⟨_, rfl, rfl, rfl, rfl⟩
  have hopen : ∀ (k : Kind) (t : NetworkSimulator), openServer startEnv k t = .ok () t ∨
      ∃ text, openServer startEnv k t = .error (.exception text) t := by
    intro k t
    simp only [openServer, Exec.bind_apply, Exec.ite_apply]
    cases (startEnv.servers k).bind <;> cases (startEnv.servers k).listen <;> simp
  simp only [Simulation.step, hmain, startStep, Exec.bind_apply] at hstep
  rcases hserver .powerline x.sim with ⟨t₁, hhan, hsame₁⟩ | ⟨text, hhan⟩
  · rw [hhan] at hstep
    rcases hserver .wireless t₁ with ⟨t₂, hair, hsame₂⟩ | ⟨text, hair⟩
    · have hsame : x.sim.Same t₂ := ⟨hsame₂.medium.trans hsame₁.medium,
        hsame₂.sockfd.trans hsame₁.sockfd, hsame₂.fds.trans hsame₁.fds⟩
      simp only [hair] at hstep
      rcases hopen .powerline t₂ with hhan | ⟨text, hhan⟩
      · simp only [hhan] at hstep
        rcases hopen .wireless t₂ with hair | ⟨text, hair⟩
        · simp only [hair] at hstep
          cases hstep
          apply hsame
        · simp only [hair] at hstep
          cases hstep
          apply hsame
      · simp only [hhan] at hstep
        cases hstep
        apply hsame
    · simp only [hair] at hstep
      cases hstep
      apply hsame₁
  · simp only [hhan] at hstep
    cases hstep
    exact ⟨rfl, rfl, rfl⟩

/-- Without a client nothing is done with the media. -/
theorem handleAccept_same (host : ByteOrder) (startEnv : StartEnv) (s : NetworkSimulator)
    (rv : AcceptStatus) (client : Kind → Int)
    (hnone : rv = .acceptOk → client = fun _ => -1) :
  (∀ s', handleAccept host startEnv client rv s = .ok () s' → s.Same s') ∧
    ∀ e s', handleAccept host startEnv client rv s = .error e s' → s.Same s'
  := by
  cases rv with
  | acceptOk =>
      obtain rfl := hnone rfl
      constructor
      · intro s' h
        cases h
        exact ⟨rfl, rfl, rfl⟩
      · intro e s' h
        cases h
  | acceptTimeout =>
      constructor
      · intro s' h
        cases h
        exact ⟨rfl, rfl, rfl⟩
      · intro e s' h
        cases h
  | acceptError =>
      simp only [handleAccept, deleteServers, Exec.bind_apply, Exec.modify_apply, Exec.get_apply,
        Exec.ite_apply, Exec.throw_apply, Exec.pure_apply]
      constructor
      · intro s' h
        split at h <;> cases h
        exact ⟨rfl, rfl, rfl⟩
      · intro e s' h
        split at h <;> cases h
        exact ⟨rfl, rfl, rfl⟩
  | acceptUnblock =>
      constructor
      · intro s' h
        cases h
        exact ⟨rfl, rfl, rfl⟩
      · intro e s' h
        cases h

/-- A step leaves a client without an owner: one is accepted and another is not, or its node is
not made or not added. -/
def Loses (x : Simulation) : SimInput → Prop
  | .main startEnv =>
      x.main = .accepting ∧ startEnv.accept.Settled x.sim ∧
        ∃ k fd, startEnv.accept.hand x.sim k = some fd ∧
          ((∃ j, startEnv.accept.Fails x.sim j) ∨ (startEnv.node k).env.AddThrows)
  | .thread _ _ => False
  | .stop => False

/-- All is owned or closed after a step, or what a step has lost is not. -/
inductive Kept (x : Simulation) (i : SimInput) (x' : Simulation) : Prop where
  | kept : ¬ Loses x i → InCustody x'.sim (fun _ => none) → Kept x i x'
  | lost {hand : Kind → Option Fd} {k : Kind} {fd : Fd} : Loses x i →
      Custody x'.sim.fds x'.sim.Owns hand → hand k = some fd → Kept x i x'

namespace InCustody

variable {x x' : Simulation} {startEnv : StartEnv}

/-- The clients that have been handed over get their nodes. -/
theorem handed (h : InCustody x.sim (fun _ => none)) (henabled : x.Enabled (.main startEnv))
    (hmain : x.main = .accepting) (hsettled : startEnv.accept.Settled x.sim)
    (hnone : ∀ k, ¬ startEnv.accept.Fails x.sim k)
    (hresult : (∃ s₂, handleAccept host startEnv
          (fun k => toClient (startEnv.accept.hand x.sim k)) .acceptOk
          (x.sim.accepted startEnv.accept) = .ok () s₂ ∧ s₂.Same x'.sim) ∨
      ∃ text, handleAccept host startEnv
          (fun k => toClient (startEnv.accept.hand x.sim k)) .acceptOk
          (x.sim.accepted startEnv.accept) = .error (.exception text) x'.sim) :
  Kept x (.main startEnv) x'
  := by
  obtain ⟨-, hnew, hnode⟩ := henabled
  obtain ⟨t, ht⟩ : ∃ t, { x.sim.accepted startEnv.accept with errCount := 0 } = t := ⟨_, rfl⟩
  have htaken : InCustody t (startEnv.accept.hand x.sim) := by
    rw [← ht]
    exact (h.accepted hnew).same rfl rfl rfl
  have hmedium : t.medium = x.sim.medium := by
    rw [← ht]
    simp only [NetworkSimulator.accepted]
    cases startEnv.accept.hand x.sim .powerline <;>
      cases startEnv.accept.hand x.sim .wireless <;> rfl
  have hlost : ∀ k, (startEnv.accept.hand x.sim k).isSome → (startEnv.node k).env.AddThrows →
      Loses x (.main startEnv) := by
    intro k hhand hthrows
    obtain ⟨fd, hfd⟩ := Option.isSome_iff_exists.mp hhand
    exact ⟨hmain, hsettled, k, fd, hfd, Or.inr hthrows⟩
  simp only [handleAccept, Exec.bind_apply, Exec.modify_apply, ht] at hresult
  have henabledHan := hnode .powerline
  rw [← hmedium] at henabledHan
  rcases htaken.addClient host henabledHan with
    ⟨hhan, s₂, hok, h₂, hother⟩ | ⟨hsome, hthrows, text, s₂, herror, h₂⟩ | ⟨e, s₂, herror, hne⟩
  · have henabledAir := hnode .wireless
    rw [← hmedium, ← hother _ (by simp)] at henabledAir
    simp only [hok] at hresult
    rcases h₂.addClient host henabledAir with
      ⟨hair, s₃, hok', h₃, -⟩ | ⟨hsome, hthrows, text, s₃, herror, h₃⟩ | ⟨e, s₃, herror, hne⟩
    · rw [Function.update_of_ne (by simp)] at hair hok'
      simp only [hok'] at hresult
      rcases hresult with ⟨s₄, ⟨⟩, hsame⟩ | ⟨text', ⟨⟩⟩
      apply Kept.kept
      · rintro ⟨-, -, k, fd, hfd, ⟨j, hfails⟩ | hthrows⟩
        · apply hnone j hfails
        · cases k with
          | powerline => apply hhan (Option.isSome_iff_exists.mpr ⟨fd, hfd⟩) hthrows
          | wireless => apply hair (Option.isSome_iff_exists.mpr ⟨fd, hfd⟩) hthrows
      · have hempty : Function.update (Function.update (startEnv.accept.hand x.sim) .powerline none)
            .wireless none = fun _ => none := by
          funext k
          cases k with
          | powerline => simp
          | wireless => simp
        rw [hempty] at h₃
        apply h₃.ofSame hsame
    · rw [Function.update_of_ne (by simp)] at hsome herror
      obtain ⟨fd, hfd⟩ := Option.isSome_iff_exists.mp hsome
      simp only [herror] at hresult
      rcases hresult with ⟨s₄, ⟨⟩, -⟩ | ⟨text', ⟨⟩⟩
      have hfd' : Function.update (startEnv.accept.hand x.sim) .powerline none .wireless
          = some fd := by simp [hfd]
      exact Kept.lost (hlost _ hsome hthrows) h₃ hfd'
    · rw [Function.update_of_ne (by simp)] at herror
      simp only [herror] at hresult
      rcases hresult with ⟨s₄, ⟨⟩, -⟩ | ⟨text', ⟨⟩⟩
      apply absurd rfl (hne _)
  · obtain ⟨fd, hfd⟩ := Option.isSome_iff_exists.mp hsome
    simp only [herror] at hresult
    rcases hresult with ⟨s₃, ⟨⟩, -⟩ | ⟨text', ⟨⟩⟩
    exact Kept.lost (hlost _ hsome hthrows) h₂ hfd
  · simp only [herror] at hresult
    rcases hresult with ⟨s₃, ⟨⟩, -⟩ | ⟨text', ⟨⟩⟩
    apply absurd rfl (hne _)

/-- What a step of the main thread does with the connections it accepts. -/
theorem main (h : InCustody x.sim (fun _ => none)) (henabled : x.Enabled (.main startEnv))
    (hstep : x.step host (.main startEnv) = .ok x') :
  Kept x (.main startEnv) x'
  := by
  rcases henabled.1 with hmain | hmain
  · apply Kept.kept
    · rintro ⟨hmain', -⟩
      rw [hmain] at hmain'
      cases hmain'
    · apply h.ofSame (setup_same hmain hstep)
  · have hnew := henabled.2.1
    rcases accepting_ok hmain hstep with ⟨text, haccept⟩ | ⟨rv, client, s₁, haccept, hresult⟩
    · obtain ⟨hsame, hsettled⟩ := acceptConnections_exception haccept
      apply Kept.kept
      · rintro ⟨-, hsettled', -⟩
        apply hsettled hsettled'
      · rw [hsame]
        apply h
    · rcases acceptConnections_ok hnew haccept with
        ⟨hsettled, rfl, rfl⟩ | ⟨hsettled, rfl, rfl, ⟨hfails, rfl⟩ | ⟨hfails, rfl⟩⟩
      · apply Kept.kept
        · rintro ⟨-, hsettled', -⟩
          apply hsettled hsettled'
        · obtain ⟨hok, herror⟩ := handleAccept_same host startEnv x.sim rv
            (fun _ => -1) (fun _ => rfl)
          rcases hresult with ⟨s₂, hhandle, hsame⟩ | ⟨text, hhandle⟩
          · exact (h.ofSame (hok _ hhandle)).ofSame hsame
          · exact h.ofSame (herror _ _ hhandle)
      · have htaken := h.accepted hnew
        obtain ⟨hok, herror⟩ := handleAccept_same host startEnv
          (x.sim.accepted startEnv.accept) .acceptError
          (fun k => toClient (startEnv.accept.hand x.sim k)) (by simp)
        have hleft : InCustody x'.sim (startEnv.accept.hand x.sim) := by
          rcases hresult with ⟨s₂, hhandle, hsame⟩ | ⟨text, hhandle⟩
          · exact (htaken.ofSame (hok _ hhandle)).ofSame hsame
          · exact htaken.ofSame (herror _ _ hhandle)
        by_cases hsome : ∃ k fd, startEnv.accept.hand x.sim k = some fd
        · obtain ⟨k, fd, hfd⟩ := hsome
          exact Kept.lost ⟨hmain, hsettled, k, fd, hfd, Or.inl hfails⟩ hleft.custody hfd
        · have hempty : startEnv.accept.hand x.sim = fun _ => none := by
            funext k
            cases hhand : startEnv.accept.hand x.sim k with
            | none => rfl
            | some fd => apply absurd ⟨k, fd, hhand⟩ hsome
          apply Kept.kept
          · rintro ⟨-, -, k, fd, hfd, -⟩
            apply hsome ⟨k, fd, hfd⟩
          · rw [← hempty]
            apply hleft
      · apply h.handed henabled hmain hsettled hfails hresult

/-- What a step does with the connections that are open. -/
theorem step {i : SimInput} (h : InCustody x.sim (fun _ => none)) (henabled : x.Enabled i)
    (hstep : x.step host i = .ok x') :
  Kept x i x'
  := by
  cases i with
  | main startEnv => apply h.main henabled hstep
  | thread k env =>
      refine Kept.kept (by rintro ⟨⟩) ?_
      simp only [Simulation.step] at hstep
      cases hthread : (x.sim.medium k).step host k (.run env) with
      | ok sys =>
          rw [hthread] at hstep
          cases hstep
          apply h.thread henabled hthread
      | error e =>
          rw [hthread] at hstep
          cases hstep
  | stop =>
      refine Kept.kept (by rintro ⟨⟩) ?_
      cases hstep
      exact h.same rfl rfl rfl

end InCustody

/-! ### Runs of `start` -/

/-- When no step of a run leaves a client without an owner, every descriptor is in order. -/
theorem InCustody.run {x y : Simulation} {visits : List (Simulation × SimInput)}
    (h : InCustody x.sim (fun _ => none)) (run : (networkSimulator host).Run x visits y)
    (hgood : ∀ v ∈ visits, ¬ Loses v.1 v.2) :
  InCustody y.sim (fun _ => none)
  := by
  have hpreserved : ∀ {x y : Simulation} {i : SimInput}, InCustody x.sim (fun _ => none) →
      (networkSimulator host).enabled x i → ¬ Loses x i →
      (networkSimulator host).step x i = .ok y → InCustody y.sim (fun _ => none) := by
    intro x y i hx henabled hgood hstep
    cases hx.step henabled hstep with
    | kept _ hy => apply hy
    | lost hloses => apply absurd hloses hgood
  exact run.invariant (P := fun x => InCustody x.sim (fun _ => none)) h hgood hpreserved

theorem InCustody.eachOwned (h : InCustody s (fun _ => none)) :
  s.EachOwned
  := h.custody.owned_iff.mpr (fun _ => rfl)

/-- What `acceptConnections` accepts is handed over or closed, unless one client is accepted and
another is not; and in a run of `start` every descriptor that has been accepted is always owned by
one node, added to the medium of the server socket, or closed, exactly when no step accepts one
client and not another or leaves a client without a node that is added. -/
theorem accepted_owned_iff (host : ByteOrder) :
  (∀ (env : AcceptEnv) (s s' : NetworkSimulator) (rv : AcceptStatus) (client : Kind → Int),
      s.NewFds env → acceptConnections env s = .ok (rv, client) s' →
      (Handover s s' rv client ↔ ¬ env.Mixed s)) ∧
    ∀ (readPipe : Int) (visits : List (Simulation × SimInput)) (x : Simulation),
      (networkSimulator host).Run ⟨.setup, NetworkSimulator.new readPipe⟩ visits x →
      ((∀ v ∈ visits, v.1.sim.EachOwned) ∧ x.sim.EachOwned ↔ ∀ v ∈ visits, ¬ Loses v.1 v.2)
  := by
  constructor
  · intro env s s' rv client hnew h
    apply handover_iff hnew h
  · intro readPipe visits x run
    have hstart : InCustody (NetworkSimulator.new readPipe) (fun _ => none) := .initial readPipe
    generalize hx₀ : (⟨.setup, NetworkSimulator.new readPipe⟩ : Simulation) = x₀ at run
    have hstart₀ : InCustody x₀.sim (fun _ => none) := by
      rw [← hx₀]
      apply hstart
    induction run with
    | nil => simp [hstart₀.eachOwned]
    | @snoc t u i visits run henabled hstep ih =>
        constructor
        · rintro ⟨hvisits, hu⟩
          have ht := hvisits (t, i) (by simp)
          have hearlier := ih.mp
            ⟨fun v hv => hvisits v (List.mem_append_left _ hv), ht⟩
          have hlast : ¬ Loses t i := by
            cases (hstart₀.run run hearlier).step henabled hstep with
            | kept hkept => apply hkept
            | lost _ hcustody hhand =>
                rw [hcustody.owned_iff.mp hu] at hhand
                cases hhand
          intro v hv
          rcases List.mem_append.mp hv with hv | hv
          · apply hearlier v hv
          · obtain rfl := List.mem_singleton.mp hv
            apply hlast
        · intro hgood
          have hearlier := fun v hv => hgood v (List.mem_append_left _ hv)
          obtain ⟨hvisits, ht⟩ := ih.mpr hearlier
          constructor
          · intro v hv
            rcases List.mem_append.mp hv with hv | hv
            · apply hvisits v hv
            · obtain rfl := List.mem_singleton.mp hv
              apply ht
          · exact (hstart₀.run (run.snoc henabled hstep) hgood).eachOwned

/-- What the system answers when the server sockets get the descriptors 4 and 5. -/
def StartEnv.servers45 (accept : AcceptEnv) : StartEnv where
  servers k := ⟨some (match k with | .powerline => 4 | .wireless => 5), true, true⟩
  accept
  node _ := ⟨Env.calm, 0, 42⟩

/-- The simulator at the beginning of the loop. -/
def Simulation.listening : Simulation where
  main := .accepting
  sim := { NetworkSimulator.new 3 with
    server := Function.update (Function.update (fun _ => -1) .powerline 4) .wireless 5 }

theorem run_listening (host : ByteOrder) (accept : AcceptEnv)
    (hnew : (NetworkSimulator.new 3).NewFds accept) :
  (networkSimulator host).Run ⟨.setup, NetworkSimulator.new 3⟩
    ([] ++ [(⟨.setup, NetworkSimulator.new 3⟩, .main (StartEnv.servers45 accept))])
    Simulation.listening
  := by
  refine (Machine.Run.nil _).snoc ⟨Or.inl rfl, hnew, ?_⟩ rfl
  intro k
  refine ⟨by simp [NetworkSimulator.new], rfl, ?_⟩
  intro q n hq
  cases hq

/-- A client waits on each server socket; the first can be accepted, the second cannot. -/
def AcceptEnv.mixed : AcceptEnv where
  count := 2
  interrupted := false
  acceptFdSet fd := fd = 4 ∨ fd = 5
  accept
    | .powerline => some 7
    | .wireless => none

theorem newFds_mixed (server : Kind → Int) :
  ({ NetworkSimulator.new 3 with server } : NetworkSimulator).NewFds AcceptEnv.mixed
  where
  closed _ := rfl
  ne _ h := by cases h

/-- The client that has been accepted is left in the output, and no node ever gets it. -/
theorem mixed_accept_leaks :
  ∃ visits x x' i, (networkSimulator .big).Run ⟨.setup, NetworkSimulator.new 3⟩ visits x ∧
    x.Enabled i ∧ x.step .big i = .ok x' ∧ ¬ x'.sim.EachOwned ∧
    ∃ env s s' client, s.NewFds env ∧
      acceptConnections env s = .ok (.acceptError, client) s' ∧ client .powerline = 7 ∧
      s'.fds 7 = some .powerline ∧ ¬ Handover s s' .acceptError client
  := by
  have hnew := newFds_mixed Simulation.listening.sim.server
  have henabled : Simulation.listening.Enabled (.main (StartEnv.servers45 AcceptEnv.mixed)) := by
    refine ⟨Or.inr rfl, hnew, ?_⟩
    intro k
    refine ⟨by simp [Simulation.listening, NetworkSimulator.new], rfl, ?_⟩
    intro q n hq
    cases hq
  refine ⟨_, _, _, _, run_listening .big AcceptEnv.mixed (newFds_mixed _), henabled, rfl, ?_,
    _, _, _, _, hnew, rfl, rfl, rfl, ?_⟩
  · intro howned
    obtain ⟨p, ⟨⟨key, hkey | hkey⟩, -⟩, -⟩ := howned 7 .powerline rfl
    · cases hkey
    · cases hkey
  · intro hhand
    have hclient := (hhand.other (by simp)).1 .powerline
    cases hclient

/-- A client waits on a server socket and can be accepted. -/
def AcceptEnv.single : AcceptEnv where
  count := 1
  interrupted := false
  acceptFdSet fd := fd = 4
  accept
    | .powerline => some 7
    | .wireless => none

theorem newFds_single (server : Kind → Int) :
  ({ NetworkSimulator.new 3 with server } : NetworkSimulator).NewFds AcceptEnv.single
  where
  closed _ := rfl
  ne _ h := by cases h

/-- A client is accepted, and it is always closed or owned by its node. -/
theorem accepted_owned_single :
  (∃ s s' client, acceptConnections AcceptEnv.single s = .ok (.acceptOk, client) s' ∧
      client .powerline = 7 ∧ Handover s s' .acceptOk client) ∧
    ∃ visits x, (networkSimulator .big).Run ⟨.setup, NetworkSimulator.new 3⟩ visits x ∧
      x.sim.fds 7 = some .powerline ∧ (∀ v ∈ visits, v.1.sim.EachOwned) ∧ x.sim.EachOwned
  := by
  have hnew := newFds_single Simulation.listening.sim.server
  have hsingle : ∀ k j fd, AcceptEnv.single.hand Simulation.listening.sim k = some fd →
      ¬ AcceptEnv.single.Fails Simulation.listening.sim j := by
    intro k j fd _ ⟨hready, hfails⟩
    cases j with
    | powerline => cases hfails
    | wireless => cases hready
  constructor
  · have haccept : acceptConnections AcceptEnv.single Simulation.listening.sim
        = .ok (.acceptOk, _) _ := rfl
    refine ⟨_, _, _, haccept, rfl, ((accepted_owned_iff .big).1 _ _ _ _ _ hnew haccept).mpr ?_⟩
    rintro ⟨-, ⟨j, hfails⟩, k, fd, hfd⟩
    apply hsingle k j fd hfd hfails
  · have henabled : (networkSimulator .big).enabled Simulation.listening
        (.main (StartEnv.servers45 AcceptEnv.single)) := by
      refine ⟨Or.inr rfl, hnew, ?_⟩
      intro k
      refine ⟨by simp [Simulation.listening, NetworkSimulator.new], rfl, ?_⟩
      intro q n hq
      cases hq
    have run := (run_listening .big AcceptEnv.single (newFds_single _)).snoc henabled rfl
    refine ⟨_, _, run, rfl, ((accepted_owned_iff .big).2 3 _ _ run).mpr ?_⟩
    intro v hv
    rcases List.mem_append.mp hv with hv | hv
    · obtain rfl := List.mem_singleton.mp hv
      rintro ⟨⟨⟩, -⟩
    · obtain rfl := List.mem_singleton.mp hv
      rintro ⟨-, -, k, fd, hfd, ⟨j, hfails⟩ | ⟨-, hthrows⟩⟩
      · apply hsingle k j fd hfd hfails
      · simp [StartEnv.servers45, Env.calm] at hthrows

end X6losim
