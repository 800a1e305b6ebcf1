import X6losim.Sim.Next

/-!
# Work on a medium in any order

The machine `anyOrder` does the pieces of work that `PhysicalMedium::run`, `addNode` and the
destructor consist of, one at a time and in any order.
-/

open Bytes

namespace X6losim

/-- The pieces of work on a medium. -/
inductive Work where
  | addNode (p : NodePtr) (socket : UInt64)
  | processPollerEvent (ev : PollEvent)
  | processCcaEntry
  | txCollisionCheck
  | processTxEntry (i : Nat)
  | checkNodeRegistrationTimeout
  | deleteMedium

/-- The program of a piece of work. -/
def Work.prog (host : ByteOrder) (kind : Kind) (env : Env) : Work → Prog Unit
  | addNode p socket => X6losim.addNode env p socket
  | processPollerEvent ev => do
      let _ ← X6losim.processPollerEvent host env ev
  | processCcaEntry => X6losim.processCcaEntry
  | txCollisionCheck => X6losim.txCollisionCheck kind
  | processTxEntry i => do
      let m ← get
      match m.txList[i]? with
      | none => return
      | some p =>
          let _ ← X6losim.processTxEntry host env i p
  | checkNodeRegistrationTimeout => X6losim.checkNodeRegistrationTimeout env
  | deleteMedium => X6losim.deleteMedium env

/-- When a piece of work can be done, and the answers the system may give. -/
def Work.Enabled (m : Medium) (env : Env) : Work → Prop
  | addNode p socket => m.Fresh p socket
  | processPollerEvent ev => ev.data = .unblocker ∨ ∃ p ∈ m.interest, ev.data = .node p
  | checkNodeRegistrationTimeout => m.regListMap.Walk env.regListWalk
  | deleteMedium => m.regListMap.Walk env.regListWalk ∧ m.nodeHashMap.Walk env.nodeHashWalk
  | _ => True

/-- A medium on which the pieces of work are done in any order. -/
def anyOrder (host : ByteOrder) (kind : Kind) : Machine Medium (Env × Work) (Stop × Medium) where
  init m := m = Medium.new
  enabled m i := i.2.Enabled m i.1
  step m i :=
    match i.2.prog host kind i.1 m with
    | .ok () m' => .ok m'
    | .error e m' => .error (e, m')

/-! ### The work of the thread of a medium -/

/-- The pieces of work of the thread of a medium. -/
def Work.OfThread : Work → Prop
  | addNode _ _ => False
  | deleteMedium => False
  | _ => True

/-- The effects of the thread of a medium: it adds no node, and deletes none with the medium. -/
def Effect.OfThread : Effect → Prop
  | add _ _ => False
  | dispose _ _ _ _ => False
  | _ => True

theorem Effect.OfThread.not_add {eff : Effect} (h : eff.OfThread) (p : NodePtr)
    (socket : UInt64) :
  eff ≠ .add p socket
  := by
  rintro rfl
  apply h

variable {host : ByteOrder} {kind : Kind} {env : Env} {m m' : Medium}

theorem PollEffect.ofThread {ev : PollEvent} {p : NodePtr} {n : DeviceNode} {eff : Effect}
    (h : PollEffect host ev p n eff) :
  eff.OfThread
  := by
  cases h with
  | closed => trivial
  | failedRead => trivial
  | handled _ _ _ _ _ _ _ heff => cases heff <;> trivial

theorem Effect.IsExpiry.ofThread {eff : Effect} (h : eff.IsExpiry env) :
  eff.OfThread
  := by
  obtain ⟨key, p, n, rfl, -⟩ := h
  trivial

/-- A sequence of effects of the thread of a medium. -/
def ThreadEffects (m m' : Medium) : Prop :=
  ∃ effs, Effects m effs m' ∧ ∀ eff ∈ effs, eff.OfThread

theorem ThreadEffects.none (m : Medium) :
  ThreadEffects m m
  := by
  refine ⟨[], .nil m, ?_⟩
  intro eff heff
  cases heff

theorem ThreadEffects.one {eff : Effect} (hguard : eff.Guard m) (h : eff.OfThread) :
  ThreadEffects m (eff.apply m)
  := by
  refine ⟨[eff], .cons hguard (.nil _), ?_⟩
  intro eff' heff'
  obtain rfl := List.mem_singleton.mp heff'
  apply h

/-- What a piece of work does when it does not stop. -/
theorem work_ok {w : Work} (hthread : w.OfThread) (hok : w.prog host kind env m = .ok () m') :
  ThreadEffects m m' ∨ m' = { m with state := .stopping }
  := by
  cases w with
  | addNode p socket => apply False.elim hthread
  | deleteMedium => apply False.elim hthread
  | processPollerEvent ev =>
      rw [Work.prog] at hok
      obtain ⟨goOn, m₁, hev, hok⟩ := Exec.bind_eq_ok.mp hok
      cases hok
      rcases processPollerEvent_ok hev with
        ⟨-, rfl⟩ | ⟨-, rfl⟩ | ⟨-, p, n, eff, hdata, hlive, heff, hguard, rfl⟩
      · left
        apply ThreadEffects.none
      · right
        rfl
      · left
        apply ThreadEffects.one hguard heff.ofThread
  | processCcaEntry =>
      left
      cases hlist : m.ccaList with
      | nil =>
          simp [Work.prog, X6losim.processCcaEntry, hlist] at hok
          rw [← hok]
          apply ThreadEffects.none
      | cons p rest =>
          rcases processCcaEntry_cons hlist with ⟨hlive, hanswer⟩ | ⟨-, hstop⟩
          · rw [Work.prog, hanswer] at hok
            cases hok
            exact ThreadEffects.one ⟨hlist, hlive⟩ trivial
          · rw [Work.prog, hstop] at hok
            cases hok
  | txCollisionCheck =>
      left
      rcases txCollisionCheck_ok hok with ⟨rfl, -⟩ | ⟨-, hguard, rfl⟩
      · apply ThreadEffects.none
      · apply ThreadEffects.one hguard trivial
  | processTxEntry i =>
      left
      cases hentry : m.txList[i]? with
      | none =>
          simp [Work.prog, hentry] at hok
          rw [← hok]
          apply ThreadEffects.none
      | some p =>
          cases htx : X6losim.processTxEntry host env i p m with
          | error e m₁ => simp [Work.prog, hentry, htx] at hok
          | ok j m₁ =>
              simp [Work.prog, hentry, htx] at hok
              rcases processTxEntry_ok hentry htx with
                ⟨-, rfl, -⟩ | ⟨-, n, pkt, buf, hguard, rfl⟩
              · rw [← hok]
                apply ThreadEffects.none
              · rw [← hok]
                apply ThreadEffects.one hguard trivial
  | checkNodeRegistrationTimeout =>
      left
      obtain ⟨effs, heffs, hexpiry, -⟩ := checkRegTimers_ok hok
      exact ⟨effs, heffs, fun eff heff => (hexpiry eff heff).ofThread⟩

/-- Why a piece of work stops the thread: an event of a node does, or a walk of the registration
list map, or it is for a reason that has nothing to do with the maps. -/
inductive WorkStop (host : ByteOrder) (env : Env) (m : Medium) : Work → Stop → Prop where
  | event {ev : PollEvent} {p : NodePtr} {n : DeviceNode} {e : Stop} : ev.data = .node p →
      m.nodes p = .live n → PollStop host m ev n e →
      WorkStop host env m (.processPollerEvent ev) e
  | sweep {m₁ : Medium} {e : Stop} {effs : List Effect} : Effects m effs m₁ →
      (∀ eff ∈ effs, eff.IsExpiry env) → SweepStop m₁ e →
      WorkStop host env m .checkNodeRegistrationTimeout e
  | other (w : Work) (e : Stop) :
      (∀ site, e = .assertion site → site = .timerExpired .txTimer ∨ site = .processTxList) →
      WorkStop host env m w e

theorem processPollerEvent_workStop {ev : PollEvent} {e : Stop}
    (herror : processPollerEvent host env ev m = .error e m') :
  WorkStop host env m (.processPollerEvent ev) e
  := by
  cases hdata : ev.data with
  | unblocker =>
      rcases processPollerEvent_unblocker hdata host env with hok | hok
      · rw [hok] at herror
        cases herror
      · rw [hok] at herror
        cases herror
  | null =>
      rw [processPollerEvent, hdata] at herror
      split at herror
      · cases herror
        exact WorkStop.other _ _ (by simp)
      · split at herror
        · cases herror
          exact WorkStop.other _ _ (by simp)
        · cases herror
  | node p =>
      by_cases hlive : ∃ n, m.nodes p = .live n
      · obtain ⟨n, hlive⟩ := hlive
        have hresult := processPollerEvent_node hlive hdata host env
        rw [herror] at hresult
        apply WorkStop.event hdata hlive hresult
      · have hgone : ∀ n, m.nodes p ≠ .live n := by simpa using hlive
        have hstop : e = .noObject p := by
          by_cases hrdhup : ev.rdhup
          · simp [processPollerEvent_closed hdata hrdhup, deregisterNode, deref_gone hgone]
              at herror
            apply herror.1.symm
          · by_cases hinput : ev.input
            · simp [processPollerEvent_input hdata hrdhup hinput, readMsg, deref_gone hgone]
                at herror
              apply herror.1.symm
            · rw [processPollerEvent, if_neg hrdhup, if_neg hinput] at herror
              cases herror
        rw [hstop]
        exact WorkStop.other _ _ (by simp)

/-- Why a piece of work stops. -/
theorem work_error {w : Work} {e : Stop} (hthread : w.OfThread)
    (herror : w.prog host kind env m = .error e m') :
  WorkStop host env m w e
  := by
  cases w with
  | addNode p socket => apply False.elim hthread
  | deleteMedium => apply False.elim hthread
  | processPollerEvent ev =>
      rcases Exec.bind_eq_error.mp herror with hev | ⟨goOn, m₁, -, hpure⟩
      · apply processPollerEvent_workStop hev
      · cases hpure
  | processCcaEntry =>
      cases hlist : m.ccaList with
      | nil => simp [Work.prog, X6losim.processCcaEntry, hlist] at herror
      | cons p rest =>
          rcases processCcaEntry_cons hlist with ⟨-, hanswer⟩ | ⟨-, hstop⟩
          · rw [Work.prog, hanswer] at herror
            cases herror
          · rw [Work.prog, hstop] at herror
            cases herror
            exact WorkStop.other _ _ (by simp)
  | txCollisionCheck =>
      rcases txCollisionCheck_error herror with ⟨p, -, -, rfl⟩ | rfl
      · exact WorkStop.other _ _ (by simp)
      · exact WorkStop.other _ _ (by simp)
  | processTxEntry i =>
      cases hentry : m.txList[i]? with
      | none => simp [Work.prog, hentry] at herror
      | some p =>
          cases htx : X6losim.processTxEntry host env i p m with
          | ok j m₁ => simp [Work.prog, hentry, htx] at herror
          | error e₁ m₁ =>
              simp [Work.prog, hentry, htx] at herror
              obtain ⟨rfl, rfl⟩ := herror
              apply WorkStop.other
              rintro site rfl
              apply processTxEntry_assertion htx
  | checkNodeRegistrationTimeout =>
      obtain ⟨effs, m₁, heffs, hexpiry, hstop⟩ := checkRegTimers_error herror
      apply WorkStop.sweep heffs hexpiry hstop

end X6losim
