import X6losim.Invariant.Registration
import X6losim.Sim.Publication
import X6losim.Sim.Session

/-!
# The window between the registration of a socket and the insertion of its node

A node whose socket has been registered with the poller and which has not been inserted yet is on
neither map, and every event of it finds it so.  Every other node with a registered socket is on
a map.
-/

open Bytes

namespace X6losim

variable {host : ByteOrder} {kind : Kind} {env : Env} {m m' : Medium} {p : NodePtr}
  {socket : UInt64}

/-- A node that is not inserted yet: once it is, the lifecycle holds. -/
structure Unpublished (m : Medium) (p : NodePtr) (socket : UInt64) : Prop where
  absent : m.regListMap socket = none
  published : Lifecycle (m.publish p socket)

namespace Unpublished

theorem regListMap (h : Unpublished m p socket) :
  (m.publish p socket).regListMap socket = some p
  := by
  simp [Medium.publish, PMap.insert_new p h.absent]

/-- The node is there, and is registering. -/
theorem live (h : Unpublished m p socket) :
  ∃ n, m.nodes p = .live n ∧ n.socket = socket ∧ n.curState = .registering ∧
    m.nodeHashMap socket = none
  := by
  obtain ⟨n, hlive, hkey⟩ := h.published.regListMap h.regListMap
  have hstate : n.curState = .registering := by
    by_contra hstate
    have hreg := (h.published.registered hlive hstate).2.1
    rw [hkey, h.regListMap] at hreg
    cases hreg
  have hhash := (h.published.registering hlive hstate).2.1
  rw [hkey] at hhash
  exact ⟨n, hlive, hkey, hstate, hhash⟩

/-- The node is on no map. -/
theorem not_onMap (h : Unpublished m p socket) :
  ¬ m.OnMap p
  := by
  obtain ⟨n, hlive, hkey, -, hhash⟩ := h.live
  rintro ⟨map, key, hentry⟩
  cases map with
  | regListMap =>
      have hne : key ≠ socket := by
        rintro rfl
        rw [Medium.map, h.absent] at hentry
        cases hentry
      have hentry' : (m.publish p socket).regListMap key = some p := by
        rw [publish_ne m p hne]
        apply hentry
      obtain ⟨n', hlive', hkey'⟩ := h.published.regListMap hentry'
      rw [Medium.publish, hlive] at hlive'
      cases hlive'
      apply hne (hkey'.symm.trans hkey)
  | nodeHashMap =>
      obtain ⟨n', hlive', hkey'⟩ := h.published.nodeHashMap hentry
      rw [Medium.publish, hlive] at hlive'
      cases hlive'
      rw [← hkey', hkey, Medium.map, hhash] at hentry
      cases hentry

/-- Another node is on the map its state says. -/
theorem placed {q : NodePtr} {n : DeviceNode} (h : Unpublished m p socket)
    (hlive : m.nodes q = .live n) (hq : q ≠ p) :
  m.Placed q n
  := by
  have hne : n.socket ≠ socket := by
    intro hsocket
    obtain ⟨n', hlive', hkey', -⟩ := h.live
    apply hq
    apply h.published.socket_unique hlive hlive' (hsocket.trans hkey'.symm)
  have hplaced := h.published.placed hlive
  constructor
  · intro hstate
    rw [← publish_ne m p hne]
    apply hplaced.registering hstate
  · apply hplaced.registered

end Unpublished

/-- The effects of the thread of a medium on a medium and on the one with a node inserted. -/
theorem apply_publish {eff : Effect} (hthread : eff.OfThread) (hguard : eff.Guard m)
    (hreg : m.regListMap socket = none) (hhash : m.nodeHashMap socket = none) :
  eff.Guard (m.publish p socket) ∧ (eff.apply m).publish p socket = eff.apply (m.publish p socket)
    ∧ (eff.apply m).regListMap socket = none
  := by
  have hother : ∀ {key}, (m.regListMap key).isSome → key ≠ socket := by
    rintro key hkey rfl
    rw [hreg] at hkey
    cases hkey
  have herase : ∀ key, m.regListMap.erase key socket = none := by
    intro key
    by_cases hkey : socket = key
    · subst hkey
      apply PMap.erase_self
    · rw [PMap.erase_ne _ hkey, hreg]
  cases eff with
  | failedRead q n => exact ⟨hguard, rfl, hreg⟩
  | confirm q n os osVersion =>
      obtain ⟨hlive, hstate, hentry⟩ := hguard
      have hne := hother hentry
      refine ⟨⟨hlive, hstate, ?_⟩, ?_, herase _⟩
      · rw [publish_ne m p hne]
        apply hentry
      · simp [Effect.apply, Medium.publish, PMap.erase_insert _ p hne]
  | disconnect q n asked =>
      obtain ⟨hlive, hentry⟩ := hguard
      have hne : n.socket ≠ socket := by
        rintro rfl
        rw [hreg, hhash] at hentry
        simp at hentry
      refine ⟨⟨hlive, ?_⟩, ?_, herase _⟩
      · rw [publish_ne m p hne]
        apply hentry
      · simp [Effect.apply, Medium.publish, Medium.delete, PMap.erase_insert _ p hne,
          PMap.insert_ne _ p hne]
  | request q n => exact ⟨hguard, rfl, hreg⟩
  | transmit q n pkt itValue => exact ⟨hguard, rfl, hreg⟩
  | answer q rest => exact ⟨hguard, rfl, hreg⟩
  | collide => exact ⟨hguard, rfl, hreg⟩
  | conclude i q n pkt buf => exact ⟨hguard, rfl, hreg⟩
  | expire key q n =>
      obtain ⟨hentry, hlive, hkey, hstate, hstarted⟩ := hguard
      have hne : key ≠ socket := hother (by rw [hentry]; rfl)
      refine ⟨⟨?_, hlive, hkey, hstate, hstarted⟩, ?_, herase _⟩
      · rw [publish_ne m p hne]
        apply hentry
      · simp [Effect.apply, Medium.publish, Medium.delete, PMap.erase_insert _ p hne]
  | dispose map key q n => apply False.elim hthread
  | add q socket' => apply False.elim hthread

/-- The effects of the thread of a medium leave a node that is not inserted so. -/
theorem Unpublished.threadEffects (h : Unpublished m p socket) (heffs : ThreadEffects m m') :
  Unpublished m' p socket
  := by
  obtain ⟨effs, heffs, hthread⟩ := heffs
  apply heffs.invariant h hthread
  intro m eff hm hthread hguard
  obtain ⟨-, -, -, -, hhash⟩ := hm.live
  obtain ⟨hguard', hcomm, habsent⟩ := apply_publish (p := p) hthread hguard hm.absent hhash
  use habsent
  rw [hcomm]
  apply hm.published.effect hguard'
  intro q socket' heq
  apply absurd heq (hthread.not_add q socket')

/-- The lifecycle of the nodes while nodes are added in two steps. -/
def Publishing.Ordered (s : Publishing) : Prop :=
  match s.pending with
  | none => Lifecycle s.med
  | some p => ∃ socket, Unpublished s.med p socket

/-- Every step of the two threads keeps the lifecycle. -/
theorem ordered_step {s s' : Publishing} {i : Env × Act} (h : s.Ordered)
    (henabled : (publication host kind).enabled s i)
    (hstep : (publication host kind).step s i = .ok s') :
  s'.Ordered
  := by
  obtain ⟨pending, m⟩ := s
  obtain ⟨env, act⟩ := i
  cases act with
  | register p socket =>
      obtain ⟨rfl, hfresh⟩ := henabled
      rcases createAndRegister_result env p socket m with hok | ⟨text, m₁, herror⟩ | ⟨m₁, herror⟩
      · simp [publication, Act.prog, hok] at hstep
        have hadd := Lifecycle.add h hfresh
        have habsent : m.regListMap socket = none := by
          cases hentry : m.regListMap socket with
          | none => rfl
          | some q =>
              obtain ⟨n, hlive, hkey⟩ := Lifecycle.regListMap h hentry
              apply absurd hkey (hfresh.2 q n hlive)
        rw [← hstep]
        exact ⟨socket, habsent, hadd⟩
      · simp [publication, Act.prog, herror] at hstep
      · simp [publication, Act.prog, herror] at hstep
  | insert =>
      cases pending with
      | none => apply absurd rfl henabled
      | some p =>
          obtain ⟨socket, hm⟩ := h
          obtain ⟨n, hlive, rfl, -⟩ := hm.live
          simp [publication, Act.prog, insertReg_live hlive] at hstep
          rw [← hstep]
          apply hm.published
  | work w =>
      obtain ⟨hthread, henabled⟩ := henabled
      cases hresult : w.prog host kind env m with
      | error e m₁ => simp [publication, Act.prog, hresult] at hstep
      | ok u m₁ =>
          simp [publication, Act.prog, hresult] at hstep
          rw [← hstep]
          cases pending with
          | none =>
              apply Lifecycle.work (m := m) h henabled hresult
          | some p =>
              obtain ⟨socket, hm⟩ := h
              use socket
              rcases work_ok hthread hresult with heffs | rfl
              · apply hm.threadEffects heffs
              · use hm.absent
                apply hm.published.assign .stopping m.curTime

/-- The states of a run are ordered. -/
theorem ordered_run {s t : Publishing} {visits : List (Publishing × Env × Act)}
    (run : (publication host kind).Run s visits t) (h : s.Ordered) :
  t.Ordered
  := by
  apply run.always h
  intro x y i hx henabled hstep
  apply ordered_step hx henabled hstep

/-! ### Events -/

/-- A node with a registered socket that is not waiting for its insertion is on the map its state
says. -/
theorem Publishing.Ordered.placed {s : Publishing} (h : s.Ordered) (hp : p ∈ s.med.interest)
    (hpending : s.pending ≠ some p) :
  ∃ n, s.med.nodes p = .live n ∧ s.med.Placed p n
  := by
  obtain ⟨pending, m⟩ := s
  cases pending with
  | none =>
      obtain ⟨n, hlive⟩ := Lifecycle.interest h hp
      exact ⟨n, hlive, Lifecycle.placed h hlive⟩
  | some q =>
      obtain ⟨socket, hm⟩ := h
      obtain ⟨n, hlive⟩ := hm.published.interest hp
      have hne : p ≠ q := by
        rintro rfl
        apply hpending rfl
      exact ⟨n, hlive, hm.placed hlive hne⟩

/-- An event is reported only for a node with a registered socket. -/
theorem handles_interest {s : Publishing} {i : Env × Act}
    (henabled : (publication host kind).enabled s i) (hhandles : i.2.Handles p) :
  p ∈ s.med.interest
  := by
  obtain ⟨env, act⟩ := i
  cases act with
  | register => cases hhandles
  | insert => cases hhandles
  | work w =>
      cases w with
      | processPollerEvent ev =>
          rcases henabled.2 with hdata | ⟨q, hq, hdata⟩
          · cases hdata.symm.trans hhandles
          · cases hdata.symm.trans hhandles
            apply hq
      | _ => cases hhandles

/-- An event of a node finds it on a map exactly when it is not waiting for its insertion. -/
theorem handled_onMap {s : Publishing} {i : Env × Act} (h : s.Ordered)
    (henabled : (publication host kind).enabled s i) (hhandles : i.2.Handles p) :
  s.med.OnMap p ↔ s.pending ≠ some p
  := by
  constructor
  · intro hmap hpending
    rw [Publishing.Ordered, hpending] at h
    obtain ⟨socket, hm⟩ := h
    apply hm.not_onMap hmap
  · intro hpending
    obtain ⟨n, -, hplaced⟩ := h.placed (handles_interest henabled hhandles) hpending
    rcases hplaced.onMap with hmap | hmap
    · exact ⟨.regListMap, n.socket, hmap⟩
    · exact ⟨.nodeHashMap, n.socket, hmap⟩

/-- The assertions of `registerNode` and `deregisterNode` fail only at an event of a node that is
waiting for its insertion. -/
theorem publication_halts {s : Publishing} {i : Env × Act} {site : Assertion} (h : s.Ordered)
    (hhalts : (publication host kind).Halts s i (.assertion site, m'))
    (hpending : ∀ p, i.2.Handles p → s.pending ≠ some p) :
  site ≠ .registerNode ∧ site ≠ .deregisterNode
  := by
  obtain ⟨henabled, hstep⟩ := hhalts
  obtain ⟨pending, m⟩ := s
  obtain ⟨env, act⟩ := i
  cases act with
  | register p socket =>
      rcases createAndRegister_result env p socket m with hok | ⟨text, m₁, herror⟩ | ⟨m₁, herror⟩
      · simp [publication, Act.prog, hok] at hstep
      · simp [publication, Act.prog, herror] at hstep
      · simp [publication, Act.prog, herror] at hstep
        obtain ⟨rfl, -⟩ := hstep
        simp
  | insert =>
      cases pending with
      | none => apply absurd rfl henabled
      | some p =>
          obtain ⟨socket, hm⟩ := h
          obtain ⟨n, hlive, -⟩ := hm.live
          simp [publication, Act.prog, insertReg_live hlive] at hstep
  | work w =>
      cases hresult : w.prog host kind env m with
      | ok u m₁ => simp [publication, Act.prog, hresult] at hstep
      | error e m₁ =>
          simp [publication, Act.prog, hresult] at hstep
          obtain ⟨rfl, -⟩ := hstep
          cases work_error henabled.1 hresult with
          | event hdata hlive hstop =>
              have hp := handles_interest henabled hdata
              obtain ⟨n, hlive', hplaced⟩ := h.placed hp (hpending _ hdata)
              cases hlive.symm.trans hlive'
              have hsite := hplaced.pollStop hstop
              constructor
              · rintro rfl
                apply hsite (by decide)
              · rintro rfl
                apply hsite (by decide)
          | sweep heffs hexpiry hstop => cases hstop <;> simp
          | other _ _ hsite => rcases hsite site rfl with rfl | rfl <;> simp

/-- In every run and at every step of it, the last one possibly stopping: the node of a handled
event is on a map, and the assertions of `registerNode` and `deregisterNode` hold, if and only if
no event is handled of a node that is waiting for its insertion. -/
theorem handled_onMap_iff {s : Publishing} {i : Env × Act}
    {visits : List (Publishing × Env × Act)}
    (run : (publication host kind).Run ⟨none, Medium.new⟩ visits s)
    (henabled : (publication host kind).enabled s i) :
  (∀ v ∈ visits ++ [(s, i)],
      (∀ p, v.2.2.Handles p → v.1.med.OnMap p) ∧
      ∀ site m', (publication host kind).Halts v.1 v.2 (.assertion site, m') →
        site ≠ .registerNode ∧ site ≠ .deregisterNode) ↔
    ∀ v ∈ visits ++ [(s, i)], ∀ p, v.2.2.Handles p → v.1.pending ≠ some p
  := by
  have hinit : Publishing.Ordered ⟨none, Medium.new⟩ := Lifecycle.initial
  have hordered : ∀ v ∈ visits ++ [(s, i)],
      v.1.Ordered ∧ (publication host kind).enabled v.1 v.2 := by
    rintro ⟨x, j⟩ hv
    rcases List.mem_append.mp hv with hv | hv
    · obtain ⟨before, hrun, -, hen⟩ := run.visited hv
      exact ⟨ordered_run hrun hinit, hen⟩
    · cases List.mem_singleton.mp hv
      exact ⟨ordered_run run hinit, henabled⟩
  constructor
  · intro h v hv p hhandles
    obtain ⟨hs, hen⟩ := hordered v hv
    apply (handled_onMap hs hen hhandles).mp ((h v hv).1 p hhandles)
  · intro h v hv
    obtain ⟨hs, hen⟩ := hordered v hv
    constructor
    · intro p hhandles
      apply (handled_onMap hs hen hhandles).mpr (h v hv p hhandles)
    · intro site m' hhalts
      apply publication_halts hs hhalts (h v hv)

/-! ### A close before and after the insertion -/

/-- A node has been created, and its socket registered with the poller. -/
def Publishing.created (p : NodePtr) (socket : UInt64) : Publishing where
  pending := some p
  med := Medium.new.create p socket

/-- A node has been inserted as well. -/
def Publishing.inserted (p : NodePtr) (socket : UInt64) : Publishing where
  pending := none
  med := (Effect.add p socket).apply Medium.new

theorem run_created (host : ByteOrder) (kind : Kind) (p : NodePtr) (socket : UInt64) :
  (publication host kind).Run ⟨none, Medium.new⟩
    [(⟨none, Medium.new⟩, Env.calm, .register p socket)] (.created p socket)
  := by
  apply Machine.Run.snoc (.nil _)
  · refine ⟨rfl, rfl, ?_⟩
    intro q n hlive
    cases hlive
  · have hok : createAndRegister Env.calm p socket Medium.new
        = .ok () (Medium.new.create p socket) := by
      apply createAndRegister_ok rfl rfl rfl rfl
    simp [publication, Act.prog, hok, Publishing.created]

theorem run_inserted (host : ByteOrder) (kind : Kind) (p : NodePtr) (socket : UInt64) :
  (publication host kind).Run ⟨none, Medium.new⟩
    ([(⟨none, Medium.new⟩, Env.calm, .register p socket)]
      ++ [(.created p socket, Env.calm, .insert)]) (.inserted p socket)
  := by
  apply Machine.Run.snoc (run_created host kind p socket)
  · simp [publication, Act.Enabled, Publishing.created]
  · simp [publication, Act.prog, Publishing.created, insertReg_create, Publishing.inserted]

/-- A node that has been inserted is on a map when its socket is closed. -/
theorem handled_onMap_inserted :
  (Publishing.inserted 1 7).med.OnMap 1
  := by
  have henabled : (publication .little .powerline).enabled (.inserted 1 7)
      (Env.calm, .work (.processPollerEvent (closeEvent 1))) := by
    refine ⟨trivial, Or.inr ⟨1, ?_, rfl⟩⟩
    simp [Publishing.inserted, Effect.apply]
  have h := (handled_onMap_iff (run_inserted .little .powerline 1 7) henabled).mpr (by
    intro v hv p hhandles
    simp only [List.cons_append, List.nil_append, List.mem_cons, List.not_mem_nil, or_false] at hv
    rcases hv with rfl | rfl | rfl
    · cases hhandles
    · cases hhandles
    · simp [Publishing.inserted])
  apply (h _ (List.mem_append_right _ (List.mem_singleton_self _))).1 1 rfl

/-- A node that waits for its insertion is on no map when its socket is closed, and the assertion
of `deregisterNode` fails. -/
theorem close_before_insertion :
  (publication .little .powerline).Reachable (.created 1 7) ∧
    ¬ (Publishing.created 1 7).med.OnMap 1 ∧
    ∃ i m', i.2.Handles 1 ∧
      (publication .little .powerline).Halts (.created 1 7) i (.assertion .deregisterNode, m')
  := by
  have hlive : (Publishing.created 1 7).med.nodes 1 = .live (DeviceNode.registering 7) := by
    simp [Publishing.created, Medium.create, Effect.apply]
  refine ⟨⟨_, _, rfl, run_created .little .powerline 1 7, fun _ _ => trivial⟩, ?_, ?_⟩
  · rintro ⟨map, key, hentry⟩
    cases map <;> cases hentry
  · obtain ⟨m', herror⟩ := deregisterNode_error hlive rfl rfl
    have hevent : processPollerEvent .little Env.calm (closeEvent 1) (Publishing.created 1 7).med
        = .error (.assertion .deregisterNode) m' := by
      rw [processPollerEvent_closed rfl rfl, herror]
    refine ⟨(Env.calm, .work (.processPollerEvent (closeEvent 1))), m', rfl, ?_, ?_⟩
    · refine ⟨trivial, Or.inr ⟨1, ?_, rfl⟩⟩
      simp [Publishing.created, Medium.create, Effect.apply]
    · simp [publication, Act.prog, Work.prog, hevent]

end X6losim
