import X6losim.Invariant.Lifecycle
import X6losim.Sim.AnyOrder
import X6losim.Sim.Session

/-!
# Registration, deregistration and deletion in any order

What follows from the lifecycle for a medium on which work is done in any order: where its nodes
are, which of them a sweep and the destructor delete, and that the assertions about the maps and
the registration timers hold.
-/

open Bytes

namespace X6losim

variable {host : ByteOrder} {kind : Kind} {env : Env} {m m' : Medium} {p : NodePtr}
  {n : DeviceNode}

/-! ### Deletions -/

/-- The effects that delete a node. -/
def Effect.IsDeletion (eff : Effect) : Prop :=
  (∃ key p n, eff = .expire key p n) ∨ ∃ map key p n, eff = .dispose map key p n

theorem Effect.IsExpiry.isDeletion {eff : Effect} (h : eff.IsExpiry env) :
  eff.IsDeletion
  := by
  obtain ⟨key, p, n, rfl, -⟩ := h
  left
  exact ⟨key, p, n, rfl⟩

theorem Effect.IsDisposal.isDeletion {map : MapName} {eff : Effect} (h : eff.IsDisposal map) :
  eff.IsDeletion
  := by
  obtain ⟨key, p, n, rfl⟩ := h
  right
  exact ⟨map, key, p, n, rfl⟩

/-- What a pointer leads to is left as it is, or is a node that is deleted. -/
def KeptOrDeleted (m m' : Medium) (p : NodePtr) : Prop :=
  m'.nodes p = m.nodes p ∨ (∃ n, m.nodes p = .live n) ∧ m'.nodes p = .destroyed

theorem delete_keptOrDeleted (hlive : m.nodes p = .live n) (hnodes : m'.nodes = m.nodes)
    (q : NodePtr) :
  KeptOrDeleted m (m'.delete p n) q
  := by
  by_cases hq : q = p
  · subst hq
    right
    exact ⟨⟨n, hlive⟩, by simp [Medium.delete]⟩
  · left
    simp [Medium.delete, hq, hnodes]

/-- A deletion leaves a node as it is or deletes it. -/
theorem deletion_nodes {eff : Effect} (h : eff.IsDeletion) (hguard : eff.Guard m) (q : NodePtr) :
  KeptOrDeleted m (eff.apply m) q
  := by
  obtain ⟨key, p, n, rfl⟩ | ⟨map, key, p, n, rfl⟩ := h
  · apply delete_keptOrDeleted hguard.2.1 rfl
  · apply delete_keptOrDeleted hguard.2.1 (eraseKey_nodes m map key)

/-- Deletions leave a node as it is or delete it. -/
theorem deletions_nodes {effs : List Effect} (heffs : Effects m effs m')
    (hdeletion : ∀ eff ∈ effs, eff.IsDeletion) (q : NodePtr) :
  KeptOrDeleted m m' q
  := by
  apply heffs.invariant (P := fun m' => KeptOrDeleted m m' q) (Or.inl rfl) hdeletion
  intro m₁ eff hm₁ heff hguard
  rcases deletion_nodes heff hguard q with hkept | ⟨hlive, hdestroyed⟩
  · rw [KeptOrDeleted, hkept]
    apply hm₁
  · right
    rcases hm₁ with hm₁ | ⟨hlive', -⟩
    · rw [hm₁] at hlive
      exact ⟨hlive, hdestroyed⟩
    · exact ⟨hlive', hdestroyed⟩

/-- A deletion is an event of the log. -/
theorem KeptOrDeleted.count (h : KeptOrDeleted m m' p) (hbefore : Lifecycle m)
    (hafter : Lifecycle m') :
  m'.log.count (.deleteNode p)
    = m.log.count (.deleteNode p) + if m'.nodes p = m.nodes p then 0 else 1
  := by
  rw [hbefore.deleted p, hafter.deleted p]
  rcases h with hkept | ⟨⟨n, hlive⟩, hdestroyed⟩
  · simp [hkept]
  · simp [hlive, hdestroyed]

/-! ### The registration timeout -/

/-- A node is registering and its time is up. -/
def Medium.RegExpired (m : Medium) (env : Env) (p : NodePtr) : Prop :=
  ∃ n, m.nodes p = .live n ∧ n.curState = .registering ∧ env.Expired p

/-- Only nodes that are registering and whose time is up are deleted by expiries. -/
theorem expiries_nodes {effs : List Effect} (heffs : Effects m effs m')
    (hexpiry : ∀ eff ∈ effs, eff.IsExpiry env) (q : NodePtr) :
  m'.nodes q = m.nodes q ∨ m.RegExpired env q
  := by
  apply heffs.invariant (P := fun m' => m'.nodes q = m.nodes q ∨ m.RegExpired env q)
    (Or.inl rfl) hexpiry
  intro m₁ eff hm₁ heff hguard
  rcases hm₁ with hm₁ | hm₁
  · obtain ⟨key, p, n, rfl, hexpired⟩ := heff
    obtain ⟨-, hlive, -, hstate, -⟩ := hguard
    by_cases hq : q = p
    · subst hq
      rw [hm₁] at hlive
      right
      exact ⟨n, hlive, hstate, hexpired⟩
    · left
      simp [Effect.apply, Medium.delete, hq, hm₁]
  · right
    apply hm₁

/-- A sweep deletes exactly the nodes that are registering and whose time is up. -/
theorem sweep_destroys (h : Lifecycle m) (hwalk : m.regListMap.Walk env.regListWalk)
    (hsweep : checkNodeRegistrationTimeout env m = .ok () m') (p : NodePtr) :
  m.RegExpired env p ∧ m'.nodes p = .destroyed ∨
    ¬ m.RegExpired env p ∧ m'.nodes p = m.nodes p
  := by
  obtain ⟨effs, heffs, hexpiry, hleft⟩ := checkRegTimers_ok hsweep
  have hafter := h.effects heffs (fun eff heff => (hexpiry eff heff).not_add)
  by_cases hexpired : m.RegExpired env p
  · left
    use hexpired
    obtain ⟨n, hlive, hstate, hexpired⟩ := hexpired
    rcases deletions_nodes heffs (fun eff heff => (hexpiry eff heff).isDeletion) p with
      hkept | ⟨-, hdestroyed⟩
    · have hentry := (h.registering hlive hstate).1
      rw [hlive] at hkept
      have hentry' := (hafter.registering hkept hstate).1
      have hkey : n.socket ∈ env.regListWalk := by
        apply (hwalk.2 n.socket).mpr
        rw [hentry]
        rfl
      apply absurd hexpired (hleft _ hkey _ hentry')
    · apply hdestroyed
  · right
    use hexpired
    apply (expiries_nodes heffs hexpiry p).resolve_right hexpired

/-- A sweep stops at no entry of a medium. -/
theorem Lifecycle.sweepStop {site : Assertion} (h : Lifecycle m) :
  ¬ SweepStop m (.assertion site)
  := by
  intro hstop
  cases hstop with
  | key key p n hentry hlive hkey =>
      obtain ⟨n', hlive', hkey'⟩ := h.regListMap hentry
      rw [hlive] at hlive'
      cases hlive'
      apply hkey hkey'
  | timer key p n hentry hlive hstopped =>
      obtain ⟨n', hlive', rfl⟩ := h.regListMap hentry
      rw [hlive] at hlive'
      cases hlive'
      by_cases hstate : n.curState = .registering
      · have hstarted := (h.registering hlive hstate).2.2
        rw [hstopped] at hstarted
        cases hstarted
      · rw [(h.registered hlive hstate).2.1] at hentry
        cases hentry

/-! ### The destructor -/

/-- The entries of a medium are never such that the destructor stops at them. -/
theorem Lifecycle.no_disposeStop {map : MapName} {site : Assertion} {e : Stop}
    (h : Lifecycle m) :
  ¬ DisposeStop map site m e
  := by
  have hentries : ∀ {key p}, m.map map key = some p →
      ∃ n, m.nodes p = .live n ∧ n.socket = key := by
    intro key p hentry
    cases map with
    | regListMap => apply h.regListMap hentry
    | nodeHashMap => apply h.nodeHashMap hentry
  intro hstop
  cases hstop with
  | noObject key p hentry hgone =>
      obtain ⟨n, hn, -⟩ := hentries hentry
      apply hgone n hn
  | key key p n hentry hlive hkey =>
      obtain ⟨n', hn', hkey'⟩ := hentries hentry
      rw [hlive] at hn'
      cases hn'
      apply hkey hkey'

/-- After the destructor has walked both maps, both are empty. -/
theorem disposals_maps {effs effs' : List Effect} {m₁ : Medium} {keys keys' : List UInt64}
    (heffs : Effects m effs m₁) (hdisposal : ∀ eff ∈ effs, eff.IsDisposal .regListMap)
    (hreg : m.regListMap.Walk keys) (hnone : ∀ key ∈ keys, m₁.regListMap key = none)
    (heffs' : Effects m₁ effs' m') (hdisposal' : ∀ eff ∈ effs', eff.IsDisposal .nodeHashMap)
    (hhash : m.nodeHashMap.Walk keys') (hnone' : ∀ key ∈ keys', m'.nodeHashMap key = none)
    (key : UInt64) :
  m'.regListMap key = none ∧ m'.nodeHashMap key = none
  := by
  have hne : MapName.regListMap ≠ .nodeHashMap := by decide
  have hkept : m'.regListMap = m₁.regListMap := disposals_other heffs' hdisposal' hne
  have hkept' : m₁.nodeHashMap = m.nodeHashMap := disposals_other heffs hdisposal hne.symm
  constructor
  · cases hentry : m'.regListMap key with
    | none => rfl
    | some q =>
        rw [hkept] at hentry
        have hbefore : m.regListMap key = some q := disposals_map heffs hdisposal hentry
        have hkey : key ∈ keys := by
          apply (hreg.2 key).mpr
          rw [hbefore]
          rfl
        rw [hnone key hkey] at hentry
        cases hentry
  · cases hentry : m'.nodeHashMap key with
    | none => rfl
    | some q =>
        have hbefore : m₁.nodeHashMap key = some q := disposals_map heffs' hdisposal' hentry
        rw [hkept'] at hbefore
        have hkey : key ∈ keys' := by
          apply (hhash.2 key).mpr
          rw [hbefore]
          rfl
        rw [hnone' key hkey] at hentry
        cases hentry

/-- The destructor does not stop, and deletes every node that is there. -/
theorem deleteMedium_destroys (h : Lifecycle m) (hreg : m.regListMap.Walk env.regListWalk)
    (hhash : m.nodeHashMap.Walk env.nodeHashWalk) :
  ∃ m', deleteMedium env m = .ok () m' ∧ Lifecycle m' ∧
    (∀ p, KeptOrDeleted m m' p) ∧ ∀ p n, m'.nodes p ≠ .live n
  := by
  obtain ⟨effs, m₁, heffs, hdisposal, hresult⟩ :=
    deleteEntries_result .regListMap .destructorRegListMap env.regListWalk m
  have h₁ := h.effects heffs (fun eff heff => (hdisposal eff heff).not_add)
  rcases hresult with ⟨hok, hnone⟩ | ⟨e, m', hstop, -⟩
  · obtain ⟨effs', m₂, heffs', hdisposal', hresult'⟩ :=
      deleteEntries_result .nodeHashMap .destructorNodeHashMap env.nodeHashWalk m₁
    have h₂ := h₁.effects heffs' (fun eff heff => (hdisposal' eff heff).not_add)
    rcases hresult' with ⟨hok', hnone'⟩ | ⟨e, m', hstop, -⟩
    · refine ⟨m₂, by simp [deleteMedium, hok, hok'], h₂, ?_, ?_⟩
      · apply deletions_nodes (heffs.append heffs')
        intro eff heff
        rcases List.mem_append.mp heff with heff | heff
        · apply (hdisposal eff heff).isDeletion
        · apply (hdisposal' eff heff).isDeletion
      · intro p n hlive
        obtain ⟨hempty, hempty'⟩ := disposals_maps heffs hdisposal hreg hnone heffs' hdisposal'
          hhash hnone' n.socket
        rcases (h₂.placed hlive).onMap with hmap | hmap
        · rw [hempty] at hmap
          cases hmap
        · rw [hempty'] at hmap
          cases hmap
    · apply absurd hstop h₂.no_disposeStop
  · apply absurd hstop h₁.no_disposeStop

/-! ### Work in any order -/

/-- The effects of the thread of a medium keep the lifecycle. -/
theorem Lifecycle.threadEffects (h : Lifecycle m) (heffs : ThreadEffects m m') :
  Lifecycle m'
  := by
  obtain ⟨effs, heffs, hthread⟩ := heffs
  apply h.effects heffs
  intro eff heff
  apply (hthread eff heff).not_add

/-- Every piece of work that does not stop keeps the lifecycle. -/
theorem Lifecycle.work {w : Work} (h : Lifecycle m) (henabled : w.Enabled m env)
    (hok : w.prog host kind env m = .ok () m') :
  Lifecycle m'
  := by
  have hwork : w.OfThread → Lifecycle m' := by
    intro hthread
    rcases work_ok hthread hok with heffs | rfl
    · apply h.threadEffects heffs
    · apply h.assign
  cases w with
  | addNode p socket =>
      rcases addNode_result env p socket m with hadd | ⟨text, m₁, herror⟩ | ⟨m₁, herror⟩
      · rw [Work.prog, hadd] at hok
        cases hok
        apply h.add henabled
      · rw [Work.prog, herror] at hok
        cases hok
      · rw [Work.prog, herror] at hok
        cases hok
  | deleteMedium =>
      obtain ⟨m₁, hdelete, h₁, -⟩ := deleteMedium_destroys h henabled.1 henabled.2
      rw [Work.prog, hdelete] at hok
      cases hok
      apply h₁
  | _ => apply hwork trivial

/-- The lifecycle holds whatever work has been done. -/
theorem lifecycle_reachable (h : (anyOrder host kind).Reachable m) :
  Lifecycle m
  := by
  apply h.invariant
  · rintro s rfl
    apply Lifecycle.initial
  · rintro m m' ⟨env, w⟩ hm henabled hstep
    cases hok : w.prog host kind env m with
    | ok u m₁ =>
        simp [anyOrder, hok] at hstep
        rw [← hstep]
        apply hm.work henabled hok
    | error e m₁ => simp [anyOrder, hok] at hstep

/-- The assertions about the maps and the registration timers. -/
def lifecycleAssertions : List Assertion :=
  [.registerNode, .deregisterNode, .checkNodeRegistrationTimeout, .timerExpired .regTimer,
    .destructorRegListMap, .destructorNodeHashMap]

/-- A handler of a node that is on its map does not fail in an assertion about the maps or the
registration timers. -/
theorem Medium.Placed.handlerStop {handler : Handler} {site : Assertion} (h : m.Placed p n)
    (hstop : HandlerStop m n handler (.assertion site)) :
  site ∉ lifecycleAssertions
  := by
  cases hstop with
  | registerNode hstate hreg =>
      rw [h.registering hstate] at hreg
      cases hreg
  | deregisterNode hreg hhash =>
      apply absurd ⟨hreg, hhash⟩ h.not_missed
  | timerStart => decide

/-- No event of a node that is on its map fails in an assertion about the maps or the
registration timers. -/
theorem Medium.Placed.pollStop {ev : PollEvent} {site : Assertion} (h : m.Placed p n)
    (hstop : PollStop host m ev n (.assertion site)) :
  site ∉ lifecycleAssertions
  := by
  cases hstop with
  | closed hrdhup hreg hhash =>
      apply absurd ⟨hreg, hhash⟩ h.not_missed
  | read _ _ _ hread => cases hread <;> decide
  | handled _ _ _ _ _ _ _ hhandler => apply h.handlerStop hhandler

/-- No work fails in an assertion about the maps or the registration timers. -/
theorem Lifecycle.work_error {w : Work} {site : Assertion} (h : Lifecycle m)
    (henabled : w.Enabled m env) (herror : w.prog host kind env m = .error (.assertion site) m') :
  site ∉ lifecycleAssertions
  := by
  have hwork : w.OfThread → site ∉ lifecycleAssertions := by
    intro hthread
    cases X6losim.work_error hthread herror with
    | event hdata hlive hstop => apply (h.placed hlive).pollStop hstop
    | sweep heffs hexpiry hstop =>
        have h₁ := h.effects heffs (fun eff heff => (hexpiry eff heff).not_add)
        apply absurd hstop h₁.sweepStop
    | other _ _ hsite =>
        rcases hsite site rfl with rfl | rfl
        · decide
        · decide
  cases w with
  | addNode p socket =>
      rcases addNode_result env p socket m with hadd | ⟨text, m₁, hstop⟩ | ⟨m₁, hstop⟩
      · rw [Work.prog, hadd] at herror
        cases herror
      · rw [Work.prog, hstop] at herror
        cases herror
      · rw [Work.prog, hstop] at herror
        cases herror
        decide
  | deleteMedium =>
      obtain ⟨m₁, hdelete, -⟩ := deleteMedium_destroys h henabled.1 henabled.2
      rw [Work.prog, hdelete] at herror
      cases herror
  | _ => apply hwork trivial

/-! ### The nodes of a medium -/

/-- Where the nodes of a medium are. -/
structure Medium.NodesPlaced (m : Medium) : Prop where
  /-- Both maps hold live nodes only, each under its id. -/
  maps : ∀ map key p, m.map map key = some p → ∃ n, m.nodes p = .live n ∧ n.getNodeId = key
  /-- A live node is on exactly one of the maps. -/
  exactlyOne : ∀ p n, m.nodes p = .live n →
    Xor (m.regListMap n.getNodeId = some p) (m.nodeHashMap n.getNodeId = some p)
  /-- The nodes on the registration list map. -/
  regListMap : ∀ p n, m.nodes p = .live n →
    (m.regListMap n.getNodeId = some p ↔ n.curState = .registering ∧ n.regTimer.started)
  /-- The nodes on the node hash map. -/
  nodeHashMap : ∀ p n, m.nodes p = .live n →
    (m.nodeHashMap n.getNodeId = some p ↔
      (n.curState = .active ∨ n.curState = .tx) ∧ n.regTimer.started = false)

/-- The lifecycle places the nodes. -/
theorem Lifecycle.nodesPlaced (h : Lifecycle m) :
  m.NodesPlaced
  where
  maps map key p hentry := by
    cases map with
    | regListMap => apply h.regListMap hentry
    | nodeHashMap => apply h.nodeHashMap hentry
  exactlyOne p n hlive := by
    by_cases hstate : n.curState = .registering
    · obtain ⟨hreg, hhash, -⟩ := h.registering hlive hstate
      left
      simp [DeviceNode.getNodeId, hreg, hhash]
    · obtain ⟨hhash, hreg, -⟩ := h.registered hlive hstate
      right
      simp [DeviceNode.getNodeId, hreg, hhash]
  regListMap p n hlive := by
    by_cases hstate : n.curState = .registering
    · obtain ⟨hreg, -, hstarted⟩ := h.registering hlive hstate
      simp [DeviceNode.getNodeId, hreg, hstate, hstarted]
    · obtain ⟨-, hreg, -⟩ := h.registered hlive hstate
      simp [DeviceNode.getNodeId, hreg, hstate]
  nodeHashMap p n hlive := by
    cases hstate : n.curState with
    | registering =>
        obtain ⟨-, hhash, -⟩ := h.registering hlive hstate
        simp [DeviceNode.getNodeId, hhash]
    | active =>
        obtain ⟨hhash, -, hstopped⟩ := h.registered hlive (by simp [hstate])
        simp [DeviceNode.getNodeId, hhash, hstopped]
    | tx =>
        obtain ⟨hhash, -, hstopped⟩ := h.registered hlive (by simp [hstate])
        simp [DeviceNode.getNodeId, hhash, hstopped]

/-- Whatever work has been done on a medium, in any order: its nodes are where they belong and
none has been deleted twice; a sweep deletes exactly the registering nodes whose time is up, and
the destructor every node that is there, once; no work fails in an assertion about the maps or
the registration timers. -/
theorem nodes_placed (h : (anyOrder host kind).Reachable m) :
  m.NodesPlaced ∧
    (∀ p, m.log.count (.deleteNode p) ≤ 1) ∧
    (∀ env m', m.regListMap.Walk env.regListWalk →
      checkNodeRegistrationTimeout env m = .ok () m' →
      ∀ p, m.RegExpired env p ∧ m'.nodes p = .destroyed ∨
        ¬ m.RegExpired env p ∧ m'.nodes p = m.nodes p) ∧
    (∀ env, m.regListMap.Walk env.regListWalk → m.nodeHashMap.Walk env.nodeHashWalk →
      ∃ m', deleteMedium env m = .ok () m' ∧ (∀ p n, m'.nodes p ≠ .live n) ∧
        ∀ p n, m.nodes p = .live n →
          m.log.count (.deleteNode p) = 0 ∧ m'.log.count (.deleteNode p) = 1) ∧
    ∀ i site m', (anyOrder host kind).Halts m i (.assertion site, m') →
      site ∉ lifecycleAssertions
  := by
  have hm := lifecycle_reachable h
  refine ⟨hm.nodesPlaced, ?_, ?_, ?_, ?_⟩
  · intro p
    rw [hm.deleted p]
    split
    · apply le_refl
    · apply Nat.zero_le
  · intro env m' hwalk hsweep p
    apply sweep_destroys hm hwalk hsweep p
  · intro env hreg hhash
    obtain ⟨m', hdelete, hm', hkept, hgone⟩ := deleteMedium_destroys hm hreg hhash
    refine ⟨m', hdelete, hgone, ?_⟩
    intro p n hlive
    have hdestroyed : m'.nodes p = .destroyed := by
      rcases hkept p with hkept | ⟨-, hdestroyed⟩
      · rw [hlive] at hkept
        apply absurd hkept (hgone p n)
      · apply hdestroyed
    use hm.count_live hlive
    rw [hm'.deleted p, if_pos hdestroyed]
  · rintro ⟨env, w⟩ site m' ⟨henabled, hstep⟩
    cases hresult : w.prog host kind env m with
    | ok u m₁ => simp [anyOrder, hresult] at hstep
    | error e m₁ =>
        simp [anyOrder, hresult] at hstep
        obtain ⟨rfl, rfl⟩ := hstep
        apply hm.work_error henabled hresult

/-! ### A medium that has served two nodes -/

/-- A node is added. -/
theorem anyOrder_add {socket : UInt64} (h : (anyOrder host kind).Reachable m)
    (hfresh : m.Fresh p socket) :
  (anyOrder host kind).Reachable ((Effect.add p socket).apply m)
  := by
  have hadd : addNode Env.calm p socket m = .ok () ((Effect.add p socket).apply m) :=
    addNode_ok rfl rfl rfl rfl p socket m
  refine h.step (i := (Env.calm, .addNode p socket)) ?_ ?_
  · apply hfresh
  · simp [anyOrder, Work.prog, hadd]

/-- An event of a node is processed. -/
theorem anyOrder_event {ev : PollEvent} {goOn : Bool} (h : (anyOrder host kind).Reachable m)
    (hdata : ev.data = .node p) (hinterest : p ∈ m.interest)
    (hevent : processPollerEvent host .calm ev m = .ok goOn m') :
  (anyOrder host kind).Reachable m'
  := by
  refine h.step (i := (Env.calm, .processPollerEvent ev)) (Or.inr ⟨p, hinterest, hdata⟩) ?_
  simp [anyOrder, Work.prog, hevent]

/-- A node has confirmed its registration, and nothing has been heard of the others. -/
theorem anyOrder_confirmed (host : ByteOrder) (kind : Kind) :
  ∃ m n, (anyOrder host kind).Reachable m ∧ n.socket = 7 ∧ n.curState = .active ∧
    m.nodes = Function.update (fun _ => .unborn) 1 (.live n) ∧ m.regListMap = PMap.empty ∧
    m.nodeHashMap = PMap.empty.insert 7 1
  := by
  have hnone : Medium.new.Fresh 1 7 := ⟨rfl, by rintro q n ⟨⟩⟩
  have hadded : (anyOrder host kind).Reachable ((Effect.add 1 7).apply Medium.new) :=
    anyOrder_add (.initial rfl) hnone
  obtain ⟨os, osVersion, hconfirm⟩ := @handleRegistrationConfirm_frame
    ((Effect.add 1 7).apply Medium.new) 1 7 host rfl rfl
  have hevent : processPollerEvent host .calm (frameEvent 1 (regConFrame host 7))
      ((Effect.add 1 7).apply Medium.new) = .ok true
        ((Effect.confirm 1 (DeviceNode.registering 7) os osVersion).apply
          ((Effect.add 1 7).apply Medium.new)) := by
    rw [processPollerEvent_frame (dispatched_regConFrame host 7) rfl rfl, callHandler, hconfirm]
  refine ⟨_, _, anyOrder_event hadded rfl (by simp [Effect.apply]) hevent, ?_, ?_,
    Function.update_idem .., PMap.erase_insert_self (m := PMap.empty) (k := 7) 1 rfl, rfl⟩
  · rfl
  · rfl

/-- After it, another node has been added and has closed its socket. -/
theorem anyOrder_closed (host : ByteOrder) (kind : Kind) :
  ∃ m n, (anyOrder host kind).Reachable m ∧ n.socket = 7 ∧ n.curState = .active ∧
    m.nodes = Function.update (Function.update (fun _ => .unborn) 1 (.live n)) 2 .destroyed ∧
    m.regListMap = PMap.empty ∧ m.nodeHashMap = PMap.empty.insert 7 1
  := by
  obtain ⟨m, n, h, hsocket, hstate, hnodes, hreg, hhash⟩ := anyOrder_confirmed host kind
  have hfresh : m.Fresh 2 8 := by
    refine ⟨by simp [hnodes], ?_⟩
    intro q n' hq
    by_cases h : q = 1
    · simp [hnodes, h] at hq
      simp [← hq, hsocket]
    · simp [hnodes, h] at hq
  have hlive : ((Effect.add 2 8).apply m).nodes 2 = .live (DeviceNode.registering 8) := by
    simp [Effect.apply]
  have hentry : ((Effect.add 2 8).apply m).regListMap (DeviceNode.registering 8).socket = some 2 :=
    PMap.insert_self (m := m.regListMap) (k := 8) 2 (by rw [hreg]; rfl)
  have hevent : processPollerEvent host .calm (closeEvent 2) ((Effect.add 2 8).apply m)
      = .ok true ((Effect.disconnect 2 (DeviceNode.registering 8) false).apply
          ((Effect.add 2 8).apply m)) := by
    rw [processPollerEvent_closed rfl rfl, deregisterNode_ok hlive (Or.inl (by simp [hentry]))]
  refine ⟨_, n, anyOrder_event (anyOrder_add h hfresh) rfl (by simp [Effect.apply]) hevent,
    hsocket, hstate, ?_, ?_, ?_⟩
  · simp [Effect.apply, Medium.delete, hnodes]
  · rw [← hreg]
    exact PMap.erase_insert_self (m := m.regListMap) (k := 8) 2 (by rw [hreg]; rfl)
  · rw [← hhash]
    exact if_pos (by simp [hentry])

/-- The first node has confirmed its registration, the second has closed its socket, and the third
has still to confirm. -/
structure Medium.Served (m : Medium) (n n' : DeviceNode) : Prop where
  confirmed : m.nodes 1 = .live n
  active : n.curState = .active
  closed : m.nodes 2 = .destroyed
  added : m.nodes 3 = .live n'
  registering : n' = DeviceNode.registering 9
  regListMap : m.regListMap = PMap.empty.insert 9 3
  nodeHashMap : m.nodeHashMap = PMap.empty.insert 7 1

theorem anyOrder_served (host : ByteOrder) (kind : Kind) :
  ∃ m n n', (anyOrder host kind).Reachable m ∧ m.Served n n'
  := by
  obtain ⟨m, n, h, hsocket, hstate, hnodes, hreg, hhash⟩ := anyOrder_closed host kind
  have hfresh : m.Fresh 3 9 := by
    refine ⟨by simp [hnodes], ?_⟩
    intro q n' hq
    by_cases hq₂ : q = 2
    · simp [hnodes, hq₂] at hq
    · by_cases hq₁ : q = 1
      · simp [hnodes, hq₁] at hq
        simp [← hq, hsocket]
      · simp [hnodes, hq₁, hq₂] at hq
  refine ⟨_, n, DeviceNode.registering 9, anyOrder_add h hfresh, ?_, hstate, ?_, ?_, rfl, ?_, hhash⟩
  · simp [Effect.apply, hnodes]
  · simp [Effect.apply, hnodes]
  · simp [Effect.apply]
  · rw [← hreg]
    rfl

/-- A sweep of this medium when the time of all nodes is up deletes the third node and keeps the
first, and the destructor of the medium deletes both. -/
theorem nodes_placed_served :
  ∃ m n n' env m', (anyOrder .little .powerline).Reachable m ∧ m.Served n n' ∧ m.NodesPlaced ∧
    checkNodeRegistrationTimeout env m = .ok () m' ∧ m'.nodes 1 = .live n ∧
    m'.nodes 3 = .destroyed ∧ m.log.count (.deleteNode 2) ≤ 1 ∧
    ∃ env' m₁, deleteMedium env' m = .ok () m₁ ∧ m₁.log.count (.deleteNode 1) = 1 ∧
      m₁.log.count (.deleteNode 3) = 1
  := by
  obtain ⟨m, n, n', h, hserved⟩ := anyOrder_served .little .powerline
  obtain ⟨hplaced, hcount, hsweep, hdelete, -⟩ := nodes_placed h
  have hreg : m.regListMap.Walk [9] := by
    rw [hserved.regListMap]
    apply PMap.walk_single
  have hhash : m.nodeHashMap.Walk [7] := by
    rw [hserved.nodeHashMap]
    apply PMap.walk_single
  have hn' : n'.socket = 9 ∧ n'.curState = .registering ∧ n'.regTimer.started := by
    rw [hserved.registering]
    exact ⟨rfl, rfl, rfl⟩
  obtain ⟨m', hswept⟩ : ∃ m', checkNodeRegistrationTimeout { Env.timeUp with regListWalk := [9] } m
      = .ok () m' := by
    have hentry : m.regListMap 9 = some 3 := by
      rw [hserved.regListMap]
      exact PMap.insert_self (m := PMap.empty) 3 rfl
    have hlive' : ({ m with regListMap := m.regListMap.erase 9 } : Medium).nodes 3 = .live n' :=
      hserved.added
    simp [checkNodeRegistrationTimeout, checkRegTimers, hentry, deref_live hserved.added,
      DeviceNode.getNodeId, hn', timerExpired_eq hserved.added, DeviceNode.timer, Env.timeUp,
      handleRegTimerExpired, deref_live hlive', deleteNode_live hlive']
  have hafter := hsweep { Env.timeUp with regListWalk := [9] } m' hreg hswept
  obtain ⟨m₁, hdeleted, -, honce⟩ := hdelete
    { Env.calm with regListWalk := [9], nodeHashWalk := [7] } hreg hhash
  refine ⟨m, n, n', _, m', h, hserved, hplaced, hswept, ?_, ?_, hcount 2, _, m₁, hdeleted,
    (honce 1 n hserved.confirmed).2, (honce 3 n' hserved.added).2⟩
  · rcases hafter 1 with ⟨⟨n'', hlive, hstate, -⟩, -⟩ | ⟨-, hkept⟩
    · rw [hserved.confirmed] at hlive
      cases hlive
      rw [hserved.active] at hstate
      cases hstate
    · rw [hkept, hserved.confirmed]
  · rcases hafter 3 with ⟨-, hgone⟩ | ⟨hnot, -⟩
    · apply hgone
    · apply absurd ⟨n', hserved.added, hn'.2.1, rfl⟩ hnot

end X6losim
