import X6losim.Sim.Effect

/-!
# Adding nodes and deleting them

What `addNode`, `checkNodeRegistrationTimeout` and the destructor of a medium do.  The last two
walk a map and delete the nodes they find, one effect for each.
-/

open Bytes

namespace X6losim

variable {m : Medium} {p : NodePtr} {n : DeviceNode}

/-! ### Sequences of effects -/

theorem Effects.append {m₁ m₂ : Medium} {effs effs' : List Effect} (h : Effects m effs m₁)
    (h' : Effects m₁ effs' m₂) :
  Effects m (effs ++ effs') m₂
  := by
  induction h with
  | nil => apply h'
  | cons hguard _ ih => apply Effects.cons hguard (ih h')

/-- What every effect preserves is preserved by a sequence of effects. -/
theorem Effects.invariant {P : Medium → Prop} {Good : Effect → Prop} {m' : Medium}
    {effs : List Effect} (h : Effects m effs m') (start : P m) (good : ∀ eff ∈ effs, Good eff)
    (preserved : ∀ {m : Medium} {eff : Effect}, P m → Good eff → eff.Guard m → P (eff.apply m)) :
  P m'
  := by
  induction h with
  | nil => apply start
  | cons hguard _ ih =>
      apply ih
      · apply preserved start (good _ (List.mem_cons_self ..)) hguard
      · intro eff heff
        apply good eff (List.mem_cons_of_mem _ heff)

/-! ### Adding a node -/

/-- A medium with a node inserted into its registration list map. -/
def Medium.publish (m : Medium) (p : NodePtr) (socket : UInt64) : Medium :=
  { m with regListMap := m.regListMap.insert socket p }

/-- The entries of the registration list map under other keys are as before. -/
theorem publish_ne {key socket : UInt64} (m : Medium) (p : NodePtr) (hne : key ≠ socket) :
  (m.publish p socket).regListMap key = m.regListMap key
  := PMap.insert_ne m.regListMap p hne

/-- A medium with a new node that has not been inserted yet. -/
def Medium.create (m : Medium) (p : NodePtr) (socket : UInt64) : Medium :=
  { (Effect.add p socket).apply m with regListMap := m.regListMap }

theorem create_publish (m : Medium) (p : NodePtr) (socket : UInt64) :
  (m.create p socket).publish p socket = (Effect.add p socket).apply m
  := rfl

/-- A node is created, and its socket registered with the poller, when no call to the system
fails. -/
theorem createAndRegister_ok {env : Env} (hsend : env.sendMsg = Hdr.size)
    (hcreate : env.nodeTimerCreate) (hsettime : env.nodeTimerSettime) (hepoll : env.epollCtl)
    (p : NodePtr) (socket : UInt64) (m : Medium) :
  createAndRegister env p socket m = .ok () (m.create p socket)
  := by
  simp [createAndRegister, newNode, sendRegistrationRequest, send, deref_apply, hsend, startTimer,
    arm, hcreate, hsettime, epollAdd, hepoll, DeviceNode.new, DeviceNode.timer,
    DeviceNode.setTimer, Medium.putNode, Medium.record, Effect.apply, DeviceNode.registering,
    Medium.create]

/-- A node is created, and its socket registered with the poller, unless a call to the system
fails. -/
theorem createAndRegister_result (env : Env) (p : NodePtr) (socket : UInt64) (m : Medium) :
  createAndRegister env p socket m = .ok () (m.create p socket) ∨
    (∃ text m', createAndRegister env p socket m = .error (.exception text) m') ∨
    ∃ m', createAndRegister env p socket m = .error (.assertion .sendRegistrationRequest) m'
  := by
  by_cases hsend : env.sendMsg = Hdr.size
  · cases hcreate : env.nodeTimerCreate with
    | false =>
        right; left
        simp [createAndRegister, newNode, sendRegistrationRequest, send, deref_apply, hsend,
          startTimer, arm, hcreate, DeviceNode.new, DeviceNode.timer, Medium.putNode,
          Medium.record]
    | true =>
        cases hsettime : env.nodeTimerSettime with
        | false =>
            right; left
            simp [createAndRegister, newNode, sendRegistrationRequest, send, deref_apply, hsend,
              startTimer, arm, hcreate, hsettime, DeviceNode.new, DeviceNode.timer,
              Medium.putNode, Medium.record]
        | true =>
            cases hepoll : env.epollCtl with
            | false =>
                right; left
                simp [createAndRegister, newNode, sendRegistrationRequest, send, deref_apply,
                  hsend, startTimer, arm, hcreate, hsettime, epollAdd, hepoll, DeviceNode.new,
                  DeviceNode.timer, Medium.putNode, Medium.record]
            | true =>
                left
                apply createAndRegister_ok hsend hcreate hsettime hepoll
  · right; right
    simp [createAndRegister, newNode, sendRegistrationRequest, send, deref_apply, hsend,
      DeviceNode.new, Medium.putNode, Medium.record]

theorem insertReg_live (h : m.nodes p = .live n) :
  insertReg p m = .ok () (m.publish p n.socket)
  := by
  simp [insertReg, deref_live h, Medium.publish, DeviceNode.getNodeId]

/-- A node that has been created is inserted under the address of its socket. -/
theorem insertReg_create (m : Medium) (p : NodePtr) (socket : UInt64) :
  insertReg p (m.create p socket) = .ok () ((Effect.add p socket).apply m)
  := by
  have hlive : (m.create p socket).nodes p = .live (DeviceNode.registering socket) := by
    simp [Medium.create, Effect.apply]
  rw [insertReg_live hlive, ← create_publish]
  rfl

/-- A node is added when no call to the system fails. -/
theorem addNode_ok {env : Env} (hsend : env.sendMsg = Hdr.size)
    (hcreate : env.nodeTimerCreate) (hsettime : env.nodeTimerSettime) (hepoll : env.epollCtl)
    (p : NodePtr) (socket : UInt64) (m : Medium) :
  addNode env p socket m = .ok () ((Effect.add p socket).apply m)
  := by
  rw [addNode, Exec.bind_apply, createAndRegister_ok hsend hcreate hsettime hepoll]
  apply insertReg_create

/-- A node is added, unless a call to the system fails. -/
theorem addNode_result (env : Env) (p : NodePtr) (socket : UInt64) (m : Medium) :
  addNode env p socket m = .ok () ((Effect.add p socket).apply m) ∨
    (∃ text m', addNode env p socket m = .error (.exception text) m') ∨
    ∃ m', addNode env p socket m = .error (.assertion .sendRegistrationRequest) m'
  := by
  rw [addNode, Exec.bind_apply]
  rcases createAndRegister_result env p socket m with
    hcreate | ⟨text, m₁, hstop⟩ | ⟨m₁, hstop⟩
  · left
    rw [hcreate]
    apply insertReg_create
  · right; left
    rw [hstop]
    exact ⟨text, m₁, rfl⟩
  · right; right
    rw [hstop]
    exact ⟨m₁, rfl⟩

/-! ### The registration timeout -/

/-- Why the walk of the registration list map stops at an entry. -/
inductive SweepStop (m : Medium) : Stop → Prop where
  | noObject (key : UInt64) (p : NodePtr) : m.regListMap key = some p →
      (∀ n, m.nodes p ≠ .live n) → SweepStop m (.noObject p)
  | key (key : UInt64) (p : NodePtr) (n : DeviceNode) : m.regListMap key = some p →
      m.nodes p = .live n → n.socket ≠ key →
      SweepStop m (.assertion .checkNodeRegistrationTimeout)
  | timer (key : UInt64) (p : NodePtr) (n : DeviceNode) : m.regListMap key = some p →
      m.nodes p = .live n → n.regTimer.started = false →
      SweepStop m (.assertion (.timerExpired .regTimer))
  | exception (text : String) : SweepStop m (.exception text)

/-- What the walk does with one entry: nothing, when its node has not expired; the deletion of
the node, when it has. -/
theorem checkRegTimers_entry (env : Env) {key : UInt64} (keys : List UInt64)
    (hentry : m.regListMap key = some p) :
  checkRegTimers env (key :: keys) m = checkRegTimers env keys m ∧ ¬ env.Expired p ∨
    (∃ n, (Effect.expire key p n).Guard m ∧ env.Expired p ∧
      checkRegTimers env (key :: keys) m
        = checkRegTimers env keys ((Effect.expire key p n).apply m)) ∨
    ∃ e, SweepStop m e ∧ ∃ m', checkRegTimers env (key :: keys) m = .error e m'
  := by
  by_cases hlive : ∃ n, m.nodes p = .live n
  · obtain ⟨n, hlive⟩ := hlive
    by_cases hkey : n.socket = key
    · by_cases hstarted : n.regTimer.started
      · cases hleft : env.nodeTimerGettime p with
        | none =>
            right; right
            refine ⟨_, SweepStop.exception "DeviceNodeTimer: failed to get time", ?_⟩
            simp [checkRegTimers, hentry, deref_live hlive, DeviceNode.getNodeId, hkey,
              timerExpired_eq hlive, DeviceNode.timer, hstarted, hleft]
        | some left =>
            by_cases hexpired : left = ⟨0, 0⟩
            · subst hexpired
              have hlive' : ({ m with regListMap := m.regListMap.erase key } : Medium).nodes p
                  = .live n := hlive
              cases hstate : n.curState with
              | registering =>
                  right; left
                  refine ⟨n, ⟨hentry, hlive, hkey, hstate, hstarted⟩, hleft, ?_⟩
                  simp [checkRegTimers, hentry, deref_live hlive, DeviceNode.getNodeId, hkey,
                    timerExpired_eq hlive, DeviceNode.timer, hstarted, hleft,
                    handleRegTimerExpired, deref_live hlive', hstate, deleteNode_live hlive',
                    Effect.apply]
              | active =>
                  right; right
                  refine ⟨_, SweepStop.exception "ActiveState: handleCheckRegTimer", ?_⟩
                  simp [checkRegTimers, hentry, deref_live hlive, DeviceNode.getNodeId, hkey,
                    timerExpired_eq hlive, DeviceNode.timer, hstarted, hleft,
                    handleRegTimerExpired, deref_live hlive', hstate]
              | tx =>
                  right; right
                  refine ⟨_, SweepStop.exception "TxState: handleCheckRegTimer", ?_⟩
                  simp [checkRegTimers, hentry, deref_live hlive, DeviceNode.getNodeId, hkey,
                    timerExpired_eq hlive, DeviceNode.timer, hstarted, hleft,
                    handleRegTimerExpired, deref_live hlive', hstate]
            · left
              constructor
              · simp [checkRegTimers, hentry, deref_live hlive, DeviceNode.getNodeId, hkey,
                  timerExpired_eq hlive, DeviceNode.timer, hstarted, hleft, hexpired]
              · intro h
                rw [Env.Expired, hleft] at h
                apply hexpired (Option.some.inj h)
      · right; right
        have hstopped : n.regTimer.started = false := by simpa using hstarted
        refine ⟨_, SweepStop.timer key p n hentry hlive hstopped, ?_⟩
        simp [checkRegTimers, hentry, deref_live hlive, DeviceNode.getNodeId, hkey,
          timerExpired_eq hlive, DeviceNode.timer, hstopped]
    · right; right
      refine ⟨_, SweepStop.key key p n hentry hlive hkey, ?_⟩
      simp [checkRegTimers, hentry, deref_live hlive, DeviceNode.getNodeId, hkey]
  · have hgone : ∀ n, m.nodes p ≠ .live n := by simpa using hlive
    right; right
    refine ⟨_, SweepStop.noObject key p hentry hgone, ?_⟩
    simp [checkRegTimers, hentry, deref_gone hgone]

theorem checkRegTimers_missing {env : Env} {key : UInt64} (keys : List UInt64)
    (hentry : m.regListMap key = none) :
  checkRegTimers env (key :: keys) m = checkRegTimers env keys m
  := by
  simp [checkRegTimers, hentry]

/-- The deletion of the node of an expired registration. -/
def Effect.IsExpiry (env : Env) (eff : Effect) : Prop :=
  ∃ key p n, eff = .expire key p n ∧ env.Expired p

theorem Effect.IsExpiry.not_add {env : Env} {eff : Effect} (h : eff.IsExpiry env) (q : NodePtr)
    (socket : UInt64) :
  eff ≠ .add q socket
  := by
  obtain ⟨key, p, n, rfl, -⟩ := h
  intro heq
  cases heq

/-- The deletion of expired nodes leaves only entries that have been there. -/
theorem expiries_regListMap {env : Env} {effs : List Effect} {m' : Medium} {key : UInt64}
    (h : Effects m effs m') (hexpiry : ∀ eff ∈ effs, eff.IsExpiry env)
    (hentry : m'.regListMap key = some p) :
  m.regListMap key = some p
  := by
  induction h with
  | nil => apply hentry
  | cons _ _ ih =>
      obtain ⟨key', p', n', rfl, -⟩ := hexpiry _ (List.mem_cons_self ..)
      have hlater := ih (fun eff heff => hexpiry eff (List.mem_cons_of_mem _ heff)) hentry
      apply (PMap.erase_eq_some.mp hlater).2

/-- What the walk of the registration list map does when it does not stop: it deletes nodes that
have expired, and leaves none of its entries with one. -/
theorem checkRegTimers_ok {env : Env} {keys : List UInt64} {m' : Medium}
    (hok : checkRegTimers env keys m = .ok () m') :
  ∃ effs, Effects m effs m' ∧ (∀ eff ∈ effs, eff.IsExpiry env) ∧
    ∀ key ∈ keys, ∀ p, m'.regListMap key = some p → ¬ env.Expired p
  := by
  induction keys generalizing m with
  | nil =>
      cases hok
      refine ⟨[], .nil _, ?_, ?_⟩
      · intro eff heff
        cases heff
      · intro key hkey
        cases hkey
  | cons key keys ih =>
      cases hentry : m.regListMap key with
      | none =>
          rw [checkRegTimers_missing keys hentry] at hok
          obtain ⟨effs, heffs, hgood, hleft⟩ := ih hok
          refine ⟨effs, heffs, hgood, ?_⟩
          intro key' hkey' p hp
          rcases List.mem_cons.mp hkey' with rfl | hkey'
          · have hbefore := expiries_regListMap heffs hgood hp
            rw [hentry] at hbefore
            cases hbefore
          · apply hleft key' hkey' p hp
      | some q =>
          rcases checkRegTimers_entry env keys hentry with
            ⟨hskip, hwait⟩ | ⟨n, hguard, hexpired, hdelete⟩ | ⟨e, -, m₁, herror⟩
          · rw [hskip] at hok
            obtain ⟨effs, heffs, hgood, hleft⟩ := ih hok
            refine ⟨effs, heffs, hgood, ?_⟩
            intro key' hkey' p hp
            rcases List.mem_cons.mp hkey' with rfl | hkey'
            · have hbefore := expiries_regListMap heffs hgood hp
              rw [hentry] at hbefore
              obtain rfl := Option.some.inj hbefore
              apply hwait
            · apply hleft key' hkey' p hp
          · rw [hdelete] at hok
            obtain ⟨effs, heffs, hgood, hleft⟩ := ih hok
            refine ⟨_, .cons hguard heffs, ?_, ?_⟩
            · intro eff heff
              rcases List.mem_cons.mp heff with rfl | heff
              · exact ⟨key, q, n, rfl, hexpired⟩
              · apply hgood eff heff
            · intro key' hkey' p hp
              rcases List.mem_cons.mp hkey' with rfl | hkey'
              · have hbefore := expiries_regListMap heffs hgood hp
                apply absurd rfl (PMap.erase_eq_some.mp hbefore).1
              · apply hleft key' hkey' p hp
          · rw [herror] at hok
            cases hok

/-- When the walk of the registration list map stops, it has deleted some nodes, and stops at
an entry of the map as it is then. -/
theorem checkRegTimers_error {env : Env} {keys : List UInt64} {m' : Medium} {e : Stop}
    (herror : checkRegTimers env keys m = .error e m') :
  ∃ effs m₁, Effects m effs m₁ ∧ (∀ eff ∈ effs, eff.IsExpiry env) ∧ SweepStop m₁ e
  := by
  induction keys generalizing m with
  | nil => cases herror
  | cons key keys ih =>
      cases hentry : m.regListMap key with
      | none =>
          rw [checkRegTimers_missing keys hentry] at herror
          apply ih herror
      | some q =>
          rcases checkRegTimers_entry env keys hentry with
            ⟨hskip, -⟩ | ⟨n, hguard, hexpired, hdelete⟩ | ⟨e', hstop, m₁, herror'⟩
          · rw [hskip] at herror
            apply ih herror
          · rw [hdelete] at herror
            obtain ⟨effs, m₁, heffs, hgood, hstop⟩ := ih herror
            refine ⟨_, m₁, .cons hguard heffs, ?_, hstop⟩
            intro eff heff
            rcases List.mem_cons.mp heff with rfl | heff
            · exact ⟨key, q, n, rfl, hexpired⟩
            · apply hgood eff heff
          · rw [herror'] at herror
            cases herror
            refine ⟨[], m, .nil m, ?_, hstop⟩
            intro eff heff
            cases heff

/-! ### The destructor -/

/-- The deletion of a node with the medium. -/
def Effect.IsDisposal (map : MapName) (eff : Effect) : Prop :=
  ∃ key p n, eff = .dispose map key p n

theorem Effect.IsDisposal.not_add {map : MapName} {eff : Effect} (h : eff.IsDisposal map)
    (q : NodePtr) (socket : UInt64) :
  eff ≠ .add q socket
  := by
  obtain ⟨key, p, n, rfl⟩ := h
  intro heq
  cases heq

/-- Why the walk of a map by the destructor stops at an entry. -/
inductive DisposeStop (map : MapName) (site : Assertion) (m : Medium) : Stop → Prop where
  | noObject (key : UInt64) (p : NodePtr) : m.map map key = some p →
      (∀ n, m.nodes p ≠ .live n) → DisposeStop map site m (.noObject p)
  | key (key : UInt64) (p : NodePtr) (n : DeviceNode) : m.map map key = some p →
      m.nodes p = .live n → n.socket ≠ key → DisposeStop map site m (.assertion site)

@[simp]
theorem eraseKey_nodes (m : Medium) (map : MapName) (key : UInt64) :
  (m.eraseKey map key).nodes = m.nodes
  := by
  cases map <;> rfl

@[simp]
theorem eraseKey_map (m : Medium) (map : MapName) (key : UInt64) :
  (m.eraseKey map key).map map = (m.map map).erase key
  := by
  cases map <;> rfl

@[simp]
theorem delete_map (m : Medium) (p : NodePtr) (n : DeviceNode) (map : MapName) :
  (m.delete p n).map map = m.map map
  := by
  cases map <;> rfl

theorem eraseKey_other {map map' : MapName} (m : Medium) (key : UInt64) (hmap : map' ≠ map) :
  (m.eraseKey map key).map map' = m.map map'
  := by
  cases map <;> cases map' <;> first | rfl | apply absurd rfl hmap

/-- What the destructor does with one entry of a map. -/
theorem deleteEntries_entry (map : MapName) (site : Assertion) {key : UInt64}
    (keys : List UInt64) (hentry : m.map map key = some p) :
  (∃ n, (Effect.dispose map key p n).Guard m ∧
      deleteEntries map site (key :: keys) m
        = deleteEntries map site keys ((Effect.dispose map key p n).apply m)) ∨
    ∃ e, DisposeStop map site m e ∧ ∃ m', deleteEntries map site (key :: keys) m = .error e m'
  := by
  by_cases hlive : ∃ n, m.nodes p = .live n
  · obtain ⟨n, hlive⟩ := hlive
    by_cases hkey : n.socket = key
    · left
      have hlive' : (m.eraseKey map key).nodes p = .live n := by simp [hlive]
      refine ⟨n, ⟨hentry, hlive, hkey⟩, ?_⟩
      simp [deleteEntries, hentry, deref_live hlive, DeviceNode.getNodeId, hkey,
        deleteNode_live hlive', Effect.apply]
    · right
      refine ⟨_, DisposeStop.key key p n hentry hlive hkey, ?_⟩
      simp [deleteEntries, hentry, deref_live hlive, DeviceNode.getNodeId, hkey]
  · have hgone : ∀ n, m.nodes p ≠ .live n := by simpa using hlive
    right
    refine ⟨_, DisposeStop.noObject key p hentry hgone, ?_⟩
    simp [deleteEntries, hentry, deref_gone hgone]

theorem deleteEntries_missing (map : MapName) (site : Assertion) {key : UInt64}
    (keys : List UInt64) (hentry : m.map map key = none) :
  deleteEntries map site (key :: keys) m = deleteEntries map site keys m
  := by
  simp [deleteEntries, hentry]

/-- The deletion of nodes with the medium leaves only entries that have been there. -/
theorem disposals_map {map : MapName} {effs : List Effect} {m' : Medium} {key : UInt64}
    (h : Effects m effs m') (hdisposal : ∀ eff ∈ effs, eff.IsDisposal map)
    (hentry : m'.map map key = some p) :
  m.map map key = some p
  := by
  induction h with
  | nil => apply hentry
  | cons _ _ ih =>
      obtain ⟨key', p', n', rfl⟩ := hdisposal _ (List.mem_cons_self ..)
      have hlater := ih (fun eff heff => hdisposal eff (List.mem_cons_of_mem _ heff)) hentry
      simp only [Effect.apply, delete_map, eraseKey_map] at hlater
      apply (PMap.erase_eq_some.mp hlater).2

/-- The deletion of the nodes of one map leaves the other map as it is. -/
theorem disposals_other {map map' : MapName} {effs : List Effect} {m' : Medium}
    (h : Effects m effs m') (hdisposal : ∀ eff ∈ effs, eff.IsDisposal map) (hmap : map' ≠ map) :
  m'.map map' = m.map map'
  := by
  induction h with
  | nil => rfl
  | cons _ _ ih =>
      obtain ⟨key, p, n, rfl⟩ := hdisposal _ (List.mem_cons_self ..)
      rw [ih (fun eff heff => hdisposal eff (List.mem_cons_of_mem _ heff)), Effect.apply,
        delete_map, eraseKey_other _ key hmap]

/-- What the destructor does with the entries of a map: it deletes the node of every entry, or
stops at an entry of the map as it is then. -/
theorem deleteEntries_result (map : MapName) (site : Assertion) (keys : List UInt64)
    (m : Medium) :
  ∃ effs m₁, Effects m effs m₁ ∧ (∀ eff ∈ effs, eff.IsDisposal map) ∧
    (deleteEntries map site keys m = .ok () m₁ ∧ (∀ key ∈ keys, m₁.map map key = none) ∨
      ∃ e m', DisposeStop map site m₁ e ∧ deleteEntries map site keys m = .error e m')
  := by
  induction keys generalizing m with
  | nil =>
      refine ⟨[], m, .nil m, ?_, Or.inl ⟨rfl, ?_⟩⟩
      · intro eff heff
        cases heff
      · intro key hkey
        cases hkey
  | cons key keys ih =>
      cases hentry : m.map map key with
      | none =>
          obtain ⟨effs, m₁, heffs, hgood, hresult⟩ := ih m
          rw [deleteEntries_missing map site keys hentry]
          refine ⟨effs, m₁, heffs, hgood, ?_⟩
          rcases hresult with ⟨hok, hnone⟩ | herror
          · left
            use hok
            intro key' hkey'
            rcases List.mem_cons.mp hkey' with rfl | hkey'
            · cases hleft : m₁.map map key' with
              | none => rfl
              | some q =>
                  rw [disposals_map heffs hgood hleft] at hentry
                  cases hentry
            · apply hnone key' hkey'
          · right
            apply herror
      | some q =>
          rcases deleteEntries_entry map site keys hentry with
            ⟨n, hguard, hdelete⟩ | ⟨e, hstop, m₁, herror⟩
          · obtain ⟨effs, m₁, heffs, hgood, hresult⟩ := ih ((Effect.dispose map key q n).apply m)
            rw [hdelete]
            refine ⟨_, m₁, .cons hguard heffs, ?_, ?_⟩
            · intro eff heff
              rcases List.mem_cons.mp heff with rfl | heff
              · exact ⟨key, q, n, rfl⟩
              · apply hgood eff heff
            · rcases hresult with ⟨hok, hnone⟩ | herror
              · left
                use hok
                intro key' hkey'
                rcases List.mem_cons.mp hkey' with rfl | hkey'
                · cases hleft : m₁.map map key' with
                  | none => rfl
                  | some q' =>
                      have hbefore := disposals_map heffs hgood hleft
                      simp [Effect.apply] at hbefore
                · apply hnone key' hkey'
              · right
                apply herror
          · refine ⟨[], m, .nil m, ?_, Or.inr ⟨e, m₁, hstop, herror⟩⟩
            intro eff heff
            cases heff

end X6losim
