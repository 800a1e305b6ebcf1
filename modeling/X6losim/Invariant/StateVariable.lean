import X6losim.Invariant.Polling

/-!
# The state variable and the transmit list

The state variable is assigned at other places of `run` than those at which the transmit list
changes.  While a medium is not being stopped, `Pc.StateOk` says at each place what is known of
the two; where `processCcaList` is called, the state is idle exactly when the list is empty.
-/

open Bytes

namespace X6losim

variable {host : ByteOrder} {kind : Kind} {m m' : Medium} {p : NodePtr} {n : DeviceNode}

/-- No node transmits, and the state variable says so. -/
structure Medium.Idle (m : Medium) : Prop where
  state : m.state = .idle
  txList : m.txList = []

/-- Some node transmits, and the state variable says so. -/
structure Medium.Busy (m : Medium) : Prop where
  state : m.state = .tx802514Frame
  txList : m.txList ≠ []

/-- What the state variable and the transmit list are at a place, while the medium is not being
stopped. -/
def Pc.StateOk (m : Medium) : Pc → Prop
  | start => m.txList = []
  | outer => m.Idle
  | interval .idle => m.Idle
  | epollWait .idle _ => m.Idle
  | timeLeft .idle _ => m.Idle
  | poll .idle _ => m.state = .idle
  | polled .idle => m.state = .idle
  | mark => m.state = .idle
  | processCcaList .idle => m.Idle ∨ m.Busy
  | inner => m.txList ≠ [] → m.state = .tx802514Frame
  | interval .tx => m.Busy
  | epollWait .tx _ => m.Busy
  | timeLeft .tx _ => m.Busy
  | poll .tx _ => m.Busy
  | polled .tx => m.Busy
  | processCcaList .tx => m.Busy
  | txCollisionCheck => m.state = .tx802514Frame
  | processTxList _ => m.state = .tx802514Frame
  | left => m.txList = []
  | resetIdle => m.txList = []
  | checkNodeRegistrationTimeout => m.Idle
  | again => m.Idle
  | exiting => False
  | exited => False
  | deleted => False

/-- The place only matters through the state variable and the transmit list. -/
theorem Pc.StateOk.congr {pc : Pc} (h : pc.StateOk m) (hstate : m'.state = m.state)
    (htxList : m'.txList = m.txList) :
  pc.StateOk m'
  := by
  have hidle : m.Idle → m'.Idle :=
    fun h => ⟨hstate.trans h.state, htxList.trans h.txList⟩
  have hbusy : m.Busy → m'.Busy :=
    fun h => ⟨hstate.trans h.state, htxList.trans_ne h.txList⟩
  cases pc with
  | interval ph => cases ph <;> first | apply hidle h | apply hbusy h
  | epollWait ph waitms => cases ph <;> first | apply hidle h | apply hbusy h
  | timeLeft ph rv => cases ph <;> first | apply hidle h | apply hbusy h
  | poll ph evs => cases ph <;> first | apply hstate.trans h | apply hbusy h
  | polled ph => cases ph <;> first | apply hstate.trans h | apply hbusy h
  | processCcaList ph => cases ph <;> first | apply h.imp hidle hbusy | apply hbusy h
  | inner =>
      intro hne
      rw [htxList] at hne
      rw [hstate]
      apply h hne
  | _ => first | apply hidle h | apply hstate.trans h | apply htxList.trans h | apply h

/-- The event of a node takes no node off the transmit list. -/
theorem PollEffect.txList {ev : PollEvent} {eff : Effect} (h : PollEffect host ev p n eff) :
  ∃ ps, (eff.apply m).txList = m.txList ++ ps
  := by
  cases h with
  | closed => exact ⟨[], (List.append_nil _).symm⟩
  | failedRead => exact ⟨[], (List.append_nil _).symm⟩
  | handled _ _ _ _ _ _ _ heff =>
      cases heff with
      | transmit => exact ⟨[p], rfl⟩
      | _ => exact ⟨[], (List.append_nil _).symm⟩

/-- Expiries leave the state variable and the transmit list as they are. -/
theorem expiries_state {env : Env} {effs : List Effect} (heffs : Effects m effs m')
    (hexpiry : ∀ eff ∈ effs, eff.IsExpiry env) :
  m'.state = m.state ∧ m'.txList = m.txList
  := by
  apply heffs.invariant (P := fun m' => m'.state = m.state ∧ m'.txList = m.txList) ⟨rfl, rfl⟩
    hexpiry
  intro m₁ eff ⟨hstate, htxList⟩ heff _
  obtain ⟨key, p, n, rfl, -⟩ := heff
  exact ⟨hstate, htxList⟩

namespace Pc.StateOk

/-- A move goes to a place at which no more is known. -/
theorem move {env : Env} {pc pc' : Pc} (h : pc.StateOk m) (hrunning : m.state ≠ .stopping)
    (hmove : Move kind env m pc pc') :
  pc'.StateOk m
  := by
  cases hmove with
  | outerIdle hidle => apply h
  | outerBusy hbusy => apply absurd h.state hbusy
  | waited ph => cases ph <;> apply h
  | ready ph =>
      cases ph with
      | idle => apply h.state
      | tx => apply h
  | timeUp ph =>
      cases ph with
      | idle => apply h.state
      | tx => apply h
  | waitAgain ph => cases ph <;> apply h
  | ignored ph => cases ph <;> apply h
  | processed ph => cases ph <;> apply h
  | idleStopping hstop => apply absurd hstop hrunning
  | idlePolled => apply h
  | txStopping hstop => apply absurd hstop hrunning
  | txPolled => apply h
  | noMark hnil =>
      left
      exact ⟨h, hnil⟩
  | idleAnswered =>
      intro hne
      rcases h with hidle | hbusy
      · apply absurd hidle.txList hne
      · apply hbusy.state
  | txAnswered => apply h.state
  | innerDone hnil => apply hnil
  | innerAgain hne => exact ⟨h hne, hne⟩
  | noCollision => apply h
  | waiting => apply h
  | txProcessed =>
      intro _
      apply h
  | leftStopping hstop => apply absurd hstop hrunning
  | leftRunning => apply h
  | againStopping hstop => apply absurd hstop hrunning
  | againRunning => apply h

/-- Every step of a medium that is not being stopped keeps what is known. -/
theorem next {s s' : Sys} {i : Input} (h : s.pc.StateOk s.med)
    (hrunning : s.med.state ≠ .stopping) (hrunning' : s'.med.state ≠ .stopping)
    (hnext : Next host kind s i s') :
  s'.pc.StateOk s'.med
  := by
  cases hnext with
  | move hmove => apply h.move hrunning hmove
  | start => exact ⟨rfl, h⟩
  | interval m env ph => cases ph <;> exact ⟨h.state, h.txList⟩
  | @poll m env ph ev evs p n eff _ _ heff =>
      obtain ⟨ps, hps⟩ := heff.txList (m := m)
      have hstate := apply_state m eff
      cases ph with
      | idle => apply hstate.trans h
      | tx =>
          constructor
          · apply hstate.trans h.state
          · simp only [hps]
            apply List.append_ne_nil_of_left_ne_nil h.txList
  | unblocked => apply absurd rfl hrunning'
  | mark hne =>
      right
      exact ⟨rfl, hne⟩
  | answer => exact h.congr rfl rfl
  | collide => apply h
  | conclude => apply h
  | resetIdle => exact ⟨rfl, h⟩
  | sweep heffs hexpiry =>
      obtain ⟨hstate, htxList⟩ := expiries_state heffs hexpiry
      exact ⟨hstate.trans h.state, htxList.trans h.txList⟩
  | exiting => cases h
  | add => exact h.congr rfl rfl
  | stop => apply absurd rfl hrunning'
  | delete => cases h

/-- Where `processCcaList` is called, the state is idle exactly when no node transmits, and says
that some node does otherwise. -/
theorem processCcaList {ph : Phase} (h : (Pc.processCcaList ph).StateOk m) :
  (m.state = .idle ↔ m.txList = []) ∧ (m.state = .tx802514Frame ↔ m.txList ≠ [])
  := by
  have hor : m.Idle ∨ m.Busy := by
    cases ph with
    | idle => apply h
    | tx => apply Or.inr h
  rcases hor with hidle | hbusy
  · simp [hidle.state, hidle.txList]
  · simp [hbusy.state, hbusy.txList]

end Pc.StateOk

end X6losim
