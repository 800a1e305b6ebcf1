import X6losim.Invariant.Lifecycle

/-!
# Nodes with events or requests waiting

The nodes of the events that are left of a batch are there, and so are the nodes on the clear
channel assessment list: the list only fills while a batch is processed, each node of a batch has
one event in it, and the list is empty again before `interval` is entered.
-/

open Bytes

namespace X6losim

variable {host : ByteOrder} {kind : Kind} {m m' : Medium} {p q : NodePtr} {n : DeviceNode}

/-! ### What effects leave as it is -/

/-- An effect deletes a node. -/
def Effect.Deletes (q : NodePtr) : Effect → Prop
  | disconnect p _ _ => p = q
  | expire _ p _ => p = q
  | dispose _ _ p _ => p = q
  | _ => False

/-- An effect that does not delete a live node leaves it live. -/
theorem apply_live {eff : Effect} (hlive : ∃ n, m.nodes q = .live n) (hkept : ¬ eff.Deletes q) :
  ∃ n, (eff.apply m).nodes q = .live n
  := by
  obtain ⟨n₀, hlive⟩ := hlive
  have hupdate : ∀ (p : NodePtr) (n' : DeviceNode),
      ∃ n, Function.update m.nodes p (.live n') q = .live n := by
    intro p n'
    by_cases hq : q = p
    · subst hq
      simp
    · simp [hq, hlive]
  have hdelete : ∀ (p : NodePtr), ¬ p = q →
      ∃ n, Function.update m.nodes p .destroyed q = .live n := by
    intro p hp
    have hq : q ≠ p := fun h => hp h.symm
    simp [hq, hlive]
  cases eff with
  | failedRead p n => apply hupdate
  | confirm p n os osVersion => apply hupdate
  | disconnect p n asked => apply hdelete p hkept
  | request p n => exact ⟨n₀, hlive⟩
  | transmit p n pkt itValue => apply hupdate
  | answer p rest => exact ⟨n₀, hlive⟩
  | collide =>
      simp only [Effect.apply]
      split
      · rw [hlive]
        exact ⟨_, rfl⟩
      · exact ⟨n₀, hlive⟩
  | conclude i p n pkt buf => apply hupdate
  | expire key p n => apply hdelete p hkept
  | dispose map key p n =>
      simp only [Effect.apply, Medium.delete, eraseKey_nodes]
      apply hdelete p hkept
  | add p socket => apply hupdate

/-- An effect that does not delete a node leaves its socket registered. -/
theorem apply_interest {eff : Effect} (hq : q ∈ m.interest) (hkept : ¬ eff.Deletes q) :
  q ∈ (eff.apply m).interest
  := by
  have hdelete : ∀ (p : NodePtr), ¬ p = q → q ∈ m.interest.erase p := by
    intro p hp
    apply (List.mem_erase_of_ne (fun h => hp h.symm)).mpr hq
  cases eff with
  | disconnect p n asked => apply hdelete p hkept
  | expire key p n => apply hdelete p hkept
  | dispose map key p n =>
      cases map with
      | regListMap => apply hdelete p hkept
      | nodeHashMap => apply hdelete p hkept
  | add p socket => apply List.mem_append_left _ hq
  | _ => apply hq

/-- The effects that change the clear channel assessment list. -/
def Effect.IsCca : Effect → Prop
  | request _ _ => True
  | answer _ _ => True
  | _ => False

theorem apply_ccaList {eff : Effect} (hother : ¬ eff.IsCca) :
  (eff.apply m).ccaList = m.ccaList
  := by
  cases eff with
  | request p n => apply absurd trivial hother
  | answer p rest => apply absurd trivial hother
  | dispose map key p n => cases map <;> rfl
  | _ => rfl

/-- Expiries leave the clear channel assessment list as it is. -/
theorem expiries_ccaList {env : Env} {effs : List Effect} (heffs : Effects m effs m')
    (hexpiry : ∀ eff ∈ effs, eff.IsExpiry env) :
  m'.ccaList = m.ccaList
  := by
  apply heffs.invariant (P := fun m' => m'.ccaList = m.ccaList) rfl hexpiry
  intro m₁ eff hm₁ heff _
  obtain ⟨key, p, n, rfl, -⟩ := heff
  have hkept : ((Effect.expire key p n).apply m₁).ccaList = m₁.ccaList :=
    apply_ccaList not_false
  rw [hkept, hm₁]

/-- No effect changes the state variable. -/
theorem apply_state (m : Medium) (eff : Effect) :
  (eff.apply m).state = m.state
  := by
  cases eff with
  | dispose map key p n => cases map <;> rfl
  | _ => rfl

/-- An event of a node deletes no other node, and asks for nothing but the node's requests. -/
theorem PollEffect.deletes {ev : PollEvent} {eff : Effect} (h : PollEffect host ev p n eff)
    (hdeletes : eff.Deletes q) :
  p = q
  := by
  cases h with
  | closed => apply hdeletes
  | failedRead => cases hdeletes
  | handled _ _ _ _ _ _ _ heff =>
      cases heff with
      | disconnect => apply hdeletes
      | _ => cases hdeletes

theorem PollEffect.ccaList {ev : PollEvent} {eff : Effect} (h : PollEffect host ev p n eff) :
  (eff.apply m).ccaList = m.ccaList ∨ eff = .request p n
  := by
  cases h with
  | closed =>
      left
      exact apply_ccaList not_false
  | failedRead =>
      left
      exact apply_ccaList not_false
  | handled _ _ _ _ _ _ _ heff =>
      cases heff with
      | request =>
          right
          rfl
      | _ =>
          left
          exact apply_ccaList not_false

/-! ### The invariant -/

/-- The places at which the clear channel assessment list is empty, while the medium is in a
given state. -/
def Pc.CcaEmpty (state : PhysicalMediumState) : Pc → Prop
  | poll _ _ => False
  | polled _ => False
  | mark => False
  | processCcaList _ => False
  | left => state ≠ .stopping
  | again => state ≠ .stopping
  | exiting => False
  | exited => False
  | deleted => False
  | _ => True

/-- The nodes with events or requests waiting are there. -/
structure Waiting (s : Sys) : Prop where
  nodup : ∀ {ph evs}, s.pc = .poll ph evs → (evs.map PollEvent.data).Nodup
  events : ∀ {ph evs}, s.pc = .poll ph evs → ∀ ev ∈ evs,
    ev.data = .unblocker ∨ ∃ p ∈ s.med.interest, ev.data = .node p
  queued : s.pc ≠ .deleted → ∀ p ∈ s.med.ccaList, ∃ n, s.med.nodes p = .live n
  apart : ∀ {ph evs}, s.pc = .poll ph evs → ∀ p ∈ s.med.ccaList,
    .node p ∉ evs.map PollEvent.data
  empty : s.pc.CcaEmpty s.med.state → s.med.ccaList = []

namespace Waiting

theorem initial :
  Waiting ⟨.start, Medium.new⟩
  where
  nodup h := by cases h
  events h := by cases h
  queued _ p hp := by cases hp
  apart h := by cases h
  empty _ := rfl

/-- Away from the processing of a batch, only the list and its nodes matter. -/
theorem of_pc {s : Sys} (hpc : ∀ ph evs, s.pc ≠ .poll ph evs)
    (hqueued : s.pc ≠ .deleted → ∀ p ∈ s.med.ccaList, ∃ n, s.med.nodes p = .live n)
    (hempty : s.pc.CcaEmpty s.med.state → s.med.ccaList = []) :
  Waiting s
  where
  nodup h := by apply absurd h (hpc _ _)
  events h := by apply absurd h (hpc _ _)
  queued := hqueued
  apart h := by apply absurd h (hpc _ _)
  empty := hempty

/-- The event of a node leaves those that wait after it as they are. -/
theorem poll {ph : Phase} {ev : PollEvent} {evs : List PollEvent} {eff : Effect}
    (h : Waiting ⟨.poll ph (ev :: evs), m⟩) (hdata : ev.data = .node p)
    (hlive : m.nodes p = .live n) (heff : PollEffect host ev p n eff) :
  Waiting ⟨.poll ph evs, eff.apply m⟩
  := by
  have hnodup := h.nodup rfl
  rw [List.map_cons, List.nodup_cons, hdata] at hnodup
  have hother : ∀ {q}, PollData.node q ∈ evs.map PollEvent.data → p ≠ q := by
    rintro q hq rfl
    apply hnodup.1 hq
  have hccaList : ∀ q ∈ (eff.apply m).ccaList, q ∈ m.ccaList ∧ p ≠ q ∨
      q = p ∧ eff = .request p n := by
    intro q hq
    have hold : q ∈ m.ccaList → p ≠ q := by
      rintro hq rfl
      apply h.apart rfl p hq
      rw [List.map_cons, hdata]
      apply List.mem_cons_self ..
    rcases heff.ccaList (m := m) with hsame | rfl
    · left
      rw [hsame] at hq
      exact ⟨hq, hold hq⟩
    · rcases List.mem_append.mp hq with hq | hq
      · left
        exact ⟨hq, hold hq⟩
      · right
        exact ⟨List.mem_singleton.mp hq, rfl⟩
  constructor
  · intro ph' evs' hpc
    cases hpc
    apply hnodup.2
  · intro ph' evs' hpc ev' hev'
    cases hpc
    rcases h.events rfl ev' (List.mem_cons_of_mem ev hev') with hdata' | ⟨q, hq, hdata'⟩
    · left
      apply hdata'
    · right
      refine ⟨q, apply_interest hq ?_, hdata'⟩
      intro hdeletes
      have hmem : PollData.node q ∈ evs.map PollEvent.data := by
        rw [← hdata']
        apply List.mem_map_of_mem hev'
      apply hother hmem (heff.deletes hdeletes)
  · intro _ q hq
    rcases hccaList q hq with ⟨hq, hne⟩ | ⟨rfl, rfl⟩
    · apply apply_live (h.queued (by simp) q hq)
      intro hdeletes
      apply hne (heff.deletes hdeletes)
    · exact ⟨n, hlive⟩
  · intro ph' evs' hpc q hq
    cases hpc
    rcases hccaList q hq with ⟨hq, -⟩ | ⟨rfl, -⟩
    · intro hmem
      apply h.apart rfl q hq
      rw [List.map_cons]
      apply List.mem_cons_of_mem _ hmem
    · apply hnodup.1
  · intro hpc
    cases hpc

/-- A move leaves those that wait as they are, or takes up a batch. -/
theorem move {env : Env} {pc pc' : Pc} (h : Waiting ⟨pc, m⟩) (hmove : Move kind env m pc pc') :
  Waiting ⟨pc', m⟩
  := by
  cases hmove with
  | ready ph waitms evs hreport =>
      have hnil : m.ccaList = [] := h.empty trivial
      constructor
      · intro ph' evs' hpc
        cases hpc
        apply hreport.nodup
      · intro ph' evs' hpc
        cases hpc
        apply hreport.interest
      · intro _ p hp
        rw [hnil] at hp
        cases hp
      · intro ph' evs' _ p hp
        rw [hnil] at hp
        cases hp
      · intro hpc
        cases hpc
  | ignored ph ev evs =>
      constructor
      · intro ph' evs' hpc
        cases hpc
        have hnodup := h.nodup rfl
        rw [List.map_cons, List.nodup_cons] at hnodup
        apply hnodup.2
      · intro ph' evs' hpc ev' hev'
        cases hpc
        apply h.events rfl ev' (List.mem_cons_of_mem ev hev')
      · intro _
        apply h.queued (by simp)
      · intro ph' evs' hpc p hp hmem
        cases hpc
        apply h.apart rfl p hp
        rw [List.map_cons]
        apply List.mem_cons_of_mem _ hmem
      · intro hpc
        cases hpc
  | idleAnswered hnil => exact of_pc (by simp) (fun _ => h.queued (by simp)) (fun _ => hnil)
  | txAnswered hnil => exact of_pc (by simp) (fun _ => h.queued (by simp)) (fun _ => hnil)
  | txStopping hstop =>
      refine of_pc (by simp) (fun _ => h.queued (by simp)) ?_
      intro hrunning
      apply absurd hstop hrunning
  | leftStopping hstop =>
      refine of_pc (by simp) (fun _ => h.queued (by simp)) ?_
      intro hrunning
      apply absurd hstop hrunning
  | leftRunning hrunning =>
      exact of_pc (by simp) (fun _ => h.queued (by simp)) (fun _ => h.empty hrunning)
  | againRunning hrunning =>
      exact of_pc (by simp) (fun _ => h.queued (by simp)) (fun _ => h.empty hrunning)
  | _ =>
      refine of_pc (by simp) (fun _ => h.queued (by simp)) ?_
      intro hpc
      first | apply h.empty trivial | cases hpc

/-- Away from the processing of a batch, an effect that deletes no waiting node and leaves the
clear channel assessment list as it is. -/
theorem effect {pc pc' : Pc} {eff : Effect} (h : Waiting ⟨pc, m⟩)
    (hpc : pc ≠ .deleted) (hpoll : ∀ ph evs, pc' ≠ .poll ph evs) (hother : ¬ eff.IsCca)
    (hkept : ∀ q ∈ m.ccaList, ¬ eff.Deletes q)
    (hempty : pc'.CcaEmpty (eff.apply m).state → m.ccaList = []) :
  Waiting ⟨pc', eff.apply m⟩
  := by
  apply of_pc hpoll
  · intro _ q hq
    rw [apply_ccaList hother] at hq
    apply apply_live (h.queued hpc q hq) (hkept q hq)
  · intro hpc'
    rw [apply_ccaList hother]
    apply hempty hpc'

/-- The first node of the list is answered. -/
theorem answer {ph : Phase} {rest : List NodePtr} (h : Waiting ⟨.processCcaList ph, m⟩)
    (hguard : (Effect.answer p rest).Guard m) :
  Waiting ⟨.processCcaList ph, (Effect.answer p rest).apply m⟩
  := by
  apply of_pc (by simp)
  · intro _ q hq
    apply h.queued (by simp)
    rw [hguard.1]
    apply List.mem_cons_of_mem _ hq
  · intro hpc
    cases hpc

/-- A new node is none of those that wait. -/
theorem add {pc : Pc} {socket : UInt64} (h : Waiting ⟨pc, m⟩) :
  Waiting ⟨pc, (Effect.add p socket).apply m⟩
  where
  nodup hpc := h.nodup hpc
  events hpc ev hev := by
    rcases h.events hpc ev hev with hdata | ⟨q, hq, hdata⟩
    · left
      apply hdata
    · right
      exact ⟨q, List.mem_append_left _ hq, hdata⟩
  queued hpc q hq := by
    have hkept : ¬ (Effect.add p socket).Deletes q := not_false
    apply apply_live (h.queued hpc q hq) hkept
  apart hpc := h.apart hpc
  empty := h.empty

/-- The state variable and the time matter only at the end of the loop. -/
theorem assign {pc pc' : Pc} {state : PhysicalMediumState} {curTime : Timespec}
    (h : Waiting ⟨pc, m⟩) (hpc : pc ≠ .deleted) (hpoll : ∀ ph evs, pc' ≠ .poll ph evs)
    (hempty : pc'.CcaEmpty state → m.ccaList = []) :
  Waiting ⟨pc', { m with state, curTime }⟩
  := by
  apply of_pc hpoll _ hempty
  intro _
  apply h.queued hpc

/-- Every step of a medium keeps those that wait. -/
theorem next {s s' : Sys} {i : Input} (h : Waiting s) (hnext : Next host kind s i s') :
  Waiting s'
  := by
  cases hnext with
  | move hmove => apply h.move hmove
  | start m env curTime =>
      apply h.assign (by simp) (by simp)
      intro _
      apply h.empty trivial
  | interval m env ph =>
      apply of_pc (by simp)
      · intro _
        apply h.queued (by simp)
      · intro _
        apply h.empty trivial
  | poll hdata hlive heff hguard => apply h.poll hdata hlive heff
  | unblocked => exact h.assign (by simp) (by simp) False.elim
  | mark => exact h.assign (by simp) (by simp) False.elim
  | answer hguard => apply h.answer hguard
  | collide hkind hguard =>
      exact h.effect (by simp) (by simp) not_false (fun _ _ => not_false)
        (fun _ => h.empty trivial)
  | conclude hguard =>
      exact h.effect (by simp) (by simp) not_false (fun _ _ => not_false)
        (fun _ => h.empty trivial)
  | resetIdle m env =>
      apply h.assign (by simp) (by simp)
      intro _
      apply h.empty trivial
  | @sweep m m' env effs heffs hexpiry =>
      have hnil : m'.ccaList = [] := by
        rw [expiries_ccaList heffs hexpiry]
        apply h.empty trivial
      apply of_pc (by simp)
      · intro _ q hq
        rw [hnil] at hq
        cases hq
      · intro _
        apply hnil
  | exiting m env => exact h.assign (by simp) (by simp) False.elim
  | add hfresh => apply h.add
  | stop m pc =>
      exact {
        nodup := h.nodup
        events := h.events
        queued := h.queued
        apart := h.apart
        empty := by
          intro hpc
          apply h.empty
          cases pc <;> trivial
      }
  | delete =>
      apply of_pc (by simp)
      · intro hpc
        apply absurd rfl hpc
      · intro hpc
        cases hpc

end Waiting

end X6losim
