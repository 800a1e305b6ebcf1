import X6losim.Invariant.Halting
import X6losim.Invariant.StateVariable
import X6losim.Sim.Session

/-!
# Nodes that are deleted while they transmit

`deregisterNode` does not take a node off the transmit list.  So the nodes on the list are there
in all of a run exactly when no event of the run disconnects a node on it.
-/

open Bytes

namespace X6losim

variable {host : ByteOrder} {kind : Kind} {m m' : Medium} {p q : NodePtr} {n : DeviceNode}

/-- The nodes on the transmit list are there. -/
def Medium.TxThere (m : Medium) : Prop := ∀ p ∈ m.txList, ∃ n, m.nodes p = .live n

/-- The nodes on the transmit list are there, and are on the node hash map under their ids. -/
def Medium.TxPlaced (m : Medium) : Prop :=
  ∀ p ∈ m.txList, ∃ n, m.nodes p = .live n ∧ m.nodeHashMap n.getNodeId = some p

/-- An event disconnects its node: the socket has been closed, or the node asks to be
deregistered. -/
def PollEvent.Disconnects (host : ByteOrder) (ev : PollEvent) (n : DeviceNode) : Prop :=
  ev.rdhup ∨ ev.input ∧ ∃ msg rest, readMsgFrame host n.getNodeId ev.delivery ev.unread
    = .ok (.call .handleDeregistrationRequest msg) rest

/-- A step of the thread processes an event that disconnects a node on the transmit list. -/
inductive CutsOff (host : ByteOrder) : Sys → Input → Prop where
  | event {m : Medium} {env : Env} {ph : Phase} {ev : PollEvent} {evs : List PollEvent}
      {p : NodePtr} {n : DeviceNode} : ev.data = .node p → m.nodes p = .live n → p ∈ m.txList →
      ev.Disconnects host n → CutsOff host ⟨.poll ph (ev :: evs), m⟩ (.run env)

/-! ### A node that is cut off -/

/-- A node that is there is none that has been deleted. -/
theorem live_ne (hlive : m.nodes q = .live n) (hdestroyed : m.nodes p = .destroyed) :
  p ≠ q
  := by
  rintro rfl
  rw [hdestroyed] at hlive
  cases hlive

/-- An event that disconnects a node deletes it, and leaves the transmit list as it is. -/
theorem disconnects_ok {ev : PollEvent} {env : Env} {goOn : Bool} (hdata : ev.data = .node p)
    (hlive : m.nodes p = .live n) (hdisconnects : ev.Disconnects host n)
    (hok : processPollerEvent host env ev m = .ok goOn m') :
  m'.nodes p = .destroyed ∧ m'.txList = m.txList
  := by
  have hdisconnect : ∀ asked, ((Effect.disconnect p n asked).apply m).nodes p = .destroyed ∧
      ((Effect.disconnect p n asked).apply m).txList = m.txList := by
    intro asked
    constructor
    · apply Function.update_self
    · rfl
  by_cases hmem : (m.regListMap n.socket).isSome ∨ (m.nodeHashMap n.socket).isSome
  · by_cases hrdhup : ev.rdhup
    · rw [processPollerEvent_closed hdata hrdhup, deregisterNode_ok hlive hmem] at hok
      cases hok
      apply hdisconnect
    · obtain ⟨hinput, msg, rest, hread⟩ := hdisconnects.resolve_left hrdhup
      rw [processPollerEvent_input hdata hrdhup hinput, readMsg_eq hlive, hread] at hok
      simp only [callHandler, handleDeregistrationRequest_ok hlive hmem] at hok
      cases hok
      apply hdisconnect
  · obtain ⟨hreg, hhash⟩ := not_or.mp hmem
    have hreg' : m.regListMap n.socket = none := by simpa using hreg
    have hhash' : m.nodeHashMap n.socket = none := by simpa using hhash
    by_cases hrdhup : ev.rdhup
    · obtain ⟨m₁, herror⟩ := deregisterNode_error hlive hreg' hhash'
      rw [processPollerEvent_closed hdata hrdhup, herror] at hok
      cases hok
    · obtain ⟨hinput, msg, rest, hread⟩ := hdisconnects.resolve_left hrdhup
      obtain ⟨m₁, herror⟩ := handleDeregistrationRequest_error hlive hreg' hhash'
      rw [processPollerEvent_input hdata hrdhup hinput, readMsg_eq hlive, hread] at hok
      simp only [callHandler, herror] at hok
      cases hok

/-- A node on the transmit list has been deleted. -/
def Medium.Dangling (m : Medium) (p : NodePtr) : Prop := p ∈ m.txList ∧ m.nodes p = .destroyed

theorem Medium.Dangling.not_txThere (h : m.Dangling p) :
  ¬ m.TxThere
  := by
  intro hthere
  obtain ⟨n, hlive⟩ := hthere p h.1
  rw [h.2] at hlive
  cases hlive

theorem Medium.Dangling.not_txPlaced (h : m.Dangling p) :
  ¬ m.TxPlaced
  := by
  intro hplaced
  apply h.not_txThere
  intro q hq
  obtain ⟨n, hlive, -⟩ := hplaced q hq
  exact ⟨n, hlive⟩

/-- A node that has been cut off is on the list and not there. -/
theorem CutsOff.dangling {s s' : Sys} {i : Input} (h : CutsOff host s i)
    (hstep : s.step host kind i = .ok s') :
  (∃ p, s'.med.Dangling p) ∧ s'.pc ≠ .deleted
  := by
  cases h with
  | @event m env ph ev evs p n hdata hlive hp hdisconnects =>
      cases hev : processPollerEvent host env ev m with
      | error e m₁ => simp [Sys.step, stepProg, runStep, hev] at hstep
      | ok goOn m₁ =>
          obtain ⟨hdestroyed, htxList⟩ := disconnects_ok hdata hlive hdisconnects hev
          have hdangling : m₁.Dangling p := ⟨htxList ▸ hp, hdestroyed⟩
          cases goOn with
          | true =>
              simp [Sys.step, stepProg, runStep, hev] at hstep
              rw [← hstep]
              exact ⟨⟨p, hdangling⟩, by simp⟩
          | false =>
              simp [Sys.step, stepProg, runStep, hev] at hstep
              rw [← hstep]
              exact ⟨⟨p, hdangling⟩, by simp⟩

/-- A node that has been deleted while it was on the list stays on it. -/
theorem Medium.Dangling.next {s s' : Sys} {i : Input} (h : s.med.Dangling p)
    (hcons : TxConsistent s.med) (hnext : Next host kind s i s') :
  s'.med.Dangling p
  := by
  obtain ⟨hp, hdestroyed⟩ := h
  cases txNext_of_next hnext with
  | neutral hkept =>
      have hnode := hkept.nodes p
      rw [hdestroyed] at hnode
      use hkept.txList ▸ hp
      generalize s'.med.nodes p = c at hnode
      cases hnode with
      | same => rfl
      | deleted => rfl
  | transmit hguard =>
      use List.mem_append_left _ hp
      have hne := live_ne hguard.1 hdestroyed
      simpa [Effect.apply, hne] using hdestroyed
  | @collide m =>
      use hp
      have hgone : m.nodes p = .destroyed := hdestroyed
      simp [Effect.apply, hgone, NodeCell.collide]
  | conclude hguard =>
      have hne := live_ne hguard.2.1 hdestroyed
      constructor
      · rw [(hcons.conclude_txList hguard).2]
        apply (List.mem_erase_of_ne hne).mpr hp
      · simpa [Effect.apply, hne] using hdestroyed

/-- In a run that ends with all nodes on the transmit list there, none has been cut off. -/
theorem none_cutOff_of_txThere {visits : List (Sys × Input)} {s : Sys}
    (run : (medium host kind).Run ⟨.start, Medium.new⟩ visits s) (hthere : s.med.TxThere) :
  ∀ v ∈ visits, ¬ CutsOff host v.1 v.2
  := by
  rintro ⟨x, i⟩ hv hcut
  obtain ⟨before, after, rfl⟩ := List.append_of_mem hv
  obtain ⟨hbefore, henabled, y, hstep, hafter⟩ := run.split
  have hx : TxConsistent x.med := (Orderly.reachable ⟨_, before, rfl, hbefore, by simp⟩).consistent
  obtain ⟨⟨p, hdangling⟩, -⟩ := hcut.dangling hstep
  have hend := hafter.always (P := fun z => TxConsistent z.med ∧ z.med.Dangling p)
    ⟨hx.next (txNext_of_next (next_of_step henabled hstep)), hdangling⟩ ?_
  · apply hend.2.not_txThere hthere
  · intro z z' j hz hen hs
    have hnext := next_of_step hen hs
    exact ⟨hz.1.next (txNext_of_next hnext), hz.2.next hz.1 hnext⟩

/-! ### A run in which no node is cut off -/

/-- An event that deletes a node disconnects it. -/
theorem PollEffect.disconnects {ev : PollEvent} {eff : Effect} (h : PollEffect host ev p n eff)
    (hdeletes : eff.Deletes q) :
  ev.Disconnects host n
  := by
  cases h with
  | closed hrdhup =>
      left
      apply hrdhup
  | failedRead => cases hdeletes
  | handled _ _ _ _ _ hinput hread heff =>
      cases heff with
      | disconnect =>
          right
          exact ⟨hinput, _, _, hread⟩
      | _ => cases hdeletes

/-- A node on the transmit list after an effect was on it before, or is live. -/
theorem apply_txList {eff : Effect} (hq : q ∈ (eff.apply m).txList) :
  q ∈ m.txList ∨ ∃ n, (eff.apply m).nodes q = .live n
  := by
  cases eff with
  | transmit p n pkt itValue =>
      rcases List.mem_append.mp hq with hq | hq
      · left
        apply hq
      · right
        obtain rfl := List.mem_singleton.mp hq
        exact ⟨_, Function.update_self ..⟩
  | conclude i p n pkt buf =>
      left
      apply List.mem_of_mem_eraseIdx hq
  | dispose map key p n =>
      left
      cases map <;> apply hq
  | _ =>
      left
      apply hq

/-- An effect that deletes no node on the transmit list leaves those on it there. -/
theorem Medium.TxThere.effect {eff : Effect} (h : m.TxThere)
    (hkept : ∀ q ∈ m.txList, ¬ eff.Deletes q) :
  (eff.apply m).TxThere
  := by
  intro q hq
  rcases apply_txList hq with hq | hlive
  · apply apply_live (h q hq) (hkept q hq)
  · apply hlive

/-- A step that cuts no node off leaves the nodes on the transmit list there. -/
theorem Medium.TxThere.next {s s' : Sys} {i : Input} (h : s.med.TxThere)
    (hcons : TxConsistent s.med) (hcut : ¬ CutsOff host s i) (hpc : s'.pc ≠ .deleted)
    (hnext : Next host kind s i s') :
  s'.med.TxThere
  := by
  cases hnext with
  | poll hdata hlive heff hguard =>
      apply h.effect
      intro q hq hdeletes
      obtain rfl := heff.deletes hdeletes
      apply hcut
      exact .event hdata hlive hq (heff.disconnects hdeletes)
  | answer => exact h.effect (fun _ _ => not_false)
  | collide => exact h.effect (fun _ _ => not_false)
  | conclude => exact h.effect (fun _ _ => not_false)
  | add => exact h.effect (fun _ _ => not_false)
  | sweep heffs hexpiry =>
      intro q hq
      rw [(expiries_state heffs hexpiry).2] at hq
      rcases expiries_nodes heffs hexpiry q with hsame | ⟨n, hlive, hstate, -⟩
      · simp only [hsame]
        apply h q hq
      · apply absurd hq (hcons.not_mem hlive (by simp [hstate]))
  | delete => apply absurd rfl hpc
  | _ => apply h

/-- What holds of the states of a run in which no node has been cut off. -/
structure NoneCutOff (s : Sys) : Prop where
  lifecycle : Lifecycle s.med
  consistent : TxConsistent s.med
  waiting : Waiting s
  there : s.pc ≠ .deleted → s.med.TxThere

namespace NoneCutOff

theorem initial :
  NoneCutOff ⟨.start, Medium.new⟩
  where
  lifecycle := .initial
  consistent := .initial
  waiting := .initial
  there _ p hp := by cases hp

theorem next {s s' : Sys} {i : Input} (h : NoneCutOff s) (hcut : ¬ CutsOff host s i)
    (hnext : Next host kind s i s') :
  NoneCutOff s'
  where
  lifecycle := h.lifecycle.next hnext
  consistent := h.consistent.next (txNext_of_next hnext)
  waiting := h.waiting.next hnext
  there hpc := by
    have hpc' : s.pc ≠ .deleted := by
      intro heq
      cases hnext with
      | move hmove => cases hmove <;> cases heq
      | add => apply hpc heq
      | stop => apply hpc heq
      | _ => cases heq
    apply (h.there hpc').next h.consistent hcut hpc hnext

/-- The states of a run in which no node is cut off. -/
theorem reaches {s : Sys} (h : (medium host kind).Reaches (fun x i => ¬ CutsOff host x i) s) :
  NoneCutOff s
  := by
  apply h.invariant
  · rintro x rfl
    apply NoneCutOff.initial
  · intro x y i hx henabled hcut hstep
    apply hx.next hcut (next_of_step henabled hstep)

/-- A medium on which no node has been cut off is in order. -/
theorem orderly {s : Sys} (h : NoneCutOff s) :
  Orderly s
  := ⟨h.lifecycle, h.consistent, h.waiting⟩

/-- A transmitting node is on the node hash map. -/
theorem txPlaced {s : Sys} (h : NoneCutOff s) (hpc : s.pc ≠ .deleted) :
  s.med.TxPlaced
  := by
  intro p hp
  obtain ⟨n, hlive⟩ := h.there hpc p hp
  have hstate := (h.consistent.transmitting hp hlive).1
  use n, hlive
  apply (h.lifecycle.registered hlive (by simp [hstate])).1

end NoneCutOff

/-! ### Nodes that are used -/

/-- No event of a node that is there uses one that is not. -/
theorem no_eventError_noObject {env : Env} {ev : PollEvent} :
  ¬ EventError host env m ev p n (.noObject q) m'
  := by
  intro herror
  cases herror with
  | read _ _ hread => cases readMsgFrame_error hread
  | handled _ _ _ hhandler => cases hhandler

/-- When all nodes that the threads may use are there, they do not stop at one that is not. -/
theorem NoneCutOff.no_noObject {s : Sys} {i : Input} (h : NoneCutOff s) :
  ¬ (medium host kind).Halts s i (.noObject p, m')
  := by
  intro hhalts
  cases halt_of_halts h.orderly hhalts with
  | event _ _ herror => apply no_eventError_noObject herror
  | @noObject pc _ _ _ _ hpc hp hgone _ =>
      have hthere : pc ≠ .deleted := by
        rintro rfl
        rcases hpc with hpc | ⟨i, hpc⟩ <;> cases hpc
      obtain ⟨n, hlive⟩ := h.there hthere p hp
      apply hgone n hlive
  | addNode _ herror => cases herror

/-! ### Runs -/

/-- In all states of a run, up to the deletion of the medium, the nodes on the transmit list are
there and on the node hash map, and the run does not stop at a node that is not there. -/
def NoDanglingTx (host : ByteOrder) (kind : Kind) (visits : List (Sys × Input)) (s : Sys) : Prop :=
  (∀ x, (x = s ∨ ∃ i, (x, i) ∈ visits) → x.pc ≠ .deleted → x.med.TxPlaced) ∧
    ∀ i p m', ¬ (medium host kind).Halts s i (.noObject p, m')

/-- The nodes on the transmit list are there in all of a run, and no node is used that is not,
exactly when no event disconnects a node on the list. -/
theorem no_dangling_tx_iff {visits : List (Sys × Input)} {s : Sys}
    (run : (medium host kind).Run ⟨.start, Medium.new⟩ visits s) :
  NoDanglingTx host kind visits s ↔ ∀ v ∈ visits, ¬ CutsOff host v.1 v.2
  := by
  constructor
  · rintro ⟨hplaced, -⟩ ⟨x, i⟩ hv hcut
    obtain ⟨y, hstep, hy⟩ := run.successor hv
    obtain ⟨⟨p, hdangling⟩, hpc⟩ := hcut.dangling hstep
    apply hdangling.not_txPlaced
    rcases hy with hy | rfl
    · apply hplaced y (Or.inr hy) hpc
    · apply hplaced y (Or.inl rfl) hpc
  · intro hnone
    have hinv : ∀ {x before}, (medium host kind).Run ⟨.start, Medium.new⟩ before x →
        (∀ v ∈ before, v ∈ visits) → NoneCutOff x := by
      intro x before hrun hsub
      apply NoneCutOff.reaches ⟨_, before, rfl, hrun, fun v hv => hnone v (hsub v hv)⟩
    constructor
    · rintro x (rfl | ⟨i, hx⟩) hpc
      · apply (hinv run (fun _ hv => hv)).txPlaced hpc
      · obtain ⟨before, hrun, hbefore, -⟩ := run.visited hx
        apply (hinv hrun _).txPlaced hpc
        intro v hv
        apply hbefore.subset (List.mem_append_left _ hv)
    · intro i p m'
      apply (hinv run (fun _ hv => hv)).no_noObject

/-- The socket of the only node is closed while the node transmits: the node is deleted and stays
on the transmit list. -/
theorem reachable_closed (host : ByteOrder) (kind : Kind) (p : NodePtr) (socket : UInt64) :
  ∃ m, (medium host kind).Reachable ⟨.processTxList 0, m⟩ ∧ m.txList = [p] ∧
    m.nodes p = .destroyed
  := by
  obtain ⟨m₀, n, pkt, hrunning, htx, -, -⟩ := running_transmitting host kind p
    (dispatched_dataFrame host socket)
  have htx' := htx.tick .tx
  have hreportable : m₀.Reportable [closeEvent p] := reportable_node rfl htx.interest
  have hreport := hrunning.report hreportable (by simp)
  have hmem : ((m₀.tick .tx).regListMap n.socket).isSome ∨
      ((m₀.tick .tx).nodeHashMap n.socket).isSome := by
    right
    rw [htx'.nodeHashMap]
    rfl
  have hclose : processPollerEvent host .calm (closeEvent p) (m₀.tick .tx)
      = .ok true ((Effect.disconnect p n false).apply (m₀.tick .tx)) := by
    rw [processPollerEvent_closed rfl rfl, deregisterNode_ok htx'.live hmem]
  have hstate : ((Effect.disconnect p n false).apply (m₀.tick .tx)).state ≠ .stopping := by
    simp [Effect.apply, Medium.delete, htx'.state]
  have htxList : ((Effect.disconnect p n false).apply (m₀.tick .tx)).txList = [p] := htx'.txList
  have hprocess := (hreport.event .calm hclose hstate).processed.process htx'.ccaList
    (by simp [htxList])
  refine ⟨_, hprocess.reachable, htxList, ?_⟩
  simp [Effect.apply, Medium.delete]

/-- The thread stops where it uses the node. -/
theorem close_while_transmitting :
  ∃ s env m', (medium .little .powerline).Reachable s ∧ s.pc ≠ .deleted ∧ ¬ s.med.TxPlaced ∧
    (medium .little .powerline).Halts s (.run env) (.noObject 1, m')
  := by
  obtain ⟨m, hreach, htxList, hdestroyed⟩ := reachable_closed .little .powerline 1 7
  have hdangling : m.Dangling 1 := ⟨by simp [htxList], hdestroyed⟩
  refine ⟨_, .calm, m, hreach, by simp, hdangling.not_txPlaced, trivial, ?_⟩
  have hstop : processTxEntry .little .calm 0 1 m = .error (.noObject 1) m :=
    processTxEntry_noObject (by simp [hdestroyed])
  simp [medium, Sys.step, stepProg, runStep, htxList, hstop]

/-- The run to where the thread stops has cut the node off. -/
theorem no_dangling_tx_close :
  ∃ visits s, (medium .little .powerline).Run ⟨.start, Medium.new⟩ visits s ∧
    ∃ v ∈ visits, CutsOff .little v.1 v.2
  := by
  obtain ⟨m, ⟨s₀, visits, rfl, run, -⟩, htxList, hdestroyed⟩ :=
    reachable_closed .little .powerline 1 7
  refine ⟨visits, _, run, ?_⟩
  by_contra hnone
  have hplaced := (no_dangling_tx_iff run).mpr (fun v hv hcut => hnone ⟨v, hv, hcut⟩)
  have hdangling : m.Dangling 1 := ⟨by simp [htxList], hdestroyed⟩
  apply hdangling.not_txPlaced (hplaced.1 _ (Or.inl rfl) (by simp))

end X6losim
