import X6losim.Invariant.Dangling
import X6losim.Sim.BatchOrder
import X6losim.Sim.PassOrder

/-!
# The order of the events of a batch

`epoll_wait` reports events in no particular order.  For a batch that cuts no transmitting node off,
the order does not matter: not for what the events themselves do, nor for the passes over the lists
that follow.
-/

open Bytes Reorder

namespace X6losim

variable {host : ByteOrder} {kind : Kind} {env : Env} {ph : Phase} {left : Int}
  {m m' m₁ : Medium} {s : Sys} {p : NodePtr} {n : DeviceNode} {evs evs' : List PollEvent}

/-- No event of a batch disconnects a node on the transmit list. -/
def Medium.Spares (host : ByteOrder) (m : Medium) (evs : List PollEvent) : Prop :=
  ∀ ev ∈ evs, ∀ p n, ev.data = .node p → m.nodes p = .live n → p ∈ m.txList →
    ¬ ev.Disconnects host n

/-- Two threads do the same, up to the order of work, or both of them stop. -/
def SameResult (r r' : EStateM.Result Stop Medium Unit) : Prop :=
  (∃ m m', r = .ok () m ∧ r' = .ok () m' ∧ m.SameUpToOrder m') ∨
    ∃ e e' m m', r = .error e m ∧ r' = .error e' m'

/-- The media after a batch in two orders: they are the same, and so is what becomes of them in the
passes that follow, whatever the system answers. -/
structure OrderIrrelevant (host : ByteOrder) (kind : Kind) (ph : Phase) (m m' : Medium) :
    Prop where
  batch : m.SameUpToOrder m'
  passes : ∀ env, SameResult (passesFrom host kind env ph m) (passesFrom host kind env ph m')

/-- The nodes of a batch that is reported are there, and different. -/
theorem NoneCutOff.pending (h : NoneCutOff s) (hreport : s.med.Reportable evs)
    (hnodes : ∀ ev ∈ evs, ev.data ≠ .unblocker) :
  s.med.Pending evs
  where
  live ev hev := by
    obtain ⟨p, hp, hdata⟩ := (hreport.interest ev hev).resolve_left (hnodes ev hev)
    obtain ⟨n, hlive⟩ := h.lifecycle.interest hp
    exact ⟨p, n, hdata, hlive⟩
  distinct := hreport.nodup
  sockets p q n n' hlive hlive' hsocket := h.lifecycle.socket_unique hlive hlive' hsocket

/-- The first event of a batch that spares the transmitting nodes leaves the others to spare them
too. -/
theorem Medium.Spares.change {ev : PollEvent} {c : Change} (h : m.Spares host (ev :: evs))
    (hpending : m.Pending (ev :: evs)) (hdata : ev.data = .node p) :
  (m.change p n.socket c).Spares host evs
  := by
  intro ev' hev' q n' hdata' hlive hq
  have hne := hpending.ne hdata hev' hdata'
  apply h ev' (List.mem_cons_of_mem ev hev') q n' hdata'
  · simpa only [Medium.change, Function.update_of_ne hne] using hlive
  · rcases List.mem_append.mp hq with hq | hq
    · apply hq
    · split at hq
      · apply absurd (List.mem_singleton.mp hq) hne
      · cases hq

/-- A batch that spares the transmitting nodes cuts none off. -/
theorem NoneCutOff.batch (h : NoneCutOff ⟨.poll ph evs, m⟩) (hpending : m.Pending evs)
    (hspares : m.Spares host evs) (hrun : Run (Processes host) m evs m₁) :
  NoneCutOff ⟨.poll ph [], m₁⟩
  := by
  induction hrun with
  | nil => apply h
  | @cons m m' m₁ ev evs hstep _ ih =>
      obtain ⟨p, n, hdata, hlive⟩ := hpending.live ev (List.mem_cons_self ..)
      have hcut : ¬ CutsOff host ⟨.poll ph (ev :: evs), m⟩ (.run .calm) := by
        intro hcut
        cases hcut with
        | event hdata' hlive' hmem hdisconnects =>
            apply hspares ev (List.mem_cons_self ..) _ _ hdata' hlive' hmem hdisconnects
      have hpoll : Sys.step host .wireless ⟨.poll ph (ev :: evs), m⟩ (.run .calm)
          = .ok ⟨.poll ph evs, m'⟩ := by
        simp [Sys.step, stepProg, runStep, hstep .calm Env.calm_armsTimers]
      have hnext : NoneCutOff ⟨.poll ph evs, m'⟩ := h.next hcut (next_of_step trivial hpoll)
      obtain ⟨c, c', hc, -, rfl, -⟩ := hstep.elsewhere hdata (.refl hlive)
      apply ih hnext (hpending.change hdata hlive hc) (hspares.change hpending hdata)

/-- The nodes on the lists of a medium on which no node has been cut off are there, and transmit. -/
theorem NoneCutOff.listed (h : NoneCutOff s) (hpc : s.pc ≠ .deleted) :
  s.med.Listed
  where
  nodup := h.consistent.nodup
  transmitting p hp := by
    obtain ⟨n, hlive⟩ := h.there hpc p hp
    obtain ⟨hstate, hstarted, pkt, hpkt⟩ := h.consistent.transmitting hp hlive
    exact ⟨n, pkt, hlive, hstate, hstarted, hpkt⟩
  queued := h.waiting.queued hpc

/-- What follows from media that are the same is the same. -/
theorem passesFrom_sameResult (hlisted : m.Listed) (hsame : m.SameUpToOrder m') :
  SameResult (passesFrom host kind env ph m) (passesFrom host kind env ph m')
  := by
  cases hresult : passesFrom host kind env ph m with
  | ok u m₁ =>
      obtain ⟨m₁', hok, hend⟩ := passesFrom_same hlisted hsame hresult
      left
      exact ⟨m₁, m₁', rfl, hok, hend⟩
  | error e m₁ =>
      right
      cases hresult' : passesFrom host kind env ph m' with
      | ok u m₁' =>
          -- Had the other not stopped, this one would not have stopped either.
          obtain ⟨m₂, hok, -⟩ := passesFrom_same (hsame.listed hlisted) hsame.symm hresult'
          rw [hresult] at hok
          cases hok
      | error e' m₁' => exact ⟨e, e', m₁, m₁', rfl, rfl⟩

/-- The order of the events of a batch does not matter. -/
theorem batch_order_irrelevant {process process' : Nat → Env}
    (hreach : (medium host kind).Reachable s) (hpc : s.pc = .epollWait ph left)
    (hthere : s.med.TxThere) (hreport : s.med.Reportable evs)
    (hnodes : ∀ ev ∈ evs, ev.data ≠ .unblocker) (hspares : s.med.Spares host evs)
    (hok : processPollerEvents host process evs s.med = .ok () m₁) (hperm : evs.Perm evs')
    (harms : ∀ k, (process' k).ArmsTimers) :
  ∃ m₂, processPollerEvents host process' evs' s.med = .ok () m₂ ∧
    OrderIrrelevant host kind ph m₁ m₂
  := by
  obtain ⟨pc, m⟩ := s
  obtain rfl : pc = .epollWait ph left := hpc
  have horderly := Orderly.reachable hreach
  have hwait : NoneCutOff ⟨.epollWait ph left, m⟩ :=
    ⟨horderly.lifecycle, horderly.consistent, horderly.waiting, fun _ => hthere⟩
  have hcut : ¬ CutsOff host ⟨.epollWait ph left, m⟩ (.run .calm) := by
    intro hcut
    cases hcut
  have hnext : Next host kind ⟨.epollWait ph left, m⟩ (.run .calm) ⟨.poll ph evs, m⟩ :=
    .move (.ready ph left evs hreport)
  have hpoll : NoneCutOff ⟨.poll ph evs, m⟩ := hwait.next hcut hnext
  have hpending : m.Pending evs := hpoll.pending hreport hnodes
  obtain ⟨m₂, hok', hsame⟩ := processPollerEvents_perm hpending hperm hok harms
  have hend := hpoll.batch hpending hspares (run_of_processPollerEvents hpending hok)
  refine ⟨m₂, hok', hsame, ?_⟩
  intro env
  apply passesFrom_sameResult (hend.listed (by simp)) hsame

/-- One node asks for an assessment and another transmits, in either order. -/
theorem batch_order_irrelevant_pair :
  ∃ s m₁ m₂ ev ev', (medium .little .powerline).Reachable s ∧ s.pc = .epollWait .idle 1000 ∧
    m₁.ccaList = [0] ∧ m₁.txList = [1] ∧
    processPollerEvents .little (fun _ => .calm) [ev, ev'] s.med = .ok () m₁ ∧
    processPollerEvents .little (fun _ => .calm) [ev', ev] s.med = .ok () m₂ ∧
    OrderIrrelevant .little .powerline .idle m₁ m₂
  := by
  obtain ⟨m₀, m, n, n', hrunning, -, -, hactive, hactive', hid, hid'⟩ :=
    running_pair .little .powerline
  have hcca : Dispatched .little 0 .handleCcaRequest (sealMsg .little .handleCcaRequest 0 []) :=
    dispatched_sealMsg (by decide) (by decide)
  have hdata := dispatched_dataFrame .little 1
  have hlive := (hactive.tick .idle).live
  have hlive' : ((Effect.request 0 n).apply (m.tick .idle)).nodes 1 = .live n' :=
    (hactive'.tick .idle).live
  obtain ⟨pkt, -, -, -, hready⟩ := handleDataIndication_ready hdata.received hlive'
    ⟨hactive'.curState, hactive'.txTimer⟩
  obtain ⟨itValue, hitValue⟩ :
      ∃ itValue, txTime ((dataFrame .little 1).length / 256 % 8 == 2) = itValue := ⟨_, rfl⟩
  rw [hitValue] at hready
  obtain ⟨m₁, hm₁⟩ : ∃ m₁, (Effect.transmit 1 n' pkt itValue).apply
      ((Effect.request 0 n).apply (m.tick .idle)) = m₁ := ⟨_, rfl⟩
  rw [hm₁] at hready
  have hrequest : processPollerEvent .little .calm
      (frameEvent 0 (sealMsg .little .handleCcaRequest 0 [])) (m.tick .idle)
        = .ok true ((Effect.request 0 n).apply (m.tick .idle)) := by
    rw [processPollerEvent_frame hcca hlive hid]
    simp [callHandler, handleCcaRequest_eq hlive, hactive.curState]
  have hok : processPollerEvents .little (fun _ => .calm)
      [frameEvent 0 (sealMsg .little .handleCcaRequest 0 []), frameEvent 1 (dataFrame .little 1)]
      (m.tick .idle) = .ok () m₁ := by
    simp [processPollerEvents, processEvents, epollMaxEvents, hrequest,
      processPollerEvent_frame hdata hlive' hid', callHandler, hready]
  have htxList : (m.tick .idle).txList = [] := (hactive.tick .idle).txList
  have hccaList : (m.tick .idle).ccaList = [] := (hactive.tick .idle).ccaList
  have hreport : (m.tick .idle).Reportable [frameEvent 0 (sealMsg .little .handleCcaRequest 0 []),
      frameEvent 1 (dataFrame .little 1)] := by
    constructor
    · simp [epollMaxEvents]
    · simp [frameEvent]
    · simp [frameEvent, (hactive.tick .idle).interest, (hactive'.tick .idle).interest]
  have horder : ∃ m₂, processPollerEvents .little (fun _ => .calm)
      [frameEvent 1 (dataFrame .little 1), frameEvent 0 (sealMsg .little .handleCcaRequest 0 [])]
      (m.tick .idle) = .ok () m₂ ∧ OrderIrrelevant .little .powerline .idle m₁ m₂ := by
    refine batch_order_irrelevant hrunning.arm.reachable rfl ?_ hreport ?_ ?_ hok (.swap ..)
      (fun _ => Env.calm_armsTimers)
    · intro p hp
      rw [htxList] at hp
      cases hp
    · simp [frameEvent]
    · intro ev hev p n hnode hlive hp
      rw [htxList] at hp
      cases hp
  obtain ⟨m₂, hok', hirrelevant⟩ := horder
  refine ⟨_, m₁, m₂, _, _, hrunning.arm.reachable, rfl, ?_, ?_, hok, hok', hirrelevant⟩
  · simp [← hm₁, Effect.apply, hccaList]
  · simp [← hm₁, Effect.apply, htxList]

end X6losim
