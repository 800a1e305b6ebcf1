import X6losim.Invariant.Dangling

/-!
# The state of a transmission

A transmission is kept in four places: the transmit list of the medium, and the state object, the
timer and the packet of the node.  They agree in all of a run in which no node is cut off, and so
the assertions about them hold.
-/

open Bytes

namespace X6losim

variable {host : ByteOrder} {kind : Kind} {env : Env} {m m' : Medium} {p : NodePtr}
  {n : DeviceNode} {e : Stop}

/-- For a node the four places agree. -/
structure Medium.TxAgrees (m : Medium) (p : NodePtr) (n : DeviceNode) : Prop where
  curState : n.curState = .tx ↔ p ∈ m.txList
  txTimer : n.txTimer.started ↔ p ∈ m.txList
  txPkt : n.txPkt ≠ none ↔ p ∈ m.txList
  once : p ∈ m.txList → m.txList.count p = 1

theorem TxConsistent.agrees (h : TxConsistent m) (hlive : m.nodes p = .live n) :
  m.TxAgrees p n
  := by
  by_cases hp : p ∈ m.txList
  · obtain ⟨hstate, hstarted, pkt, hpkt⟩ := h.transmitting hp hlive
    constructor
    · simp [hstate, hp]
    · simp [hstarted, hp]
    · simp [hpkt, hp]
    · apply List.count_eq_one_of_mem h.nodup
  · have hidle := h.idle hp hlive
    constructor
    · simp [hidle.curState, hp]
    · simp [hidle.txTimer, hp]
    · simp [hidle.txPkt, hp]
    · intro hmem
      apply absurd hmem hp

/-- The stops at which the four places disagree: in the assertions about the transmit timer and
about the packet, where a packet that is not there is used, and in the handlers of an expired
transmit timer that throw. -/
def txStops : List Stop :=
  [.assertion (.timerStart .txTimer), .assertion (.timerExpired .txTimer),
    .assertion .processTxList, .assertion .handleTxTimerExpired, .nullPointer,
    .exception "RegisteringState: handleTxTimerExpired",
    .exception "ActiveState: handleTxTimerExpired"]

/-- No message is refused like an expired transmit timer. -/
theorem refusal_not_txStop {state : NodeState} {handler : Handler} {text : String}
    (h : state.refusal handler = some text) :
  .exception text ∉ txStops
  := by
  cases state <;> cases handler <;> cases h <;> simp [txStops]

/-- A handler of a node for which the four places agree does not stop where they disagree. -/
theorem HandlerError.not_txStop {msg : List UInt8} {handler : Handler}
    (herror : HandlerError host env m p n msg handler e m') (h : m.TxAgrees p n) :
  e ∉ txStops
  := by
  cases herror with
  | regCon _ _ hrefusal => apply refusal_not_txStop hrefusal
  | ccaReq hrefusal => apply refusal_not_txStop hrefusal
  | dataInd _ hrefusal => apply refusal_not_txStop hrefusal
  | timerStart _ hstate hstarted =>
      have htx := h.curState.mpr (h.txTimer.mp hstarted)
      rw [hstate] at htx
      cases htx
  | _ => simp [txStops]

theorem EventError.not_txStop {ev : PollEvent} (herror : EventError host env m ev p n e m')
    (h : m.TxAgrees p n) :
  e ∉ txStops
  := by
  cases herror with
  | closed => simp [txStops]
  | read _ _ hread => cases readMsgFrame_error hread <;> simp [txStops]
  | handled _ _ _ hhandler => apply hhandler.not_txStop h

theorem AddError.not_txStop {socket : UInt64} (herror : AddError env m p socket e m') :
  e ∉ txStops
  := by
  cases herror <;> simp [txStops]

/-- A medium that is in order does not stop where the four places disagree. -/
theorem Halt.not_txStop {s : Sys} {i : Input} (hhalt : Halt host s i e m') (h : Orderly s) :
  e ∉ txStops
  := by
  cases hhalt with
  | event _ hlive herror => apply herror.not_txStop (h.consistent.agrees hlive)
  | addNode _ herror => apply herror.not_txStop
  | _ => simp [txStops]

/-- In every state of a run in which no node is cut off the four places agree for every node that
is there, and the medium stops neither where they disagree nor at a node that is not there. -/
theorem tx_agrees {s : Sys} (h : (medium host kind).Reaches (fun x i => ¬ CutsOff host x i) s) :
  (∀ p n, s.med.nodes p = .live n → s.med.TxAgrees p n) ∧
    ∀ i e m', (medium host kind).Halts s i (e, m') → e ∉ txStops ∧ ∀ p, e ≠ .noObject p
  := by
  have hkept := NoneCutOff.reaches h
  constructor
  · intro p n hlive
    apply hkept.consistent.agrees hlive
  · intro i e m' hhalts
    use (halt_of_halts hkept.orderly hhalts).not_txStop hkept.orderly
    rintro p rfl
    apply hkept.no_noObject hhalts

/-- A node that transmits is on the list once, with its timer started and a packet. -/
theorem tx_agrees_transmitting :
  ∃ s n, (medium .little .powerline).Reaches (fun x i => ¬ CutsOff .little x i) s ∧
    s.med.nodes 1 = .live n ∧ n.curState = .tx ∧ s.med.TxAgrees 1 n
  := by
  obtain ⟨m, n, pkt, hrunning, htx, -, -⟩ := running_transmitting .little .powerline 1
    (dispatched_dataFrame .little 7)
  obtain ⟨s₀, visits, rfl, run, -⟩ := hrunning.reachable
  have hthere : m.TxThere := by
    intro q hq
    rw [htx.txList, List.mem_singleton] at hq
    rw [hq]
    exact ⟨n, htx.live⟩
  have hreaches : (medium .little .powerline).Reaches (fun x i => ¬ CutsOff .little x i)
      ⟨.interval .tx, m⟩ := ⟨_, visits, rfl, run, none_cutOff_of_txThere run hthere⟩
  exact ⟨_, n, hreaches, htx.live, htx.curState, (tx_agrees hreaches).1 1 n htx.live⟩

end X6losim
