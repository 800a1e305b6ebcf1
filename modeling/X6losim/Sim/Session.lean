import Mathlib.Logic.Relation
import X6losim.Sim.Handling
import X6losim.Sim.Packet
import X6losim.Sim.Run
import X6losim.Sim.Transmission
import X6losim.Sim.Upkeep
import X6losim.Wire.Received
import X6losim.Wire.Seal

/-!
# The session of a node

Where a medium gets to when no call to the system fails: a node is added to it, confirms its
registration, and transmits a packet.  The node is the only one, and the medium is of any kind.
-/

open Bytes

namespace X6losim

variable {host : ByteOrder} {kind : Kind} {m m' : Medium} {p : NodePtr} {n : DeviceNode}
  {ph : Phase}

/-- The medium when `interval` has begun to wait. -/
def Medium.tick (m : Medium) (ph : Phase) : Medium :=
  Medium.record { m with curTime := timespecAddMs m.curTime ph.waitms } [.interval ph.waitms]

/-- The answers of a system on which no call fails and the timers of nodes have expired. -/
def Env.timeUp : Env := { Env.calm with nodeTimerGettime := fun _ => some ⟨0, 0⟩ }

theorem timeUp_callsSucceed :
  Env.timeUp.CallsSucceed
  := ⟨rfl, rfl, by simp [Env.timeUp], rfl⟩

/-- The event that a frame is there, all of it. -/
def frameEvent (p : NodePtr) (frame : List UInt8) : PollEvent where
  data := .node p
  rdhup := false
  input := true
  delivery := ⟨some 2, some frame.length, fun _ => 0⟩
  unread := frame

/-- The event that the socket of a node has been closed. -/
def closeEvent (p : NodePtr) : PollEvent where
  data := .node p
  rdhup := true
  input := false
  delivery := ⟨none, none, fun _ => 0⟩
  unread := []

/-- The frame of a dispatched message is read whole. -/
theorem readMsgFrame_frame {nodeId : UInt64} {handler : Handler} {frame : List UInt8}
    (hframe : Dispatched host nodeId handler frame) (hid : n.socket = nodeId) :
  readMsgFrame host n.getNodeId (frameEvent p frame).delivery (frameEvent p frame).unread
    = .ok (.call handler (blankCksum frame)) []
  := by
  have hwhole : Delivery.Whole (frameEvent p frame).delivery frame.length :=
    ⟨⟨2, rfl, le_refl 2⟩, frame.length, rfl, Nat.sub_le _ _⟩
  have hread := hframe.whole _ [] hwhole
  rw [List.append_nil] at hread
  rw [DeviceNode.getNodeId, hid]
  apply hread

/-- The handler of a dispatched message is called with its frame. -/
theorem processPollerEvent_frame {nodeId : UInt64} {handler : Handler} {frame : List UInt8}
    (hframe : Dispatched host nodeId handler frame) (hlive : m.nodes p = .live n)
    (hid : n.socket = nodeId) (env : Env) :
  processPollerEvent host env (frameEvent p frame) m =
    match callHandler host env p (blankCksum frame) handler m with
    | .ok () m' => .ok true m'
    | .error e m' => .error e m'
  := by
  rw [processPollerEvent_input rfl (by simp [frameEvent]) rfl, readMsg_eq hlive,
    readMsgFrame_frame hframe hid]
  simp only
  cases callHandler host env p (blankCksum frame) handler m <;> rfl

/-! ### Steps of the thread -/

/-- At this place the thread does not process an event. -/
def Pc.quiet : Pc → Bool
  | .poll _ (_ :: _) => false
  | _ => true

/-- The thread takes a step in which it processes no event and no call to the system fails. -/
def Stride (host : ByteOrder) (kind : Kind) (s s' : Sys) : Prop :=
  s.pc.quiet ∧ ∃ env, s.Enabled (.run env) ∧ runStep host kind env s.pc s.med = .ok s'.pc s'.med ∧
    s'.med.state ≠ .stopping ∧ env.CallsSucceed

/-- The thread takes any number of such steps, and the medium is not stopped. -/
def Walk (host : ByteOrder) (kind : Kind) (s s' : Sys) : Prop :=
  Relation.ReflTransGen (Stride host kind) s s' ∧ s'.med.state ≠ .stopping

namespace Walk

variable {s : Sys}

theorem refl (h : m.state ≠ .stopping) (pc : Pc) :
  Walk host kind ⟨pc, m⟩ ⟨pc, m⟩
  := ⟨.refl, h⟩

/-- One step more. -/
theorem run {pc pc' : Pc} {env : Env} (h : Walk host kind s ⟨pc, m⟩) (hquiet : pc.quiet)
    (hcalls : env.CallsSucceed) (henabled : Sys.Enabled ⟨pc, m⟩ (.run env))
    (hrunning : m'.state ≠ .stopping) (hstep : runStep host kind env pc m = .ok pc' m') :
  Walk host kind s ⟨pc', m'⟩
  := ⟨h.1.tail ⟨hquiet, env, henabled, hstep, hrunning, hcalls⟩, hrunning⟩

/-- `interval` begins to wait. -/
theorem arm (h : Walk host kind s ⟨.interval ph, m⟩) :
  Walk host kind s ⟨.epollWait ph ph.waitms, m.tick ph⟩
  := by
  have hrunning : (m.tick ph).state ≠ .stopping := h.2
  apply h.run rfl calm_callsSucceed trivial hrunning
  simp [runStep, armInterval, Env.calm, Medium.tick]

/-- Events are reported. -/
theorem report {evs : List PollEvent} (h : Walk host kind s ⟨.interval ph, m⟩)
    (hreport : m.Reportable evs) (hne : evs ≠ []) :
  Walk host kind s ⟨.poll ph evs, m.tick ph⟩
  := by
  have hreport' : (m.tick ph).Reportable evs :=
    ⟨hreport.length_le, hreport.nodup, hreport.interest⟩
  have hcalls : Env.CallsSucceed { Env.calm with epollWait := .ready evs } :=
    ⟨rfl, rfl, by simp [Env.calm], rfl⟩
  refine h.arm.run rfl hcalls ?_ h.arm.2 ?_
  · intro evs' hevs
    cases hevs
    apply hreport'
  · cases evs with
    | nil => apply absurd rfl hne
    | cons ev evs =>
        have hmax : ¬ epollMaxEvents < (ev :: evs).length := not_lt_of_ge hreport.length_le
        simp only [runStep, if_neg hmax]
        rfl

/-- No events are reported. -/
theorem quiet (h : Walk host kind s ⟨.interval ph, m⟩) :
  Walk host kind s ⟨.polled ph, m.tick ph⟩
  := by
  have hnone : Walk host kind s ⟨.timeLeft ph 0, m.tick ph⟩ := by
    refine h.arm.run rfl calm_callsSucceed ?_ h.arm.2 rfl
    intro evs hevs
    cases hevs
    exact ⟨Nat.zero_le _, List.nodup_nil, by simp⟩
  exact hnone.run rfl calm_callsSucceed trivial h.arm.2 rfl

/-- The events of a batch have been processed. -/
theorem processed (h : Walk host kind s ⟨.poll ph [], m⟩) :
  Walk host kind s ⟨.polled ph, m⟩
  := h.run rfl calm_callsSucceed trivial h.2 rfl

/-- From the events of an idle round to the test of the transmit list. -/
theorem mark (h : Walk host kind s ⟨.poll .idle [], m⟩) :
  Walk host kind s ⟨.mark, m⟩
  := by
  have hrunning : m.state ≠ .stopping := h.2
  apply h.processed.run rfl calm_callsSucceed trivial hrunning
  simp [runStep, hrunning]

/-- From the events of an idle round to `processCcaList`, when no node transmits. -/
theorem assess (h : Walk host kind s ⟨.poll .idle [], m⟩) (htx : m.txList = []) :
  Walk host kind s ⟨.processCcaList .idle, m⟩
  := by
  have hrunning : m.state ≠ .stopping := h.2
  apply h.mark.run rfl calm_callsSucceed trivial hrunning
  simp [runStep, htx]

/-- From the inner loop to the next call of `interval`, when no node transmits. -/
theorem settle (h : Walk host kind s ⟨.inner, m⟩) (hstate : m.state = .idle)
    (htx : m.txList = []) (hreg : m.regListMap.Walk []) :
  Walk host kind s ⟨.interval .idle, m⟩
  := by
  have hrunning : m.state ≠ .stopping := h.2
  have hreset : { m with state := .idle } = m := by rw [← hstate]
  have hleft : Walk host kind s ⟨.left, m⟩ := by
    apply h.run rfl calm_callsSucceed trivial hrunning
    simp [runStep, htx]
  have hresetIdle : Walk host kind s ⟨.resetIdle, m⟩ := by
    apply hleft.run rfl calm_callsSucceed trivial hrunning
    simp [runStep, hrunning]
  have hcheck : Walk host kind s ⟨.checkNodeRegistrationTimeout, m⟩ := by
    apply hresetIdle.run rfl calm_callsSucceed trivial hrunning
    simp [runStep, setState, hreset]
  have hagain : Walk host kind s ⟨.again, m⟩ := by
    apply hcheck.run rfl calm_callsSucceed hreg hrunning
    simp [runStep, checkNodeRegistrationTimeout, checkRegTimers, Env.calm]
  have houter : Walk host kind s ⟨.outer, m⟩ := by
    apply hagain.run rfl calm_callsSucceed trivial hrunning
    simp [runStep, hrunning]
  apply houter.run rfl calm_callsSucceed trivial hrunning
  simp [runStep, hstate]

/-- A round in which no node transmits, up to the next call of `interval`. -/
theorem round (h : Walk host kind s ⟨.poll .idle [], m⟩) (hstate : m.state = .idle)
    (hcca : m.ccaList = []) (htx : m.txList = []) (hreg : m.regListMap.Walk []) :
  Walk host kind s ⟨.interval .idle, m⟩
  := by
  have hinner : Walk host kind s ⟨.inner, m⟩ := by
    apply (h.assess htx).run rfl calm_callsSucceed trivial h.2
    simp [runStep, hcca]
  apply hinner.settle hstate htx hreg

/-- The beginning of a round in which some node transmits, up to the next call of `interval`. -/
theorem busy (h : Walk host kind s ⟨.poll .idle [], m⟩) (hcca : m.ccaList = [])
    (htx : m.txList ≠ []) :
  Walk host kind s ⟨.interval .tx, { m with state := .tx802514Frame }⟩
  := by
  have hprocess : Walk host kind s
      ⟨.processCcaList .idle, { m with state := .tx802514Frame }⟩ := by
    apply h.mark.run rfl calm_callsSucceed trivial (by simp)
    simp [runStep, htx, setState]
  have hinner : Walk host kind s ⟨.inner, { m with state := .tx802514Frame }⟩ := by
    apply hprocess.run rfl calm_callsSucceed trivial (by simp)
    simp [runStep, hcca]
  apply hinner.run rfl calm_callsSucceed trivial (by simp)
  simp [runStep, htx]

/-- From `interval` to the transmit list, on which there is one node at most. -/
theorem process (h : Walk host kind s ⟨.polled .tx, m⟩) (hcca : m.ccaList = [])
    (htx : m.txList.length ≤ 1) :
  Walk host kind s ⟨.processTxList 0, m⟩
  := by
  have hrunning : m.state ≠ .stopping := h.2
  have hprocess : Walk host kind s ⟨.processCcaList .tx, m⟩ := by
    apply h.run rfl calm_callsSucceed trivial hrunning
    simp [runStep, hrunning]
  have hcheck : Walk host kind s ⟨.txCollisionCheck, m⟩ := by
    apply hprocess.run rfl calm_callsSucceed trivial hrunning
    simp [runStep, hcca]
  apply hcheck.run rfl calm_callsSucceed trivial hrunning
  cases kind <;> simp [runStep, txCollisionCheck, not_lt_of_ge htx]

/-- From `interval` to the transmit list of a powerline, on which there are several nodes, whose
packets collide. -/
theorem collide (h : Walk host .powerline s ⟨.polled .tx, m⟩) (hcca : m.ccaList = [])
    (hmany : 1 < m.txList.length) (hhas : ∀ p ∈ m.txList, m.HasPacket p) :
  Walk host .powerline s ⟨.processTxList 0, Effect.collide.apply m⟩
  := by
  have hrunning : m.state ≠ .stopping := h.2
  have hprocess : Walk host .powerline s ⟨.processCcaList .tx, m⟩ := by
    apply h.run rfl calm_callsSucceed trivial hrunning
    simp [runStep, hrunning]
  have hcheck : Walk host .powerline s ⟨.txCollisionCheck, m⟩ := by
    apply hprocess.run rfl calm_callsSucceed trivial hrunning
    simp [runStep, hcca]
  have hrunning' : (Effect.collide.apply m).state ≠ .stopping := h.2
  apply hcheck.run rfl calm_callsSucceed trivial hrunning'
  simp [runStep, txCollisionCheck, hmany, setCollided_ok hhas, Medium.collide, Effect.apply]

end Walk

namespace Running

/-- One step of the thread. -/
theorem run {pc pc' : Pc} (h : Running host kind ⟨pc, m⟩) (env : Env)
    (henabled : Sys.Enabled ⟨pc, m⟩ (.run env)) (hrunning : m'.state ≠ .stopping)
    (hstep : runStep host kind env pc m = .ok pc' m') :
  Running host kind ⟨pc', m'⟩
  := by
  refine h.step henabled ?_ hrunning
  simp only [Sys.step, stepProg, hstep]

/-- A walk of the thread. -/
theorem walk {s s' : Sys} (h : Running host kind s) (hwalk : Walk host kind s s') :
  Running host kind s'
  := by
  obtain ⟨hstrides, -⟩ := hwalk
  induction hstrides with
  | refl => apply h
  | tail _ hstride ih =>
      obtain ⟨-, env, henabled, hstep, hrunning, -⟩ := hstride
      exact ih.run env henabled hrunning hstep

/-- `interval` begins to wait. -/
theorem arm (h : Running host kind ⟨.interval ph, m⟩) :
  Running host kind ⟨.epollWait ph ph.waitms, m.tick ph⟩
  := h.walk (Walk.refl h.2 _).arm

/-- Events are reported. -/
theorem report {evs : List PollEvent} (h : Running host kind ⟨.interval ph, m⟩)
    (hreport : m.Reportable evs) (hne : evs ≠ []) :
  Running host kind ⟨.poll ph evs, m.tick ph⟩
  := h.walk ((Walk.refl h.2 _).report hreport hne)

/-- No events are reported. -/
theorem quiet (h : Running host kind ⟨.interval ph, m⟩) :
  Running host kind ⟨.polled ph, m.tick ph⟩
  := h.walk (Walk.refl h.2 _).quiet

/-- The events of a batch have been processed. -/
theorem processed (h : Running host kind ⟨.poll ph [], m⟩) :
  Running host kind ⟨.polled ph, m⟩
  := h.walk (Walk.refl h.2 _).processed

/-- From the events of an idle round to `processCcaList`, when no node transmits. -/
theorem assess (h : Running host kind ⟨.poll .idle [], m⟩) (htx : m.txList = []) :
  Running host kind ⟨.processCcaList .idle, m⟩
  := h.walk ((Walk.refl h.2 _).assess htx)

/-- From the inner loop to the next call of `interval`, when no node transmits. -/
theorem settle (h : Running host kind ⟨.inner, m⟩) (hstate : m.state = .idle)
    (htx : m.txList = []) (hreg : m.regListMap.Walk []) :
  Running host kind ⟨.interval .idle, m⟩
  := h.walk ((Walk.refl h.2 _).settle hstate htx hreg)

/-- A round in which no node transmits, up to the next call of `interval`. -/
theorem round (h : Running host kind ⟨.poll .idle [], m⟩) (hstate : m.state = .idle)
    (hcca : m.ccaList = []) (htx : m.txList = []) (hreg : m.regListMap.Walk []) :
  Running host kind ⟨.interval .idle, m⟩
  := h.walk ((Walk.refl h.2 _).round hstate hcca htx hreg)

/-- The beginning of a round in which some node transmits, up to the next call of `interval`. -/
theorem busy (h : Running host kind ⟨.poll .idle [], m⟩) (hcca : m.ccaList = [])
    (htx : m.txList ≠ []) :
  Running host kind ⟨.interval .tx, { m with state := .tx802514Frame }⟩
  := h.walk ((Walk.refl h.2 _).busy hcca htx)

/-- From `interval` to the transmit list, on which there is one node at most. -/
theorem process (h : Running host kind ⟨.polled .tx, m⟩) (hcca : m.ccaList = [])
    (htx : m.txList.length ≤ 1) :
  Running host kind ⟨.processTxList 0, m⟩
  := h.walk ((Walk.refl h.2 _).process hcca htx)

/-- An event is processed. -/
theorem event {ev : PollEvent} {evs : List PollEvent}
    (h : Running host kind ⟨.poll ph (ev :: evs), m⟩) (env : Env)
    (hevent : processPollerEvent host env ev m = .ok true m')
    (hrunning : m'.state ≠ .stopping) :
  Running host kind ⟨.poll ph evs, m'⟩
  := by
  apply h.run env trivial hrunning
  simp [runStep, hevent]

/-- A frame is taken by its handler. -/
theorem frame {nodeId : UInt64} {handler : Handler} {frame : List UInt8} {evs : List PollEvent}
    (h : Running host kind ⟨.poll ph (frameEvent p frame :: evs), m⟩)
    (hframe : Dispatched host nodeId handler frame) (hlive : m.nodes p = .live n)
    (hid : n.socket = nodeId)
    (hcall : callHandler host .calm p (blankCksum frame) handler m = .ok () m')
    (hrunning : m'.state ≠ .stopping) :
  Running host kind ⟨.poll ph evs, m'⟩
  := by
  apply h.event .calm _ hrunning
  rw [processPollerEvent_frame hframe hlive hid, hcall]

end Running

/-! ### The node is added -/

/-- A medium to which no node has been added. -/
def Medium.idle : Medium := { Medium.new with state := .idle, curTime := ⟨0, 0⟩ }

/-- A medium to which a node has been added. -/
def Medium.added (p : NodePtr) (socket : UInt64) : Medium :=
  (Effect.add p socket).apply { Medium.new with state := .idle, curTime := ⟨0, 0⟩ }

theorem added_live (p : NodePtr) (socket : UInt64) :
  (Medium.added p socket).nodes p = .live (DeviceNode.registering socket)
  := Function.update_self ..

/-- A medium that has been constructed waits for events. -/
theorem running_idle (host : ByteOrder) (kind : Kind) :
  Running host kind ⟨.interval .idle, Medium.idle⟩
  := by
  have hstart : Running host kind ⟨.outer, Medium.idle⟩ :=
    Running.initial.run .calm trivial (by simp [Medium.idle]) rfl
  exact hstart.run .calm trivial (by simp [Medium.idle]) rfl

/-- A node is added. -/
theorem Running.add {pc : Pc} {socket : UInt64} (h : Running host kind ⟨pc, m⟩)
    (hpc : pc ≠ .deleted) (hfresh : m.Fresh p socket) :
  Running host kind ⟨pc, (Effect.add p socket).apply m⟩
  := by
  refine h.step (i := .addNode .calm p socket) ⟨hpc, hfresh⟩ ?_ ?_
  · have hadd : addNode .calm p socket m = .ok () ((Effect.add p socket).apply m) :=
      addNode_ok rfl rfl rfl rfl p socket m
    simp only [Sys.step, stepProg, Exec.bind_apply, hadd]
    rfl
  · apply h.2

theorem fresh_idle (p : NodePtr) (socket : UInt64) :
  Medium.idle.Fresh p socket
  := by
  refine ⟨rfl, ?_⟩
  intro q n hq
  cases hq

/-- A medium that has been constructed waits for events of the node added to it. -/
theorem running_added (host : ByteOrder) (kind : Kind) (p : NodePtr) (socket : UInt64) :
  Running host kind ⟨.interval .idle, Medium.added p socket⟩
  := (running_idle host kind).add (by simp) (fresh_idle p socket)

/-- Its only event is reportable. -/
theorem reportable_node {ev : PollEvent} (hdata : ev.data = .node p) (hp : p ∈ m.interest) :
  m.Reportable [ev]
  where
  length_le := by simp [epollMaxEvents]
  nodup := by simp
  interest ev' hev' := by
    right
    obtain rfl := List.mem_singleton.mp hev'
    exact ⟨p, hp, hdata⟩

/-! ### The node confirms its registration -/

/-- A registration confirm with names of no characters. -/
def regConFrame (host : ByteOrder) (nodeId : UInt64) : List UInt8 :=
  sealMsg host .handleRegistrationConfirm nodeId (List.replicate 64 0)

theorem length_regConFrame (host : ByteOrder) (nodeId : UInt64) :
  (regConFrame host nodeId).length = 82
  := length_sealMsg

theorem dispatched_regConFrame (host : ByteOrder) (nodeId : UInt64) :
  Dispatched host nodeId .handleRegistrationConfirm (regConFrame host nodeId)
  := by
  apply dispatched_sealMsg
  · rw [List.length_replicate]
    decide
  · rw [List.length_replicate]
    cases host <;> decide

/-- A node that has been added takes a registration confirm with both names. -/
theorem handleRegistrationConfirm_registering {socket : UInt64} {msg os osVersion : List UInt8}
    (hos : strncpy msg RegCon.os = .ok os) (hversion : strncpy msg RegCon.osVersion = .ok osVersion)
    (hlive : m.nodes p = .live (DeviceNode.registering socket))
    (hentry : m.regListMap socket = some p) :
  handleRegistrationConfirm p msg m
    = .ok () ((Effect.confirm p (DeviceNode.registering socket) os osVersion).apply m)
  := by
  rw [handleRegistrationConfirm_eq hlive hos hversion]
  simp [DeviceNode.registering, DeviceNode.new, hentry]

/-- So it takes one with names of no characters. -/
theorem handleRegistrationConfirm_frame {socket : UInt64} (host : ByteOrder)
    (hlive : m.nodes p = .live (DeviceNode.registering socket))
    (hentry : m.regListMap socket = some p) :
  ∃ os osVersion, handleRegistrationConfirm p (blankCksum (regConFrame host socket)) m
    = .ok () ((Effect.confirm p (DeviceNode.registering socket) os osVersion).apply m)
  := by
  have hfits : ∀ f : Field, f.offset + f.size ≤ 82 → 0 < f.size →
      ∃ str, strncpy (blankCksum (regConFrame host socket)) f = .ok str := by
    intro f hf hpos
    rw [strncpy_ok_iff hpos, length_blankCksum (dispatched_regConFrame host socket).size,
      length_regConFrame]
    right
    apply hf
  obtain ⟨os, hos⟩ := hfits RegCon.os (by decide) (by decide)
  obtain ⟨osVersion, hversion⟩ := hfits RegCon.osVersion (by decide) (by decide)
  exact ⟨os, osVersion, handleRegistrationConfirm_registering hos hversion hlive hentry⟩

/-- The only node is active, and nothing else goes on. -/
structure Medium.Active (m : Medium) (p : NodePtr) (n : DeviceNode) : Prop where
  state : m.state = .idle
  ccaList : m.ccaList = []
  txList : m.txList = []
  regListMap : m.regListMap = PMap.empty
  nodeHashMap : m.nodeHashMap n.socket = some p
  interest : p ∈ m.interest
  live : m.nodes p = .live n
  curState : n.curState = .active
  txTimer : n.txTimer.started = false

theorem Medium.Active.tick (h : m.Active p n) (ph : Phase) :
  (m.tick ph).Active p n
  := ⟨h.state, h.ccaList, h.txList, h.regListMap, h.nodeHashMap, h.interest, h.live, h.curState,
    h.txTimer⟩

/-- Nothing goes on in a medium. -/
structure Medium.Calm (m : Medium) : Prop where
  state : m.state = .idle
  ccaList : m.ccaList = []
  txList : m.txList = []
  regListMap : m.regListMap = PMap.empty

/-- A node that is active and has nothing to transmit. -/
structure DeviceNode.Ready (n : DeviceNode) : Prop where
  curState : n.curState = .active
  txTimer : n.txTimer.started = false

/-- A node has joined a medium: it has been added and has confirmed its registration. -/
structure Medium.Joined (m : Medium) (p : NodePtr) (n : DeviceNode) (m' : Medium) : Prop where
  calm : m'.Calm
  ready : n.Ready
  nodes : m'.nodes = Function.update m.nodes p (.live n)
  nodeHashMap : m'.nodeHashMap = m.nodeHashMap.insert n.socket p
  interest : m'.interest = m.interest ++ [p]
  log : m'.log = m.log ++ [.newNode p, .sent p .regReq, .timerCreate p .regTimer,
    .interval Phase.idle.waitms, .timerDelete p .regTimer]

/-- A node that has just been added, while nothing else goes on, can be found on its map. -/
theorem Medium.Calm.registering {socket : UInt64} (h : m.Calm) :
  (((Effect.add p socket).apply m).tick ph).nodes p = .live (DeviceNode.registering socket) ∧
    (((Effect.add p socket).apply m).tick ph).regListMap socket = some p
  := by
  refine ⟨Function.update_self .., ?_⟩
  have hreg : (((Effect.add p socket).apply m).tick ph).regListMap
      = PMap.empty.insert socket p := by
    rw [← h.regListMap]
    rfl
  rw [hreg]
  apply PMap.insert_self p rfl

/-- When it confirms its registration it has joined. -/
theorem Medium.Calm.joined {socket : UInt64} (h : m.Calm) (os osVersion : List UInt8) :
  m.Joined p { DeviceNode.registering socket with
      os, osVersion, curState := .active, regTimer := ⟨false, ⟨registrationTime, 0⟩⟩ }
    ((Effect.confirm p (DeviceNode.registering socket) os osVersion).apply
      (((Effect.add p socket).apply m).tick .idle))
  := by
  refine ⟨⟨h.state, h.ccaList, h.txList, ?_⟩, ⟨rfl, rfl⟩, ?_, rfl, rfl, ?_⟩
  · have hreg : (((Effect.add p socket).apply m).tick .idle).regListMap
        = PMap.empty.insert socket p := by
      rw [← h.regListMap]
      rfl
    apply (congrArg (fun map => PMap.erase map socket) hreg).trans
    apply PMap.erase_insert_self p rfl
  · simp [Effect.apply, Medium.tick, Medium.record, DeviceNode.registering]
  · simp [Effect.apply, Medium.tick, Medium.record, DeviceNode.registering]

/-- A new node joins a medium in which nothing goes on. -/
theorem Running.join {socket : UInt64} (h : Running host kind ⟨.interval .idle, m⟩)
    (hcalm : m.Calm) (hfresh : m.Fresh p socket) :
  ∃ m' n, Running host kind ⟨.interval .idle, m'⟩ ∧ m.Joined p n m' ∧ n.socket = socket
  := by
  obtain ⟨hlive, hentry⟩ : (((Effect.add p socket).apply m).tick .idle).nodes p
      = .live (DeviceNode.registering socket) ∧ _ := hcalm.registering
  obtain ⟨os, osVersion, hhandle⟩ := handleRegistrationConfirm_frame host hlive hentry
  have hreport : Running host kind ⟨.poll .idle [frameEvent p (regConFrame host socket)],
      ((Effect.add p socket).apply m).tick .idle⟩ := by
    apply (h.add (by simp) hfresh).report _ (by simp)
    apply reportable_node rfl
    apply List.mem_append_right _ (List.mem_singleton_self p)
  have hjoined : m.Joined p _ ((Effect.confirm p (DeviceNode.registering socket) os osVersion).apply
      (((Effect.add p socket).apply m).tick .idle)) := hcalm.joined os osVersion
  have hevent := hreport.frame (dispatched_regConFrame host socket) hlive rfl hhandle
    (by rw [hjoined.calm.state]; decide)
  refine ⟨_, _, ?_, hjoined, rfl⟩
  apply hevent.round hjoined.calm.state hjoined.calm.ccaList hjoined.calm.txList
  rw [hjoined.calm.regListMap]
  exact ⟨List.nodup_nil, by simp⟩

namespace Medium.Joined

variable {q : NodePtr} {n' : DeviceNode}

/-- A node that has joined is active. -/
theorem active (h : m.Joined p n m') (hnew : m.nodeHashMap n.socket = none) :
  m'.Active p n
  := by
  constructor
  · apply h.calm.state
  · apply h.calm.ccaList
  · apply h.calm.txList
  · apply h.calm.regListMap
  · rw [h.nodeHashMap]
    apply PMap.insert_self p hnew
  · rw [h.interest]
    apply List.mem_append_right _ (List.mem_singleton_self p)
  · rw [h.nodes]
    apply Function.update_self
  · apply h.ready.curState
  · apply h.ready.txTimer

/-- A node that is active stays so when another node joins. -/
theorem keeps (h : m.Joined q n' m') (hactive : m.Active p n) (hp : p ≠ q)
    (hsocket : n.socket ≠ n'.socket) :
  m'.Active p n
  := by
  constructor
  · apply h.calm.state
  · apply h.calm.ccaList
  · apply h.calm.txList
  · apply h.calm.regListMap
  · rw [h.nodeHashMap, PMap.insert_ne _ _ hsocket]
    apply hactive.nodeHashMap
  · rw [h.interest]
    apply List.mem_append_left _ hactive.interest
  · rw [h.nodes, Function.update_of_ne hp]
    apply hactive.live
  · apply hactive.curState
  · apply hactive.txTimer

end Medium.Joined

/-- A node joins a medium to which no node has been added. -/
theorem running_joined (host : ByteOrder) (kind : Kind) (p : NodePtr) (socket : UInt64) :
  ∃ m n, Running host kind ⟨.interval .idle, m⟩ ∧ Medium.idle.Joined p n m ∧ n.socket = socket
  := by
  have hcalm : Medium.idle.Calm := ⟨rfl, rfl, rfl, rfl⟩
  exact (running_idle host kind).join hcalm (fresh_idle p socket)

/-- The medium waits for events of the node when it has confirmed its registration. -/
theorem running_active (host : ByteOrder) (kind : Kind) (p : NodePtr) (socket : UInt64) :
  ∃ m n, Running host kind ⟨.interval .idle, m⟩ ∧ m.Active p n ∧ n.socket = socket
  := by
  obtain ⟨m, n, hrunning, hjoined, hid⟩ := running_joined host kind p socket
  exact ⟨m, n, hrunning, hjoined.active rfl, hid⟩

/-- The medium waits for events of two nodes when both have confirmed their registration. -/
theorem running_pair (host : ByteOrder) (kind : Kind) :
  ∃ m₁ m n n', Running host kind ⟨.interval .idle, m⟩ ∧ Medium.idle.Joined 0 n m₁ ∧
    m₁.Joined 1 n' m ∧ m.Active 0 n ∧ m.Active 1 n' ∧ n.socket = 0 ∧ n'.socket = 1
  := by
  obtain ⟨m₁, n, hrunning₁, hjoined, hid⟩ := running_joined host kind 0 0
  have hactive := hjoined.active rfl
  have hfresh : m₁.Fresh 1 1 := by
    rw [Medium.Fresh, hjoined.nodes]
    refine ⟨rfl, ?_⟩
    intro q n' hq
    by_cases hq' : q = 0
    · subst hq'
      rw [Function.update_self] at hq
      cases hq
      rw [hid]
      decide
    · rw [Function.update_of_ne hq'] at hq
      cases hq
  obtain ⟨m, n', hrunning, hjoined', hid'⟩ := hrunning₁.join hjoined.calm hfresh
  have hsocket : n.socket ≠ n'.socket := by
    rw [hid, hid']
    decide
  have hnone : m₁.nodeHashMap n'.socket = none := by
    rw [hjoined.nodeHashMap, PMap.insert_ne _ _ hsocket.symm]
    rfl
  exact ⟨m₁, m, n, n', hrunning, hjoined, hjoined', hjoined'.keeps hactive (by decide) hsocket,
    hjoined'.active hnone, hid, hid'⟩

/-! ### The node transmits -/

/-- The only node transmits a packet, and nothing else goes on. -/
structure Medium.Transmitting (m : Medium) (p : NodePtr) (n : DeviceNode) (pkt : NetSimPacket) :
    Prop where
  state : m.state = .tx802514Frame
  ccaList : m.ccaList = []
  txList : m.txList = [p]
  nodeHashMap : m.nodeHashMap n.socket = some p
  interest : p ∈ m.interest
  live : m.nodes p = .live n
  curState : n.curState = .tx
  txTimer : n.txTimer.started
  txPkt : n.txPkt = some pkt
  collision : pkt.collision = false

theorem Medium.Transmitting.tick {pkt : NetSimPacket} (h : m.Transmitting p n pkt) (ph : Phase) :
  (m.tick ph).Transmitting p n pkt
  := ⟨h.state, h.ccaList, h.txList, h.nodeHashMap, h.interest, h.live, h.curState, h.txTimer,
    h.txPkt, h.collision⟩

/-- A data indication of an empty frame. -/
def dataFrame (host : ByteOrder) (nodeId : UInt64) : List UInt8 :=
  sealMsg host .handleDataIndication nodeId (List.replicate 16 0)

theorem length_dataFrame (host : ByteOrder) (nodeId : UInt64) :
  (dataFrame host nodeId).length = 34
  := length_sealMsg

theorem dispatched_dataFrame (host : ByteOrder) (nodeId : UInt64) :
  Dispatched host nodeId .handleDataIndication (dataFrame host nodeId)
  := by
  apply dispatched_sealMsg
  · rw [List.length_replicate]
    decide
  · rw [List.length_replicate]
    cases host <;> decide

theorem psduFits_dataFrame (host : ByteOrder) (nodeId : UInt64) :
  PsduFits (blankCksum (dataFrame host nodeId))
  := by
  have hsize := (dispatched_dataFrame host nodeId).size
  have hvalue : DataInd.psduLen.value (dataFrame host nodeId) = 0 := by
    rw [Field.value, Field.bytes, dataFrame, drop_sealMsg (by decide)]
    decide
  rw [PsduFits, value_blankCksum hsize (by right; decide), hvalue, length_blankCksum hsize,
    length_dataFrame]
  decide

/-- A data indication is taken by a node that is ready to transmit. -/
theorem handleDataIndication_ready {socket : UInt64} {frame : List UInt8}
    (hreceived : Received host socket .handleDataIndication frame) (hlive : m.nodes p = .live n)
    (hready : n.Ready) :
  ∃ pkt, pkt.collision = false ∧ pkt.id = m.nextPkt ∧ pkt.pktBuffer = blankCksum frame ∧
    handleDataIndication host .calm p (blankCksum frame) m
      = .ok () ((Effect.transmit p n pkt (txTime (frame.length / 256 % 8 == 2))).apply m)
  := by
  obtain ⟨pkt, hnew, hbuffer, hack⟩ := hreceived.packet m.nextPkt p
  obtain ⟨hid, hclear⟩ := NetSimPacket.new_ok hnew
  refine ⟨pkt, hclear, hid, hbuffer, ?_⟩
  rw [handleDataIndication_eq hlive hnew hack, hready.curState]
  simp [hready.txTimer, Env.calm]

/-- A node that is active has begun to transmit a packet. -/
theorem Medium.Active.transmitting {pkt : NetSimPacket} (h : m.Active p n)
    (hclear : pkt.collision = false) (isAck : Bool) :
  Medium.Transmitting
    { (Effect.transmit p n pkt (txTime isAck)).apply m with state := .tx802514Frame } p
    { n with txTimer := ⟨true, txTime isAck⟩, txPkt := some pkt, curState := .tx } pkt
  where
  state := rfl
  ccaList := h.ccaList
  txList := by simp [Effect.apply, h.txList]
  nodeHashMap := h.nodeHashMap
  interest := h.interest
  live := Function.update_self ..
  curState := rfl
  txTimer := rfl
  txPkt := rfl
  collision := hclear

/-- The medium waits while the node transmits the packet of a data indication. -/
theorem running_transmitting (host : ByteOrder) (kind : Kind) (p : NodePtr) {socket : UInt64}
    {frame : List UInt8} (hframe : Dispatched host socket .handleDataIndication frame) :
  ∃ m n pkt, Running host kind ⟨.interval .tx, m⟩ ∧ m.Transmitting p n pkt ∧
    n.socket = socket ∧ pkt.pktBuffer = blankCksum frame
  := by
  obtain ⟨m₀, n, hrunning, hactive, hid⟩ := running_active host kind p socket
  have hreport : Running host kind ⟨.poll .idle [frameEvent p frame], m₀.tick .idle⟩ := by
    apply hrunning.report _ (by simp)
    apply reportable_node rfl hactive.interest
  have hactive' := hactive.tick .idle
  obtain ⟨pkt, hclear, -, hbuffer, hhandle⟩ :=
    handleDataIndication_ready hframe.received hactive'.live ⟨hactive'.curState, hactive'.txTimer⟩
  have htx := hactive'.transmitting hclear (frame.length / 256 % 8 == 2)
  have hevent := hreport.frame hframe hactive'.live hid hhandle
    (by simp [Effect.apply, hactive'.state])
  have hbusy := hevent.busy hactive'.ccaList (by simp [Effect.apply])
  exact ⟨_, _, pkt, hbusy, htx, hid, hbuffer⟩

/-- The transmission of a packet that can be relayed ends. -/
theorem processTxEntry_fits {env : Env} {i : Nat} {pkt : NetSimPacket} (hlive : m.nodes p = .live n)
    (hstarted : n.txTimer.started) (hexpired : env.Expired p) (hstate : n.curState = .tx)
    (hpkt : n.txPkt = some pkt) (hclear : pkt.collision = false) (hfits : PsduFits pkt.pktBuffer) :
  ∃ buf, processTxEntry host env i p m = .ok i ((Effect.conclude i p n pkt buf).apply m)
  := by
  have hfits' : PsduFits ({ pkt with txDoneResult := txDoneOk } : NetSimPacket).pktBuffer := hfits
  obtain ⟨pkt₁, pkt₂, bytes, hrssi, hcksum, hbytes⟩ :=
    (NetSimPacket.relay_iff host).mpr hfits'
  refine ⟨pkt₂.pktBuffer, ?_⟩
  apply processTxEntry_done hlive hstarted hexpired hstate hpkt hclear hrssi hcksum hbytes

/-- When the packet can be relayed, the medium has concluded its transmission. -/
theorem running_concluded (host : ByteOrder) (kind : Kind) (p : NodePtr) {socket : UInt64}
    {frame : List UInt8} (hframe : Dispatched host socket .handleDataIndication frame)
    (hfits : PsduFits (blankCksum frame)) :
  ∃ m n pkt buf, m.Transmitting p n pkt ∧
    Running host kind ⟨.processTxList 0, (Effect.conclude 0 p n pkt buf).apply m⟩
  := by
  obtain ⟨m₀, n, pkt, hrunning, htx, -, hbuffer⟩ := running_transmitting host kind p hframe
  have htx' := htx.tick .tx
  have hprocess : Running host kind ⟨.processTxList 0, m₀.tick .tx⟩ :=
    hrunning.quiet.process htx'.ccaList (by simp [htx'.txList])
  rw [← hbuffer] at hfits
  have hexpired : Env.timeUp.Expired p := rfl
  obtain ⟨buf, hdone⟩ := @processTxEntry_fits host _ _ _ _ 0 _ htx'.live htx'.txTimer hexpired
    htx'.curState htx'.txPkt htx'.collision hfits
  refine ⟨m₀.tick .tx, n, pkt, buf, htx', ?_⟩
  apply hprocess.run Env.timeUp trivial
  · simp [Effect.apply, htx'.state]
  · simp [runStep, htx'.txList, hdone]

/-- Two nodes transmit packets that they have begun in one round. -/
structure Medium.Both (m : Medium) (n n' : DeviceNode) (pkt pkt' : NetSimPacket) : Prop where
  state : m.state = .tx802514Frame
  ccaList : m.ccaList = []
  txList : m.txList = [0, 1]
  live : m.nodes 0 = .live n
  live' : m.nodes 1 = .live n'
  curState : n.curState = .tx
  txTimer : n.txTimer.started
  txPkt : n.txPkt = some pkt
  txPkt' : n'.txPkt = some pkt'

/-- Two nodes begin to transmit in one round, and the medium waits. -/
theorem running_both (host : ByteOrder) (kind : Kind) :
  ∃ m n n' pkt pkt', Running host kind ⟨.polled .tx, m⟩ ∧ m.Both n n' pkt pkt'
  := by
  obtain ⟨-, m, n, n', hrunning, -, -, hactive, hactive', hid, hid'⟩ := running_pair host kind
  have hreport : Running host kind
      ⟨.poll .idle [frameEvent 0 (dataFrame host 0), frameEvent 1 (dataFrame host 1)],
        m.tick .idle⟩ := by
    apply hrunning.report ⟨by simp [epollMaxEvents], by simp [frameEvent], ?_⟩ (by simp)
    intro ev hev
    right
    simp only [List.mem_cons, List.not_mem_nil, or_false] at hev
    rcases hev with rfl | rfl
    · exact ⟨0, hactive.interest, rfl⟩
    · exact ⟨1, hactive'.interest, rfl⟩
  have hfirst := hactive.tick .idle
  have hsecond := hactive'.tick .idle
  obtain ⟨pkt, -, -, -, hhandle⟩ := handleDataIndication_ready
    (dispatched_dataFrame host 0).received hfirst.live ⟨hfirst.curState, hfirst.txTimer⟩
  have hevent := hreport.frame (dispatched_dataFrame host 0) hfirst.live hid hhandle
    (by simp [Effect.apply, hfirst.state])
  obtain ⟨m₁, hm₁⟩ : ∃ m₁, (Effect.transmit 0 n pkt (txTime false)).apply (m.tick .idle) = m₁ :=
    ⟨_, rfl⟩
  have hack : (34 / 256 % 8 == 2) = false := rfl
  rw [length_dataFrame, hack, hm₁] at hevent
  have hstate : m₁.state = .idle := by
    rw [← hm₁]
    apply hfirst.state
  have hlive : m₁.nodes 1 = .live n' := by
    simp [← hm₁, Effect.apply, hsecond.live]
  obtain ⟨pkt', -, -, -, hhandle'⟩ := handleDataIndication_ready
    (dispatched_dataFrame host 1).received hlive ⟨hsecond.curState, hsecond.txTimer⟩
  have hevent' := hevent.frame (dispatched_dataFrame host 1) hlive hid' hhandle'
    (by simp [Effect.apply, hstate])
  obtain ⟨m₂, hm₂⟩ : ∃ m₂, (Effect.transmit 1 n' pkt' (txTime false)).apply m₁ = m₂ := ⟨_, rfl⟩
  rw [length_dataFrame, hack, hm₂] at hevent'
  have htxList : m₂.txList = [0, 1] := by
    rw [← hm₂, ← hm₁]
    simp [Effect.apply, hfirst.txList]
  have hcca : m₂.ccaList = [] := by
    rw [← hm₂, ← hm₁]
    apply hfirst.ccaList
  have hnode : m₂.nodes 0 = .live
      { n with txTimer := ⟨true, txTime false⟩, txPkt := some pkt, curState := .tx } := by
    simp [← hm₂, ← hm₁, Effect.apply]
  have hnode' : m₂.nodes 1 = .live
      { n' with txTimer := ⟨true, txTime false⟩, txPkt := some pkt', curState := .tx } := by
    simp [← hm₂, Effect.apply]
  have hquiet := (hevent'.busy hcca (by simp [htxList])).quiet
  refine ⟨_, _, _, pkt, pkt', hquiet, rfl, hcca, htxList, hnode, hnode', rfl, rfl, rfl, rfl⟩

/-- Two nodes stay on the transmit list when their packets are marked as collided. -/
theorem Medium.Both.collide {n n' : DeviceNode} {pkt pkt' : NetSimPacket}
    (h : m.Both n n' pkt pkt') :
  (Effect.collide.apply m).Both n.collide n'.collide { pkt with collision := true }
    { pkt' with collision := true }
  where
  state := h.state
  ccaList := h.ccaList
  txList := h.txList
  live := by simp [Effect.apply, h.txList, h.live, NodeCell.collide]
  live' := by simp [Effect.apply, h.txList, h.live', NodeCell.collide]
  curState := h.curState
  txTimer := h.txTimer
  txPkt := by simp [DeviceNode.collide, h.txPkt]
  txPkt' := by simp [DeviceNode.collide, h.txPkt']

/-- Their packets collide on a powerline, and the transmission of the first node is concluded when
its time is up. -/
theorem running_collided (host : ByteOrder) :
  ∃ m n n' pkt pkt', Running host .powerline
    ⟨.processTxList 0, (Effect.conclude 0 0 n pkt []).apply m⟩ ∧ m.Both n n' pkt pkt' ∧
    pkt.collision ∧ pkt'.collision
  := by
  obtain ⟨m, n, n', pkt, pkt', hrunning, hboth⟩ := running_both host .powerline
  have hhas : ∀ p ∈ m.txList, m.HasPacket p := by
    intro p hp
    rw [hboth.txList] at hp
    simp only [List.mem_cons, List.not_mem_nil, or_false] at hp
    rcases hp with rfl | rfl
    · exact ⟨n, pkt, hboth.live, hboth.txPkt⟩
    · exact ⟨n', pkt', hboth.live', hboth.txPkt'⟩
  have hcollide := hrunning.walk
    ((Walk.refl hrunning.2 _).collide hboth.ccaList (by simp [hboth.txList]) hhas)
  have hmarked := hboth.collide
  have hfirst : (Effect.collide.apply m).txList[0]? = some 0 := by
    simp [hmarked.txList]
  have hexpired : Env.timeUp.Expired 0 := rfl
  have hdone := @processTxEntry_collided _ _ _ host _ 0 _ hmarked.live hmarked.txTimer hexpired
    hmarked.curState hmarked.txPkt rfl []
  refine ⟨_, _, _, _, _, hcollide.run .timeUp trivial ?_ ?_, hmarked, rfl, rfl⟩
  · simp [Effect.apply, hboth.state]
  · simp [runStep, hfirst, hdone]

end X6losim
