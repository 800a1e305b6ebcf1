import X6losim.Sim.Session

/-!
# Acknowledgements

An acknowledgement is to be sent at once, and every other frame takes its time on the wire.  The
transmit timer is armed by `isAck`, which looks at the first byte of the message rather than that of
the frame it carries.
-/

open Bytes

namespace X6losim

variable {host : ByteOrder} {kind : Kind} {m m' : Medium} {p : NodePtr} {n : DeviceNode}
  {nodeId : UInt64} {frame : List UInt8}

/-- The 802.15.4 frame that a data indication carries is an acknowledgement. -/
def AckFrame (frame : List UInt8) : Prop :=
  ∃ b, frame[DataInd.pktData]? = some b ∧ b &&& 0x07 = 0x02

/-- What a timer is armed with that is to expire at once. -/
def atOnce : Timespec := ⟨0, 1⟩

/-- What a timer is armed with that is to expire after the time on the wire. -/
def onWire : Timespec :=
  ⟨NetSimPacket.getTimeOnWire / 1000, NetSimPacket.getTimeOnWire % 1000 * 1000000⟩

/-- The transmit timer of a node is armed as a frame asks for. -/
def ArmedFor (m : Medium) (p : NodePtr) (frame : List UInt8) : Prop :=
  ∃ n, m.nodes p = .live n ∧ n.txTimer.started ∧
    (n.txTimer.itValue = atOnce ↔ AckFrame frame) ∧
    (¬ AckFrame frame → n.txTimer.itValue = onWire)

/-- A data indication that is taken by an active node arms its transmit timer by the length of the
message. -/
theorem armed_by_length {env : Env} (hreceived : Received host nodeId .handleDataIndication frame)
    (hlive : m.nodes p = .live n) (hstate : n.curState = .active)
    (hok : handleDataIndication host env p (blankCksum frame) m = .ok () m') :
  ∃ n', m'.nodes p = .live n' ∧
    n'.txTimer = ⟨true, txTime (frame.length / 256 % 8 == 2)⟩
  := by
  obtain ⟨pkt, hnew, -, hack⟩ := hreceived.packet m.nextPkt p
  rw [handleDataIndication_eq hlive hnew hack, hstate] at hok
  simp only at hok
  split at hok
  · cases hok
  split at hok
  · cases hok
  split at hok
  · cases hok
  cases hok
  exact ⟨_, Function.update_self .., rfl⟩

/-- The transmit timer is armed as the frame asks for exactly when the low bits of the high byte of
the length of the message are those of an acknowledgement just for acknowledgements. -/
theorem armedFor_iff {env : Env} (hreceived : Received host nodeId .handleDataIndication frame)
    (hlive : m.nodes p = .live n) (hstate : n.curState = .active)
    (hok : handleDataIndication host env p (blankCksum frame) m = .ok () m') :
  ArmedFor m' p frame ↔ (frame.length / 256 % 8 = 2 ↔ AckFrame frame)
  := by
  obtain ⟨n', hlive', htimer⟩ := armed_by_length hreceived hlive hstate hok
  have hat : n'.txTimer.itValue = atOnce ↔ frame.length / 256 % 8 = 2 := by
    rw [htimer]
    by_cases hlength : frame.length / 256 % 8 = 2
    · simp [hlength, txTime, atOnce]
    · simp [hlength, txTime, atOnce]
  constructor
  · rintro ⟨n₁, hlive₁, -, hack, -⟩
    obtain rfl := NodeCell.live.inj (hlive'.symm.trans hlive₁)
    rw [← hat, hack]
  · intro hlength
    refine ⟨n', hlive', by rw [htimer], hat.trans hlength, ?_⟩
    intro hnot
    have hother : ¬ frame.length / 256 % 8 = 2 := fun h => hnot (hlength.mp h)
    rw [htimer]
    simp [hother, txTime, onWire, NetSimPacket.getTimeOnWire]

/-! ### An acknowledgement -/

/-- A data indication of a frame of one byte, which is an acknowledgement. -/
def ackDataFrame (host : ByteOrder) (nodeId : UInt64) : List UInt8 :=
  sealMsg host .handleDataIndication nodeId
    [0, 0, 0, 0, 0, 0, 0, 0, 0, 1, 0, 0, 0, 0, 0, 0, 2]

theorem received_ackDataFrame (host : ByteOrder) (nodeId : UInt64) :
  Received host nodeId .handleDataIndication (ackDataFrame host nodeId)
  := by
  apply Dispatched.received
  apply dispatched_sealMsg
  · decide
  · cases host <;> decide

theorem ackFrame_ackDataFrame (host : ByteOrder) (nodeId : UInt64) :
  AckFrame (ackDataFrame host nodeId)
  := by
  refine ⟨2, ?_, rfl⟩
  have hdrop : (ackDataFrame host nodeId).drop 34 = [2] := drop_sealMsg (by decide)
  have hhead := congrArg List.head? hdrop
  rw [List.head?_drop] at hhead
  apply hhead

/-- An active node sends an acknowledgement. -/
theorem running_ack (host : ByteOrder) (kind : Kind) :
  ∃ m n m', Running host kind ⟨.interval .idle, m⟩ ∧ m.nodes 1 = .live n ∧ n.curState = .active ∧
    handleDataIndication host .calm 1 (blankCksum (ackDataFrame host n.socket)) m = .ok () m'
  := by
  obtain ⟨m, n, hrunning, hactive, -⟩ := running_active host kind 1 1
  obtain ⟨pkt, -, -, -, hhandle⟩ := handleDataIndication_ready
    (received_ackDataFrame host n.socket) hactive.live ⟨hactive.curState, hactive.txTimer⟩
  exact ⟨m, n, _, hrunning, hactive.live, hactive.curState, hhandle⟩

theorem armedFor_ack :
  ∃ m m' n, m.nodes 1 = .live n ∧ n.curState = .active ∧
    handleDataIndication .little .calm 1 (blankCksum (ackDataFrame .little n.socket)) m
      = .ok () m' ∧
    (ArmedFor m' 1 (ackDataFrame .little n.socket) ↔
      ((ackDataFrame .little n.socket).length / 256 % 8 = 2 ↔
        AckFrame (ackDataFrame .little n.socket)))
  := by
  obtain ⟨m, n, m', -, hlive, hstate, hok⟩ := running_ack .little .powerline
  exact ⟨m, m', n, hlive, hstate, hok,
    armedFor_iff (received_ackDataFrame .little n.socket) hlive hstate hok⟩

/-- The timer of an acknowledgement is armed with the time on the wire. -/
theorem ack_takes_time :
  ∃ m n m' n', Running .little .powerline ⟨.interval .idle, m⟩ ∧ m.nodes 1 = .live n ∧
    n.curState = .active ∧ (ackDataFrame .little n.socket).length = 35 ∧
    DataInd.psduLen.value (ackDataFrame .little n.socket) = 1 ∧
    AckFrame (ackDataFrame .little n.socket) ∧
    Received .little n.socket .handleDataIndication (ackDataFrame .little n.socket) ∧
    handleDataIndication .little .calm 1 (blankCksum (ackDataFrame .little n.socket)) m
      = .ok () m' ∧
    m'.nodes 1 = .live n' ∧ n'.txTimer = ⟨true, onWire⟩ ∧
    ¬ ArmedFor m' 1 (ackDataFrame .little n.socket)
  := by
  obtain ⟨m, n, m', hrunning, hlive, hstate, hok⟩ := running_ack .little .powerline
  have hreceived := received_ackDataFrame .little n.socket
  obtain ⟨n', hlive', htimer⟩ := armed_by_length hreceived hlive hstate hok
  have htimer' : n'.txTimer = ⟨true, onWire⟩ := by
    rw [htimer, ackDataFrame, length_sealMsg]
    rfl
  refine ⟨m, n, m', n', hrunning, hlive, hstate, length_sealMsg, ?_,
    ackFrame_ackDataFrame .little n.socket, hreceived, hok, hlive', htimer', ?_⟩
  · rw [Field.value, Field.bytes, ackDataFrame, drop_sealMsg (by decide)]
    decide
  · rintro ⟨n₁, hlive₁, -, hack, -⟩
    obtain rfl := NodeCell.live.inj (hlive'.symm.trans hlive₁)
    have hat := hack.mpr (ackFrame_ackDataFrame .little n.socket)
    rw [htimer'] at hat
    revert hat
    decide

end X6losim
