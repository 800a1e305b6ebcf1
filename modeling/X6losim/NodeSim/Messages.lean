import X6losim.Invariant.Bounds
import X6losim.Sim.Reading
import X6losim.Sim.Sending

/-!
# The messages of the test node

`NodeSim` is the node of the test programs.  Its functions `send*` build the four messages that a
node sends.  `readMsg` takes each of them for what it is, with the arguments of the call in its
fields; but a data indication only if its length fits in the length word, and if the assertion on
the length word lets it through.
-/

open Bytes

namespace X6losim

namespace NodeSim

/-- The text of a field of `size` bytes that are zero before `strcpy`. -/
def strcpy (size : Nat) (text : String) : List UInt8 :=
  let bytes := text.toList.map (fun c => UInt8.ofNat c.toNat)
  bytes ++ List.replicate (size - bytes.length) 0

/-- A message as the functions `send*` build it, from its type and what comes after the header. -/
def message (host : ByteOrder) (msgType : MsgType) (nodeId : UInt64) (body : List UInt8) :
    List UInt8 :=
  let fields := Hdr.len.net host (Hdr.size + body.length) ++ Hdr.msgType.net host msgType.code ++
    Hdr.interfaceVersion.net host netsimInterfaceVersion ++ Hdr.nodeId.net host nodeId.toNat
  let cksum := generateChecksum host (fields ++ List.replicate Hdr.cksum.size 0 ++ body)
  fields ++ Hdr.cksum.net host cksum ++ body

/-- `NodeSim::sendRegCon`. -/
def sendRegCon (host : ByteOrder) (nodeId : UInt64) : List UInt8 :=
  message host .regCon nodeId
    (strcpy RegCon.os.size "linux" ++ strcpy RegCon.osVersion.size "4.1.0 rc4")

/-- `NodeSim::sendDeregReq`. -/
def sendDeregReq (host : ByteOrder) (nodeId : UInt64) : List UInt8 :=
  message host .deregReq nodeId []

/-- `NodeSim::sendCcaReq`. -/
def sendCcaReq (host : ByteOrder) (nodeId : UInt64) : List UInt8 := message host .ccaReq nodeId []

/-- The arguments of `NodeSim::sendTxDataInd`. -/
structure TxDataInd where
  sourceAddr : UInt64
  psduLen : UInt16
  repCode : UInt8
  txPower : Int8
  ccaMode : UInt8
deriving DecidableEq, Repr

/-- The frame of a data indication: its bytes are numbered. -/
def TxDataInd.psdu (ind : TxDataInd) : List UInt8 :=
  (List.range ind.psduLen.toNat).map UInt8.ofNat

/-- What comes after the header of a data indication.  `extra_hdr` is not assigned: it is what the
memory returned by `malloc` holds. -/
def TxDataInd.body (host : ByteOrder) (memory : Nat → UInt8) (ind : TxDataInd) : List UInt8 :=
  DataInd.sourceAddr.net host ind.sourceAddr.toNat ++
    DataInd.psduLen.net host ind.psduLen.toNat ++
    [memory DataInd.extraHdr.offset, memory (DataInd.extraHdr.offset + 1), ind.repCode,
      (-ind.txPower).toUInt8, ind.ccaMode, 0] ++ ind.psdu

/-- `NodeSim::sendTxDataInd`. -/
def sendTxDataInd (host : ByteOrder) (memory : Nat → UInt8) (nodeId : UInt64) (ind : TxDataInd) :
    List UInt8 :=
  message host .txDataInd nodeId (ind.body host memory)

/-- The calls that send a message. -/
inductive SendCall where
  | sendRegCon
  | sendDeregReq
  | sendCcaReq
  | sendTxDataInd (ind : TxDataInd)
deriving DecidableEq, Repr

namespace SendCall

/-- The message a call sends. -/
def message (host : ByteOrder) (memory : Nat → UInt8) (nodeId : UInt64) : SendCall → List UInt8
  | .sendRegCon => NodeSim.sendRegCon host nodeId
  | .sendDeregReq => NodeSim.sendDeregReq host nodeId
  | .sendCcaReq => NodeSim.sendCcaReq host nodeId
  | .sendTxDataInd ind => NodeSim.sendTxDataInd host memory nodeId ind

/-- The handler that the message of a call is meant for. -/
def handler : SendCall → Handler
  | .sendRegCon => .handleRegistrationConfirm
  | .sendDeregReq => .handleDeregistrationRequest
  | .sendCcaReq => .handleCcaRequest
  | .sendTxDataInd _ => .handleDataIndication

/-- What comes after the header of the message of a call. -/
def body (host : ByteOrder) (memory : Nat → UInt8) : SendCall → List UInt8
  | .sendRegCon => strcpy RegCon.os.size "linux" ++ strcpy RegCon.osVersion.size "4.1.0 rc4"
  | .sendDeregReq => []
  | .sendCcaReq => []
  | .sendTxDataInd ind => ind.body host memory

/-- The length of the message of a call. -/
def length : SendCall → Nat
  | .sendRegCon => 82
  | .sendDeregReq => Hdr.size
  | .sendCcaReq => Hdr.size
  | .sendTxDataInd ind => DataInd.pktData + ind.psduLen.toNat

end SendCall

variable {host : ByteOrder} {memory : Nat → UInt8} {nodeId : UInt64} {call : SendCall}
  {ind : TxDataInd}

/-- A message is one with its header filled in, on either host. -/
theorem message_eq_sealMsg (handler : Handler) (body : List UInt8) :
  message host handler.msgType nodeId body = sealMsg host handler nodeId body
  := by
  have hnet : ∀ (f : Field) (n : Nat), f.net host n = toBE f.size n := by
    intro f n
    apply ByteOrder.store_hton
  have hblank : List.replicate Hdr.cksum.size 0 = toBE Hdr.cksum.size 0 := by decide
  simp only [message, sealMsg, hdrFields, hnet, hblank]

/-- The message of a call is one for its handler with the header filled in. -/
theorem SendCall.message_eq :
  call.message host memory nodeId = sealMsg host call.handler nodeId (call.body host memory)
  := by
  cases call with
  | sendRegCon => exact message_eq_sealMsg .handleRegistrationConfirm _
  | sendDeregReq => exact message_eq_sealMsg .handleDeregistrationRequest _
  | sendCcaReq => exact message_eq_sealMsg .handleCcaRequest _
  | sendTxDataInd ind => exact message_eq_sealMsg .handleDataIndication _

theorem TxDataInd.length_psdu :
  ind.psdu.length = ind.psduLen.toNat
  := by
  rw [psdu, List.length_map, List.length_range]

theorem TxDataInd.length_body :
  (ind.body host memory).length = 16 + ind.psduLen.toNat
  := by
  simp only [body, List.length_append, Field.length_net, length_psdu, DataInd.sourceAddr,
    DataInd.psduLen, List.length_cons, List.length_nil]

theorem SendCall.length_eq (host : ByteOrder) (memory : Nat → UInt8) :
  call.length = Hdr.size + (call.body host memory).length
  := by
  cases call with
  | sendTxDataInd ind =>
      rw [body, TxDataInd.length_body, length, DataInd.pktData, Hdr.size]
      omega
  | _ => rfl

theorem SendCall.length_message :
  (call.message host memory nodeId).length = call.length
  := by
  rw [message_eq, length_sealMsg, length_eq host memory]

/-! ### What is read -/

/-- `readMsg` takes a message that is there whole for what it is: the handler is called with it, and
what comes after it is left to be read. -/
def Understood (host : ByteOrder) (nodeId : UInt64) (handler : Handler) (msg : List UInt8) : Prop :=
  ∀ (d : Delivery) (rest : List UInt8), d.Whole msg.length →
    readMsgFrame host nodeId d (msg ++ rest) = .ok (.call handler (blankCksum msg)) rest

/-- The length of the message of a call fits in the length word, and passes the assertion on it,
which on a little-endian host compares the two bytes the wrong way round. -/
def SendCall.Passes (host : ByteOrder) (call : SendCall) : Prop :=
  call.length < 2 ^ 16 ∧ (host = .little → ¬ (call.length % 256 = 0 ∧ call.length < 2048))

instance (host : ByteOrder) (call : SendCall) : Decidable (call.Passes host) :=
  inferInstanceAs (Decidable (_ ∧ _))

/-- What the handlers find in the message of a call. -/
def SendCall.Carried (host : ByteOrder) (memory : Nat → UInt8) (msg : List UInt8) :
    SendCall → Prop
  | .sendRegCon =>
      strncpy msg RegCon.os = .ok (strcpy RegCon.os.size "linux") ∧
        strncpy msg RegCon.osVersion = .ok (strcpy RegCon.osVersion.size "4.1.0 rc4")
  | .sendDeregReq => msg.length = Hdr.size
  | .sendCcaReq => msg.length = Hdr.size
  | .sendTxDataInd ind =>
      (DataInd.sourceAddr.value msg = ind.sourceAddr.toNat ∧
        DataInd.psduLen.value msg = ind.psduLen.toNat ∧
        DataInd.extraHdr.bytes msg
          = [memory DataInd.extraHdr.offset, memory (DataInd.extraHdr.offset + 1)] ∧
        DataInd.repCode.bytes msg = [ind.repCode] ∧
        DataInd.txPower.bytes msg = [(-ind.txPower).toUInt8] ∧
        DataInd.ccaMode.bytes msg = [ind.ccaMode] ∧ DataInd.rssi.bytes msg = [0]) ∧
      ∀ k p, ∃ pkt, NetSimPacket.new host k msg p = .ok pkt ∧ pkt.pktBuffer = msg ∧
        pkt.pktbuf host = .ok ind.psdu

/-- The assertion on the length lets the length of a message with a header through, unless the host
is little-endian and the low byte of the length is zero and the high one small. -/
theorem sizeofPointer_le_iff {len : Nat} (hsize : Hdr.size ≤ len) (hmax : len < 2 ^ 16) :
  sizeofPointer ≤ host.load (toBE 2 len) ↔ (host = .little → ¬ (len % 256 = 0 ∧ len < 2048))
  := by
  cases host with
  | little =>
      rw [← load_little_word hmax, not_lt]
      simp
  | big =>
      have hload : ByteOrder.big.load (toBE 2 len) = len := by
        rw [ByteOrder.load, ofBE_toBE]
        apply Nat.mod_eq_of_lt hmax
      have hle : sizeofPointer ≤ len := le_trans (by decide) hsize
      simp [hload, hle]

/-- The message of a call that passes is dispatched. -/
theorem SendCall.Passes.dispatched (h : call.Passes host) :
  Dispatched host nodeId call.handler (call.message host memory nodeId)
  := by
  have hsize : Hdr.size ≤ call.length := by
    rw [length_eq host memory]
    apply Nat.le_add_right
  have hpass := (sizeofPointer_le_iff hsize h.1).mpr h.2
  have hmax := h.1
  rw [length_eq host memory] at hmax hpass
  rw [message_eq]
  apply dispatched_sealMsg hmax hpass

/-- A message that is taken for what it is has a length that fits, and that passes. -/
theorem Understood.length {handler : Handler} {msg : List UInt8} (hsize : Hdr.size ≤ msg.length)
    (hword : msg.take 2 = toBE 2 msg.length) (h : Understood host nodeId handler msg) :
  msg.length < 2 ^ 16 ∧ sizeofPointer ≤ host.load (toBE 2 msg.length)
  := by
  have hwhole : Delivery.Whole ⟨some 2, some msg.length, fun _ => 0⟩ msg.length :=
    ⟨⟨2, rfl, le_refl 2⟩, msg.length, rfl, Nat.sub_le _ _⟩
  have hcall := h _ [] hwhole
  obtain ⟨frame, hreceived, hblank⟩ := readMsgFrame_call hcall
  have hmax : msg.length < 2 ^ 16 := by
    have hlength := congrArg List.length hblank
    rw [length_blankCksum hsize, length_blankCksum hreceived.size] at hlength
    rw [hlength]
    apply hreceived.length_lt
  refine ⟨hmax, ?_⟩
  rw [readMsgFrame_whole hsize hmax hword hwhole] at hcall
  by_contra hshort
  rw [if_pos (lt_of_not_ge hshort)] at hcall
  cases hcall

/-- A field behind the header of the message of a call is one of what comes after the header. -/
theorem SendCall.bytes_message {f : Field} (hf : Hdr.size ≤ f.offset) :
  f.bytes (blankCksum (call.message host memory nodeId))
    = ((call.body host memory).drop (f.offset - Hdr.size)).take f.size
  := by
  have hsize : Hdr.size ≤ (call.message host memory nodeId).length := by
    rw [message_eq, length_sealMsg]
    apply Nat.le_add_right
  rw [Field.bytes, drop_blankCksum hsize hf, message_eq, drop_sealMsg hf]

/-- The fields of a data indication. -/
theorem TxDataInd.body_eq :
  ind.body host memory = toBE 8 ind.sourceAddr.toNat ++ toBE 2 ind.psduLen.toNat ++
    [memory DataInd.extraHdr.offset, memory (DataInd.extraHdr.offset + 1), ind.repCode,
      (-ind.txPower).toUInt8, ind.ccaMode, 0] ++ ind.psdu
  := by
  have hnet : ∀ (f : Field) (n : Nat), f.net host n = toBE f.size n := by
    intro f n
    apply ByteOrder.store_hton
  simp only [body, hnet, DataInd.sourceAddr, DataInd.psduLen]

/-- The fields of a data indication, as its handler finds them. -/
theorem TxDataInd.fields {msg : List UInt8}
    (hmsg : blankCksum ((SendCall.sendTxDataInd ind).message host memory nodeId) = msg) :
  DataInd.sourceAddr.value msg = ind.sourceAddr.toNat ∧
    DataInd.psduLen.value msg = ind.psduLen.toNat ∧
    DataInd.extraHdr.bytes msg
      = [memory DataInd.extraHdr.offset, memory (DataInd.extraHdr.offset + 1)] ∧
    DataInd.repCode.bytes msg = [ind.repCode] ∧
    DataInd.txPower.bytes msg = [(-ind.txPower).toUInt8] ∧
    DataInd.ccaMode.bytes msg = [ind.ccaMode] ∧ DataInd.rssi.bytes msg = [0]
  := by
  have hbytes : ∀ f : Field, Hdr.size ≤ f.offset →
      f.bytes msg = ((ind.body host memory).drop (f.offset - Hdr.size)).take f.size := by
    intro f hf
    rw [← hmsg, SendCall.bytes_message hf, SendCall.body]
  have hsource : DataInd.sourceAddr.bytes msg = toBE 8 ind.sourceAddr.toNat := by
    rw [hbytes _ (by decide), body_eq]
    simp [DataInd.sourceAddr, Hdr.size]
  have hpsdu : DataInd.psduLen.bytes msg = toBE 2 ind.psduLen.toNat := by
    rw [hbytes _ (by decide), body_eq]
    simp [DataInd.psduLen, Hdr.size]
  have hlast : ∀ f : Field, DataInd.extraHdr.offset ≤ f.offset →
      f.bytes msg = (([memory DataInd.extraHdr.offset, memory (DataInd.extraHdr.offset + 1),
        ind.repCode, (-ind.txPower).toUInt8, ind.ccaMode, 0] ++ ind.psdu).drop
          (f.offset - DataInd.extraHdr.offset)).take f.size := by
    intro f hf
    have hoffset : Hdr.size ≤ f.offset := le_trans (by decide) hf
    rw [hbytes _ hoffset, body_eq, List.append_assoc, List.drop_append, List.drop_eq_nil_of_le,
      List.nil_append]
    · congr 2
    · simp [DataInd.extraHdr, Hdr.size] at hf ⊢
      omega
  refine ⟨?_, ?_, ?_, ?_, ?_, ?_, ?_⟩
  · rw [Field.value, hsource, ofBE_toBE]
    apply Nat.mod_eq_of_lt ind.sourceAddr.toNat_lt
  · rw [Field.value, hpsdu, ofBE_toBE]
    apply Nat.mod_eq_of_lt ind.psduLen.toNat_lt
  all_goals
    rw [hlast _ (by decide)]
    rfl

/-- The names in a registration confirm, as its handler finds them. -/
theorem sendRegCon_names {msg : List UInt8}
    (hmsg : blankCksum (SendCall.sendRegCon.message host memory nodeId) = msg) :
  strncpy msg RegCon.os = .ok (strcpy RegCon.os.size "linux") ∧
    strncpy msg RegCon.osVersion = .ok (strcpy RegCon.osVersion.size "4.1.0 rc4")
  := by
  have hbytes : ∀ f : Field, Hdr.size ≤ f.offset →
      f.bytes msg = (((SendCall.sendRegCon).body host memory).drop (f.offset - Hdr.size)).take
        f.size := by
    intro f hf
    rw [← hmsg, SendCall.bytes_message hf]
  have hos : RegCon.os.bytes msg = strcpy RegCon.os.size "linux" := by
    rw [hbytes _ (by decide)]
    rfl
  have hversion : RegCon.osVersion.bytes msg = strcpy RegCon.osVersion.size "4.1.0 rc4" := by
    rw [hbytes _ (by decide)]
    rfl
  rw [strncpy, strncpy, hos, hversion]
  exact ⟨rfl, rfl⟩

/-- A data indication is copied whole into a packet, and the frame in it is what is relayed. -/
theorem TxDataInd.packet {msg : List UInt8} (hpasses : (SendCall.sendTxDataInd ind).Passes host)
    (hmsg : blankCksum ((SendCall.sendTxDataInd ind).message host memory nodeId) = msg) (k : PktId)
    (p : NodePtr) :
  ∃ pkt, NetSimPacket.new host k msg p = .ok pkt ∧ pkt.pktBuffer = msg ∧
    pkt.pktbuf host = .ok ind.psdu
  := by
  have hdispatched : Dispatched host nodeId .handleDataIndication
      ((SendCall.sendTxDataInd ind).message host memory nodeId) := hpasses.dispatched
  have hsize := hdispatched.size
  have hdrop : msg.drop DataInd.pktData = ind.psdu := by
    rw [← hmsg, drop_blankCksum hsize (by decide), SendCall.message_eq, drop_sealMsg (by decide),
      SendCall.body, TxDataInd.body_eq, List.drop_left' (by simp [DataInd.pktData, Hdr.size])]
  have hlength : DataInd.pktData + ind.psduLen.toNat = msg.length := by
    rw [← hmsg, length_blankCksum hsize, SendCall.length_message]
    rfl
  have hlen : Hdr.len.value msg = msg.length := by
    rw [← hmsg]
    apply hdispatched.received.len_value
  have hsize' : Hdr.size ≤ msg.length := by
    rw [← hmsg, length_blankCksum hsize]
    apply hsize
  obtain ⟨pkt, hnew, hbuffer⟩ := NetSimPacket.new_whole host hsize' hlen k p
  refine ⟨pkt, hnew, hbuffer, ?_⟩
  have hpsdu : pkt.pktbufSize host = .ok ind.psduLen.toNat := by
    have hle : DataInd.psduLen.offset + DataInd.psduLen.size ≤ msg.length := by
      rw [← hlength]
      apply le_trans _ (Nat.le_add_right ..)
      decide
    rw [NetSimPacket.pktbufSize, hbuffer, Field.readNet_ok host hle, (ind.fields hmsg).2.1]
  have hread : Bytes.read Stop.outOfBounds msg DataInd.pktData ind.psduLen.toNat
      = .ok ind.psdu := by
    rw [read_ok _ (le_of_eq hlength), hdrop, ← ind.length_psdu, List.take_length]
  rw [NetSimPacket.pktbuf, hpsdu]
  simp only [bind, Except.bind, hbuffer, hread]

/-- The handler of the message of a call finds in it what the call has been made with. -/
theorem SendCall.Passes.carried (h : call.Passes host) :
  call.Carried host memory (blankCksum (call.message host memory nodeId))
  := by
  have hdispatched : Dispatched host nodeId call.handler (call.message host memory nodeId) :=
    h.dispatched
  have hlength : (blankCksum (call.message host memory nodeId)).length = call.length := by
    rw [length_blankCksum hdispatched.size, length_message]
  cases call with
  | sendRegCon => apply sendRegCon_names rfl
  | sendDeregReq => apply hlength
  | sendCcaReq => apply hlength
  | sendTxDataInd ind => exact ⟨ind.fields rfl, ind.packet h rfl⟩

/-- `readMsg` takes the message of a call for what it is exactly when its length passes, and then
the handler finds in it what the call has been made with. -/
theorem calls_understood (host : ByteOrder) (memory : Nat → UInt8) (nodeId : UInt64)
    (call : SendCall) :
  (Understood host nodeId call.handler (call.message host memory nodeId) ↔ call.Passes host) ∧
    (call.Passes host → call.Carried host memory (blankCksum (call.message host memory nodeId)))
  := by
  refine ⟨⟨?_, ?_⟩, SendCall.Passes.carried⟩
  · intro hunderstood
    have hsize : Hdr.size ≤ (call.message host memory nodeId).length := by
      rw [SendCall.message_eq, length_sealMsg]
      apply Nat.le_add_right
    have hword : (call.message host memory nodeId).take 2
        = toBE 2 (call.message host memory nodeId).length := by
      rw [SendCall.message_eq, take_sealMsg]
    obtain ⟨hmax, hpass⟩ := hunderstood.length hsize hword
    rw [sizeofPointer_le_iff hsize hmax] at hpass
    rw [SendCall.length_message] at hmax hpass
    exact ⟨hmax, hpass⟩
  · intro hpasses
    exact hpasses.dispatched.whole

end NodeSim

end X6losim
