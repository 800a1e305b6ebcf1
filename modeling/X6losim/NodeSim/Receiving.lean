import X6losim.NodeSim.Messages

/-!
# What the test node receives

`NodeSim::readMsg` receives a message of the simulator and makes sure of its checksum, and
`NodeSim::mcastRxDataPacket` receives a frame that has been multicast.  The test node takes every
message that the simulator sends for what it is.  It prints the frame of a data indication byte by
byte, if the datagram is not longer than its buffer.
-/

open Bytes

namespace X6losim

/-- A field of a message as the host loads it from network order, in a buffer that has it. -/
def Field.ntoh (f : Field) (host : ByteOrder) (msg : List UInt8) : Nat :=
  host.ntoh f.size (host.load (f.bytes msg))

theorem Field.ntoh_eq {f : Field} {host : ByteOrder} {msg : List UInt8}
    (h : f.offset + f.size ≤ msg.length) :
  f.ntoh host msg = f.value msg
  := by
  have hload := ByteOrder.ntoh_load host (f.bytes msg)
  rw [length_bytes h] at hload
  apply hload

/-- The test node: what `NodeSim_pimpl` keeps, but for its sockets. -/
structure NodeSim where
  nodeId : UInt64
  replyBuffer : List UInt8
  length_replyBuffer : replyBuffer.length = 256
deriving DecidableEq

namespace NodeSim

/-- How a test program stops: by an exception, an assertion, or by leaving a buffer. -/
inductive Failure where
  | recvFailed
  | cksum
  | invalidMsgType
  | outOfBounds
deriving DecidableEq, Repr

/-- What a test node takes a message for.  The results are those it prints. -/
inductive Reply where
  | regReq
  | deregReq
  | deregCon
  | ccaCon (result : UInt8)
  | txDataInd
  | txDoneInd (result : UInt8)
deriving DecidableEq, Repr

end NodeSim

/-- What a message of the simulator is to be taken for. -/
def OutMsg.reply : OutMsg → NodeSim.Reply
  | .regReq => .regReq
  | .deregCon => .deregCon
  | .ccaCon result => .ccaCon (if result then 1 else 0)
  | .txDoneInd result => .txDoneInd (UInt8.ofInt result)

namespace NodeSim

/-- The place of `result` in the two messages that have one. -/
def resultOffset : Nat := Hdr.size

/-- A test node with bytes at the beginning of its reply buffer. -/
def receive (node : NodeSim) (bytes : List UInt8) : NodeSim where
  nodeId := node.nodeId
  replyBuffer := bytes.take 128 ++ node.replyBuffer.drop (bytes.take 128).length
  length_replyBuffer := by
    have hlength := node.length_replyBuffer
    simp only [List.length_append, List.length_take, List.length_drop]
    omega

/-- A test node with the checksum in its reply buffer blank. -/
def blank (node : NodeSim) : NodeSim where
  nodeId := node.nodeId
  replyBuffer := blankCksum node.replyBuffer
  length_replyBuffer := by
    have hlength := node.length_replyBuffer
    rw [length_blankCksum, hlength]
    rw [hlength]
    decide

/-- The switch on the type of a message. -/
def take (host : ByteOrder) (node : NodeSim) : Except Failure (NodeSim × Reply) :=
  let msgType := Hdr.msgType.ntoh host node.replyBuffer
  let result := node.replyBuffer.getD resultOffset 0
  if msgType = MsgType.regReq.code then
    .ok ({ node with nodeId := UInt64.ofNat (Hdr.nodeId.ntoh host node.replyBuffer) }, .regReq)
  else if msgType = MsgType.deregReq.code then .ok (node, .deregReq)
  else if msgType = MsgType.deregCon.code then .ok (node, .deregCon)
  else if msgType = MsgType.ccaCon.code then .ok (node, .ccaCon result)
  else if msgType = MsgType.txDataInd.code then .ok (node, .txDataInd)
  else if msgType = MsgType.txDoneInd.code then .ok (node, .txDoneInd result)
  else .error .invalidMsgType

/-- `NodeSim::readMsg`, with the bytes that are there for `recv`, or none when it fails. -/
def readMsg (host : ByteOrder) (there : Option (List UInt8)) (node : NodeSim) :
    Except Failure (NodeSim × Reply) := do
  match there with
  | none => throw .recvFailed
  | some bytes =>
      let node := node.receive bytes
      let n := (bytes.take 128).length
      let cksum := Hdr.cksum.ntoh host node.replyBuffer
      let node := node.blank
      if generateChecksum host (node.replyBuffer.take n) ≠ cksum then
        throw .cksum
      node.take host

/-- What `recv` on the multicast socket comes to: it fails, because there is no datagram or for
another reason, or there is a datagram. -/
inductive McastRecv where
  | failed (again : Bool)
  | received (datagram : List UInt8)

/-- The buffer of `mcastRxDataPacket` with what there is room for of a datagram. -/
def rxbuf (memory : Nat → UInt8) (datagram : List UInt8) : List UInt8 :=
  datagram.take 256 ++ (malloc memory 256).drop (datagram.take 256).length

/-- What `printf("0x%02x\n", c)` prints for a byte as a `char`.  The `char` is signed, so that a
byte from 0x80 on is promoted to a negative `int`, which has eight digits. -/
def charLine (b : UInt8) : String :=
  let digits := Nat.toDigits 16 b.toInt8.toInt32.toUInt32.toNat
  String.ofList ("0x".toList ++ List.replicate (2 - digits.length) '0' ++ digits ++ ['\n'])

/-- The lines that are printed for a frame, the one with its length first. -/
def psduLines (psdu : List UInt8) : List String :=
  ("mcastRxDataPacket length=" ++ toString psdu.length ++ "\n") :: psdu.map charLine

/-- The frame in the buffer of `mcastRxDataPacket` is printed. -/
def printPsdu (host : ByteOrder) (rxbuf : List UInt8) : Except Failure (List String) :=
  (Bytes.read .outOfBounds rxbuf DataInd.pktData (DataInd.psduLen.ntoh host rxbuf)).map psduLines

/-- `NodeSim::mcastRxDataPacket`: the lines it prints for a frame. -/
def mcastRxDataPacket (host : ByteOrder) (memory : Nat → UInt8) :
    McastRecv → Except Failure (List String)
  | .failed true => .ok []
  | .failed false => printPsdu host (malloc memory 256)
  | .received [] => .ok []
  | .received (b :: bs) => printPsdu host (rxbuf memory (b :: bs))

variable {host : ByteOrder} {memory : Nat → UInt8} {nodeId : UInt64} {msgType : MsgType}
  {body : List UInt8} {node : NodeSim}

/-! ### A message that is received whole -/

/-- A message, with the fields of its header one after the other. -/
theorem message_split (host : ByteOrder) (msgType : MsgType) (nodeId : UInt64) (body : List UInt8) :
  ∃ cksum, cksum < 256 ^ 2 ∧
    message host msgType nodeId body = toBE 2 (Hdr.size + body.length) ++ (toBE 2 msgType.code ++
      (toBE 4 netsimInterfaceVersion ++ (toBE 8 nodeId.toNat ++ (toBE 2 cksum ++ body)))) ∧
    generateChecksum host (blankCksum (message host msgType nodeId body)) = cksum
  := by
  have hnet : ∀ (f : Field) (n : Nat), f.net host n = toBE f.size n := by
    intro f n
    apply ByteOrder.store_hton
  have hblank : List.replicate 2 0 = toBE 2 0 := by decide
  obtain ⟨cksum, hcksum⟩ : ∃ cksum, generateChecksum host (toBE 2 (Hdr.size + body.length) ++
      (toBE 2 msgType.code ++ (toBE 4 netsimInterfaceVersion ++ (toBE 8 nodeId.toNat ++
        (toBE 2 0 ++ body))))) = cksum := ⟨_, rfl⟩
  have hsplit : message host msgType nodeId body = toBE 2 (Hdr.size + body.length) ++
      (toBE 2 msgType.code ++ (toBE 4 netsimInterfaceVersion ++ (toBE 8 nodeId.toNat ++
        (toBE 2 cksum ++ body)))) := by
    simp only [message, hnet, Hdr.len, Hdr.msgType, Hdr.interfaceVersion, Hdr.nodeId, Hdr.cksum,
      hblank, List.append_assoc, hcksum]
  refine ⟨cksum, ?_, hsplit, ?_⟩
  · rw [← hcksum]
    apply generateChecksum_lt
  · rw [← hcksum, hsplit]
    congr 1

/-- What is in the header of a message, and what comes after it. -/
theorem message_fields (host : ByteOrder) (msgType : MsgType) (nodeId : UInt64)
    (body : List UInt8) :
  CksumVerifies host (message host msgType nodeId body) ∧
    Hdr.msgType.value (message host msgType nodeId body) = msgType.code ∧
    Hdr.nodeId.value (message host msgType nodeId body) = nodeId.toNat ∧
    (message host msgType nodeId body).drop Hdr.size = body
  := by
  obtain ⟨cksum, hlt, hsplit, hcksum⟩ := message_split host msgType nodeId body
  have hvalue : ∀ (f : Field) (before after : List UInt8) (n : Nat), before.length = f.offset →
      message host msgType nodeId body = before ++ (toBE f.size n ++ after) → n < 256 ^ f.size →
      f.value (message host msgType nodeId body) = n := by
    intro f before after n hbefore heq hn
    rw [heq, ← List.append_assoc, Field.value_append n hbefore]
    apply Nat.mod_eq_of_lt hn
  refine ⟨?_, ?_, ?_, ?_⟩
  · rw [CksumVerifies, hcksum]
    symm
    refine hvalue Hdr.cksum (toBE 2 (Hdr.size + body.length) ++ (toBE 2 msgType.code ++
      (toBE 4 netsimInterfaceVersion ++ toBE 8 nodeId.toNat))) body cksum (by simp [Hdr.cksum]) ?_
      hlt
    rw [hsplit]
    simp only [List.append_assoc, Hdr.cksum]
  · refine hvalue Hdr.msgType (toBE 2 (Hdr.size + body.length)) _ _ (by simp [Hdr.msgType])
      hsplit ?_
    cases msgType <;> decide
  · refine hvalue Hdr.nodeId (toBE 2 (Hdr.size + body.length) ++ (toBE 2 msgType.code ++
      toBE 4 netsimInterfaceVersion)) (toBE 2 cksum ++ body) _ (by simp [Hdr.nodeId]) ?_
      nodeId.toNat_lt
    rw [hsplit]
    simp only [List.append_assoc, Hdr.nodeId]
  · have hbody : message host msgType nodeId body = (toBE 2 (Hdr.size + body.length) ++
        (toBE 2 msgType.code ++ (toBE 4 netsimInterfaceVersion ++ (toBE 8 nodeId.toNat ++
          toBE 2 cksum)))) ++ body := by
      rw [hsplit]
      simp only [List.append_assoc]
    rw [hbody, List.drop_left' (by simp [Hdr.size])]

/-- The message that a function `DeviceNode::send*` builds is built as those of the test node. -/
theorem bytes_eq_message (host : ByteOrder) (nodeId : UInt64) (msg : OutMsg) :
  msg.bytes host nodeId = message host msg.msgType nodeId msg.body
  := rfl

/-- A field of a message, with bytes behind the message. -/
theorem bytes_append {f : Field} {msg : List UInt8} (after : List UInt8)
    (h : f.offset + f.size ≤ msg.length) :
  f.bytes (msg ++ after) = f.bytes msg
  := by
  rw [Field.bytes, Field.bytes, List.drop_append_of_le_length (by omega),
    List.take_append_of_le_length (by rw [List.length_drop]; omega)]

theorem receive_whole {msg : List UInt8} (hmax : msg.length ≤ 128) :
  (node.receive msg).replyBuffer = msg ++ node.replyBuffer.drop msg.length
  := by
  simp only [receive, List.take_of_length_le hmax]

/-- The reply buffer when a message has been received whole, with its checksum blank. -/
theorem blank_receive {msg : List UInt8} (hsize : Hdr.size ≤ msg.length) (hmax : msg.length ≤ 128) :
  (node.receive msg).blank.replyBuffer = blankCksum msg ++ node.replyBuffer.drop msg.length
  := by
  have hsize' : 18 ≤ msg.length := hsize
  rw [blank]
  simp only [receive_whole hmax, blankCksum, Hdr.cksum, List.append_assoc]
  rw [List.take_append_of_le_length (by omega), List.drop_append_of_le_length (by omega)]

/-- A message that is received whole is taken by its type, if its checksum verifies. -/
theorem readMsg_whole {msg : List UInt8} (hsize : Hdr.size ≤ msg.length) (hmax : msg.length ≤ 128)
    (hcksum : CksumVerifies host msg) :
  node.readMsg host (some msg) = (node.receive msg).blank.take host
  := by
  have htake : msg.take 128 = msg := List.take_of_length_le hmax
  have hsummed : (node.receive msg).blank.replyBuffer.take msg.length = blankCksum msg := by
    rw [blank_receive hsize hmax, List.take_left' (length_blankCksum hsize)]
  have hvalue : Hdr.cksum.ntoh host (node.receive msg).replyBuffer = Hdr.cksum.value msg := by
    have hfield : Hdr.cksum.offset + Hdr.cksum.size ≤ msg.length := hsize
    have hbuffer : Hdr.cksum.offset + Hdr.cksum.size ≤ (node.receive msg).replyBuffer.length := by
      rw [(node.receive msg).length_replyBuffer]
      decide
    rw [Field.ntoh_eq hbuffer, Field.value, receive_whole hmax, bytes_append _ hfield, Field.value]
  have hverifies : generateChecksum host (blankCksum msg) = Hdr.cksum.value msg := hcksum
  rw [readMsg, htake, hsummed, hvalue, hverifies]
  simp

/-- A field of the header of a message that has been received whole. -/
theorem ntoh_receive {f : Field} {msg : List UInt8} (hsize : Hdr.size ≤ msg.length)
    (hmax : msg.length ≤ 128) (hf : f.offset + f.size ≤ Hdr.cksum.offset) :
  f.ntoh host (node.receive msg).blank.replyBuffer = f.value msg
  := by
  have hfield : f.offset + f.size ≤ (blankCksum msg).length := by
    rw [length_blankCksum hsize]
    apply le_trans hf (le_trans _ hsize)
    decide
  have hbuffer : f.offset + f.size ≤ (node.receive msg).blank.replyBuffer.length := by
    rw [(node.receive msg).blank.length_replyBuffer]
    apply le_trans hf
    decide
  rw [Field.ntoh_eq hbuffer, Field.value, blank_receive hsize hmax, bytes_append _ hfield,
    ← Field.value, value_blankCksum hsize (Or.inl hf)]

/-- The byte behind the header of a message that has been received whole. -/
theorem result_receive {msg rest : List UInt8} {b : UInt8} (hsize : Hdr.size ≤ msg.length)
    (hmax : msg.length ≤ 128) (hdrop : msg.drop Hdr.size = b :: rest) :
  (node.receive msg).blank.replyBuffer.getD resultOffset 0 = b
  := by
  have hlt : Hdr.size ≤ (blankCksum msg).length := by
    rw [length_blankCksum hsize]
    apply hsize
  have hbehind : (node.receive msg).blank.replyBuffer.drop Hdr.size
      = b :: (rest ++ node.replyBuffer.drop msg.length) := by
    rw [blank_receive hsize hmax, List.drop_append_of_le_length hlt,
      drop_blankCksum hsize (le_refl _), hdrop, List.cons_append]
  have hget := congrArg (fun l : List UInt8 => l[0]?) hbehind
  simp only [List.getElem?_drop, Nat.add_zero, List.getElem?_cons_zero] at hget
  rw [resultOffset, List.getD_eq_getElem?_getD, hget, Option.getD_some]

/-- The test node takes every message of the simulator that it receives whole for what it is, with
its result, and it learns its number from a registration request, whatever is in its reply
buffer. -/
theorem readMsg_bytes (host : ByteOrder) (nodeId : UInt64) (msg : OutMsg) (node : NodeSim) :
  ∃ node', node.readMsg host (some (msg.bytes host nodeId)) = .ok (node', msg.reply) ∧
    node'.nodeId = if msg = .regReq then nodeId else node.nodeId
  := by
  obtain ⟨hcksum, htype, hid, hdrop⟩ := message_fields host msg.msgType nodeId msg.body
  rw [← bytes_eq_message] at hcksum htype hid hdrop
  have hlength : (msg.bytes host nodeId).length = Hdr.size + msg.body.length := OutMsg.length_bytes
  have hbody := msg.length_body_le
  have hsize : Hdr.size ≤ (msg.bytes host nodeId).length := by omega
  have hmax : (msg.bytes host nodeId).length ≤ 128 := by
    rw [hlength, Hdr.size]
    omega
  have htaken : Hdr.msgType.ntoh host (node.receive (msg.bytes host nodeId)).blank.replyBuffer
      = msg.msgType.code := by
    rw [ntoh_receive hsize hmax (by decide), htype]
  have hlearnt : Hdr.nodeId.ntoh host (node.receive (msg.bytes host nodeId)).blank.replyBuffer
      = nodeId.toNat := by
    rw [ntoh_receive hsize hmax (by decide), hid]
  have hsame : (node.receive (msg.bytes host nodeId)).blank.nodeId = node.nodeId := rfl
  have hresult : ∀ b, msg.body = [b] →
      (node.receive (msg.bytes host nodeId)).blank.replyBuffer[resultOffset]?.getD 0 = b := by
    intro b hb
    rw [← List.getD_eq_getElem?_getD]
    apply result_receive hsize hmax (hdrop.trans hb)
  rw [readMsg_whole hsize hmax hcksum]
  generalize (node.receive (msg.bytes host nodeId)).blank = final at *
  cases msg with
  | regReq => simp [take, htaken, hlearnt, OutMsg.msgType, MsgType.code, OutMsg.reply]
  | deregCon => simp [take, htaken, hsame, OutMsg.msgType, MsgType.code, OutMsg.reply]
  | ccaCon result =>
      simp [take, htaken, hsame, hresult _ rfl, OutMsg.msgType, MsgType.code, OutMsg.reply]
  | txDoneInd result =>
      simp [take, htaken, hsame, hresult _ rfl, OutMsg.msgType, MsgType.code, OutMsg.reply]

/-! ### A frame that has been multicast -/

/-- The frame in a datagram that has been relayed is the one of the message. -/
theorem relays_psdu {msg buf : List UInt8} (h : Relays host msg buf) :
  buf.length = msg.length ∧ DataInd.psduLen.value buf = DataInd.psduLen.value msg ∧
    buf.drop DataInd.pktData = msg.drop DataInd.pktData
  := by
  obtain ⟨pkt, pkt₁, pkt₂, rfl, hrssi, hcksum, rfl⟩ := h
  obtain ⟨hlength, hvalue⟩ := NetSimPacket.relay_writes hrssi hcksum
  refine ⟨hlength, hvalue, ?_⟩
  have hlength₁ := NetSimPacket.length_write hrssi
  have hwrite := NetSimPacket.write_pktBuffer hrssi
  have hwrite' := NetSimPacket.write_pktBuffer hcksum
  have hkept := take_drop_of_write (i := DataInd.pktData) (k := pkt.pktBuffer.length) hwrite
    (Or.inr (by decide))
  have hkept' := take_drop_of_write (i := DataInd.pktData) (k := pkt.pktBuffer.length) hwrite'
    (Or.inr (by rw [ByteOrder.length_store]; decide))
  rw [hkept] at hkept'
  rw [List.take_of_length_le, List.take_of_length_le] at hkept'
  · apply hkept'
  · rw [List.length_drop]
    apply Nat.sub_le
  · rw [List.length_drop, hlength]
    apply Nat.sub_le

/-- What is in the buffer of a test node of a datagram that is not shorter than the header. -/
theorem psduLen_rxbuf {datagram : List UInt8} (memory : Nat → UInt8)
    (hsize : DataInd.pktData ≤ datagram.length) :
  (rxbuf memory datagram).length = 256 ∧
    DataInd.psduLen.ntoh host (rxbuf memory datagram) = DataInd.psduLen.value datagram
  := by
  have hlength : (rxbuf memory datagram).length = 256 := by
    simp only [rxbuf, List.length_append, List.length_take, List.length_drop, length_malloc]
    omega
  have hsize' : 34 ≤ datagram.length := hsize
  have hfield : DataInd.psduLen.offset + DataInd.psduLen.size ≤ (datagram.take 256).length := by
    rw [List.length_take]
    simp only [DataInd.psduLen]
    omega
  refine ⟨hlength, ?_⟩
  rw [Field.ntoh_eq (by rw [hlength]; decide), Field.value, rxbuf, bytes_append _ hfield,
    Field.value]
  congr 1
  simp only [Field.bytes, DataInd.psduLen, List.drop_take, List.take_take]
  rfl

/-- The test node prints the lines of the frame of a data indication that has been relayed to it, if
the datagram is not longer than its buffer.  Otherwise it leaves the buffer. -/
theorem mcastRxDataPacket_relayed (memory memory' : Nat → UInt8) (nodeId : UInt64)
    (ind : TxDataInd) {buf : List UInt8}
    (h : Relays host (blankCksum (sendTxDataInd host memory nodeId ind)) buf) :
  mcastRxDataPacket host memory' (.received buf)
    = if DataInd.pktData + ind.psduLen.toNat ≤ 256 then .ok (psduLines ind.psdu)
      else .error .outOfBounds
  := by
  obtain ⟨hlength, hvalue, hdrop⟩ := relays_psdu h
  have hmessage : (SendCall.sendTxDataInd ind).message host memory nodeId
      = sendTxDataInd host memory nodeId ind := rfl
  have hsent : (sendTxDataInd host memory nodeId ind).length
      = DataInd.pktData + ind.psduLen.toNat := by
    rw [← hmessage, SendCall.length_message]
    rfl
  have hsize : Hdr.size ≤ (sendTxDataInd host memory nodeId ind).length := by
    rw [hsent]
    apply le_trans _ (Nat.le_add_right ..)
    decide
  have hbuf : buf.length = DataInd.pktData + ind.psduLen.toNat := by
    rw [hlength, length_blankCksum hsize, hsent]
  have hpsdu : buf.drop DataInd.pktData = ind.psdu := by
    rw [hdrop, drop_blankCksum hsize (by decide), ← hmessage, SendCall.message_eq,
      drop_sealMsg (by decide), SendCall.body, TxDataInd.body_eq,
      List.drop_left' (by simp [DataInd.pktData, Hdr.size])]
  have hlen : DataInd.psduLen.value buf = ind.psduLen.toNat := by
    rw [hvalue, (ind.fields (congrArg blankCksum hmessage)).2.1]
  have hheader : DataInd.pktData ≤ buf.length := by
    rw [hbuf]
    apply Nat.le_add_right
  obtain ⟨hroom, hread⟩ : (rxbuf memory' buf).length = 256 ∧
      DataInd.psduLen.ntoh host (rxbuf memory' buf) = DataInd.psduLen.value buf :=
    psduLen_rxbuf memory' hheader
  have hprint : mcastRxDataPacket host memory' (.received buf)
      = printPsdu host (rxbuf memory' buf) := by
    cases buf with
    | nil => cases hheader
    | cons b bs => rfl
  rw [hprint, printPsdu, hread, hlen]
  split
  · next hfits =>
      have hshort : buf.take 256 = buf := by
        apply List.take_of_length_le
        rw [hbuf]
        apply hfits
      have hle : ind.psduLen.toNat ≤ (buf.drop DataInd.pktData).length := by
        rw [hpsdu, ind.length_psdu]
      rw [read_ok _ (by rw [hroom]; exact hfits), rxbuf, hshort,
        List.drop_append_of_le_length hheader, List.take_append_of_le_length hle, hpsdu,
        ← ind.length_psdu, List.take_length]
      rfl
  · next hlong =>
      rw [read_outside _ (by rw [hroom]; exact lt_of_not_ge hlong)]
      rfl

example : charLine 0x7f = "0x7f\n" ∧ charLine 0x80 = "0xffffff80\n" := by decide

end NodeSim

end X6losim
