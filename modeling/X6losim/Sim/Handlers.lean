import X6losim.Sim.Medium

/-!
# The handlers of a node

The functions of `DeviceNode` and of its state objects, and the functions of `PhysicalMedium`
they call.  A handler of a state object is a match on the class of the object.
-/

open Bytes

namespace X6losim

/-! ### Creating, registering and deleting a node -/

/-- `DeviceNode::sendRegistrationRequest`. -/
def sendRegistrationRequest (env : Env) (p : NodePtr) : Prog Unit := do
  send p .regReq
  if env.sendMsg ≠ Hdr.size then
    throw (.assertion .sendRegistrationRequest)

/-- The constructor of `DeviceNode`, which makes the node a registering one. -/
def newNode (env : Env) (p : NodePtr) (socket : UInt64) : Prog Unit := do
  assign p (DeviceNode.new socket)
  record (.newNode p)
  sendRegistrationRequest env p
  startTimer env p .regTimer

/-- The destructor of `DeviceNode`, and with it the close of the socket, which takes it off the
interest list. -/
def deleteNode (p : NodePtr) : Prog Unit := do
  stopTimer p .regTimer
  modify (fun m => { m with
    nodes := Function.update m.nodes p .destroyed
    interest := m.interest.erase p })
  record (.deleteNode p)

/-- `PhysicalMedium::registerNode`. -/
def registerNode (p : NodePtr) : Prog Unit := do
  let n ← deref p
  let m ← get
  let count := m.regListMap.count n.getNodeId
  modify (fun m => { m with regListMap := m.regListMap.erase n.getNodeId })
  if count ≠ 1 then
    throw (.assertion .registerNode)
  modify (fun m => { m with nodeHashMap := m.nodeHashMap.insert n.getNodeId p })

/-- `PhysicalMedium::deregisterNode`.  An erasure takes out one entry or none, so its last
assertion, that the node has been removed, holds on both branches. -/
def deregisterNode (p : NodePtr) : Prog Unit := do
  let n ← deref p
  let m ← get
  let count := m.regListMap.count n.getNodeId
  modify (fun m => { m with regListMap := m.regListMap.erase n.getNodeId })
  if count = 1 then
    deleteNode p
  else
    let m ← get
    let count := m.nodeHashMap.count n.getNodeId
    modify (fun m => { m with nodeHashMap := m.nodeHashMap.erase n.getNodeId })
    if count ≠ 1 then
      throw (.assertion .deregisterNode)
    deleteNode p

/-! ### The handlers -/

/-- Replace the state object of a node. -/
def setCurState (p : NodePtr) (curState : NodeState) : Prog Unit := do
  let n ← deref p
  assign p { n with curState }

/-- `DeviceNode::handleRegTimerExpired`. -/
def handleRegTimerExpired (p : NodePtr) : Prog Unit := do
  let n ← deref p
  match n.curState with
  | .registering => deleteNode p
  | .active => throw (.exception "ActiveState: handleCheckRegTimer")
  | .tx => throw (.exception "TxState: handleCheckRegTimer")

/-- `DeviceNode::handleTxTimerExpired`. -/
def handleTxTimerExpired (p : NodePtr) : Prog Unit := do
  let n ← deref p
  match n.curState with
  | .registering => throw (.exception "RegisteringState: handleTxTimerExpired")
  | .active => throw (.exception "ActiveState: handleTxTimerExpired")
  | .tx =>
      match n.txPkt with
      | none => throw (.assertion .handleTxTimerExpired)
      | some pkt =>
          assign p { n with txPkt := some { pkt with txDoneResult := txDoneOk } }
          stopTimer p .txTimer
          if pkt.collision then
            let n ← deref p
            assign p { n with txPkt := some { pkt with txDoneResult := txDoneCollided } }
          setCurState p .active

/-- `DeviceNode::handleRegistrationConfirm`. -/
def handleRegistrationConfirm (p : NodePtr) (regCon : List UInt8) : Prog Unit := do
  let n ← deref p
  let os ← Exec.ofExcept (strncpy regCon RegCon.os)
  assign p { n with os }
  let osVersion ← Exec.ofExcept (strncpy regCon RegCon.osVersion)
  assign p { n with os, osVersion }
  match n.curState with
  | .registering =>
      stopTimer p .regTimer
      registerNode p
      setCurState p .active
  | .active => throw (.exception "ActiveState: handleRegistrationConfirm")
  | .tx => throw (.exception "TxState: handleRegistrationConfirm")

/-- `DeviceNode::handleDeregistrationRequest`: in every state the node is deregistered. -/
def handleDeregistrationRequest (p : NodePtr) : Prog Unit := do
  send p .deregCon
  let n ← deref p
  match n.curState with
  | .registering => deregisterNode p
  | .active => deregisterNode p
  | .tx => deregisterNode p

/-- `DeviceNode::handleCcaRequest`.  The function of `TxState` has a parameter and does not
override the one called here, which does nothing. -/
def handleCcaRequest (p : NodePtr) : Prog Unit := do
  let n ← deref p
  modify (fun m => { m with ccaList := m.ccaList ++ [p] })
  record (.ccaRequest p)
  match n.curState with
  | .registering => throw (.exception "RegisteringState: handleCcaRequest")
  | .active => return
  | .tx => return

/-- `DeviceNode::setTxPacket`: clearing the packet deletes it. -/
def setTxPacket (p : NodePtr) (txPkt : Option NetSimPacket) : Prog Unit := do
  let n ← deref p
  match txPkt, n.txPkt with
  | none, some old => record (.deletePacket old.id)
  | _, _ => pure ()
  assign p { n with txPkt }

/-- `PhysicalMedium::addNodeToTxList`. -/
def addNodeToTxList (p : NodePtr) : Prog Unit := do
  let n ← deref p
  modify (fun m => { m with txList := m.txList ++ [p] })
  record (.txEnter p (n.txPkt.map NetSimPacket.id))

/-- `ActiveState::handleTxRequest`. -/
def handleTxRequest (env : Env) (p : NodePtr) (dataPkt : NetSimPacket) : Prog Unit := do
  let isAck ← Exec.ofExcept dataPkt.isAck
  if isAck = false then
    startTimerMs env p .txTimer NetSimPacket.getTimeOnWire
  else
    startTimerMs env p .txTimer 0
  setTxPacket p (some dataPkt)
  addNodeToTxList p

/-- `DeviceNode::handleDataIndication`. -/
def handleDataIndication (host : ByteOrder) (env : Env) (p : NodePtr) (dataInd : List UInt8) :
    Prog Unit := do
  let m ← get
  let dataPkt ← Exec.ofExcept (NetSimPacket.new host m.nextPkt dataInd p)
  modify (fun m => { m with nextPkt := m.nextPkt + 1 })
  record (.newPacket dataPkt.id)
  let n ← deref p
  match n.curState with
  | .registering => throw (.exception "RegisteringState: handleTxRequest")
  | .active =>
      handleTxRequest env p dataPkt
      setCurState p .tx
      record (.dataIndication p dataPkt.id)
  | .tx => throw (.exception "TxState: handleCcaRequest")

/-- The call of a handler by `readMsg`. -/
def callHandler (host : ByteOrder) (env : Env) (p : NodePtr) (msg : List UInt8) :
    Handler → Prog Unit
  | .handleRegistrationConfirm => handleRegistrationConfirm p msg
  | .handleDeregistrationRequest => handleDeregistrationRequest p
  | .handleCcaRequest => handleCcaRequest p
  | .handleDataIndication => handleDataIndication host env p msg

/-- `DeviceNode::readMsg`, and the bytes of the node it leaves unread. -/
def readMsg (host : ByteOrder) (env : Env) (p : NodePtr) (d : Delivery) (unread : List UInt8) :
    Prog (List UInt8) := do
  let n ← deref p
  match readMsgFrame host n.getNodeId d unread with
  | .error e _ => throw e
  | .ok .failedRead rest =>
      assign p { n with failedReads := n.failedReads + 1 }
      return rest
  | .ok .dropped rest => return rest
  | .ok (.call handler msg) rest =>
      callHandler host env p msg handler
      return rest

/-! ### Adding a node -/

/-- The registration of a node's socket with the poller, in `PhysicalMedium::addNode`. -/
def epollAdd (env : Env) (p : NodePtr) : Prog Unit := do
  if env.epollCtl = false then
    throw (.exception "epoll_ctl: Error")
  modify (fun m => { m with interest := m.interest ++ [p] })

/-- The insertion of a node into the registration list map, in `PhysicalMedium::addNode`. -/
def insertReg (p : NodePtr) : Prog Unit := do
  let n ← deref p
  modify (fun m => { m with regListMap := m.regListMap.insert n.getNodeId p })

/-- `PhysicalMedium::addNode` of a new node up to the insertion, as `NetworkSimulator::start` calls
it. -/
def createAndRegister (env : Env) (p : NodePtr) (socket : UInt64) : Prog Unit := do
  newNode env p socket
  epollAdd env p

/-- `PhysicalMedium::addNode` of a new node. -/
def addNode (env : Env) (p : NodePtr) (socket : UInt64) : Prog Unit := do
  createAndRegister env p socket
  insertReg p

end X6losim
