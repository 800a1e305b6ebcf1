import X6losim.Sim.Handlers

/-!
# What the thread of a medium does

The functions of `PhysicalMedium` that `run` calls, each as the work it does on one event, one
list entry or one node at a time where it loops over them.
-/

open Bytes

namespace X6losim

/-- The kinds of medium, `PowerlineMedium` and `WirelessMedium`. -/
inductive Kind where
  | powerline
  | wireless
deriving DecidableEq, Repr

/-- `EPOLL_MAX_EVENTS`. -/
def epollMaxEvents : Nat := 64

/-- What `PhysicalMedium::processPollerEvents` does with one event, and whether it goes on to
the next. -/
def processPollerEvent (host : ByteOrder) (env : Env) (ev : PollEvent) : Prog Bool :=
  if ev.rdhup then
    match ev.data with
    | .unblocker => do
        modify (fun m => { m with state := .stopping })
        return false
    | .node p => do
        deregisterNode p
        return true
    | .null => throw (.exception "Poller EPOLLRDHUP: Not a Device node")
  else if ev.input then
    match ev.data with
    | .unblocker => do
        modify (fun m => { m with state := .stopping })
        return false
    | .node p => do
        let _ ← readMsg host env p ev.delivery ev.unread
        return true
    | .null => throw (.exception "Poller EPOLLIN: Not a Device node")
  else return true

/-- What `PhysicalMedium::processCcaList` does with the first entry of the list. -/
def processCcaEntry : Prog Unit := do
  let m ← get
  match m.ccaList with
  | [] => return
  | p :: ccaList =>
      let _ ← deref p
      modify (fun m => { m with ccaList })
      send p (.ccaCon (m.state = .idle))

/-- The loop of `PowerlineMedium::txCollisionCheck`. -/
def setCollided : List NodePtr → Prog Unit
  | [] => return
  | p :: ps => do
      let n ← deref p
      let pkt ← derefTxPkt n
      assign p { n with txPkt := some { pkt with collision := true } }
      setCollided ps

/-- `txCollisionCheck` of the kinds of medium. -/
def txCollisionCheck : Kind → Prog Unit
  | .powerline => do
      let m ← get
      if 1 < m.txList.length then
        setCollided m.txList
  | .wireless => return

/-- `PhysicalMedium::txPacket` of the packet a node holds. -/
def txPacket (host : ByteOrder) (p : NodePtr) : Prog Unit := do
  let n ← deref p
  let pkt ← derefTxPkt n
  let pkt ← Exec.ofExcept (pkt.setRSSI 127)
  let pkt ← Exec.ofExcept (pkt.generateChecksum host)
  assign p { n with txPkt := some pkt }
  record (.multicast p pkt.id pkt.pktBuffer)
  -- The bytes that the hexdump and the pcap dump read.
  let _ ← Exec.ofExcept (pkt.pktbuf host)

/-- What `PhysicalMedium::processTxList` does with the entry at a place of the list, and the
place of the next. -/
def processTxEntry (host : ByteOrder) (env : Env) (i : Nat) (p : NodePtr) : Prog Nat := do
  if ← timerExpired env p .txTimer then
    let n ← deref p
    if n.txPkt = none then
      throw (.assertion .processTxList)
    handleTxTimerExpired p
    let n ← deref p
    let pkt ← derefTxPkt n
    send p (.txDoneInd pkt.txDoneResult)
    if pkt.txDoneResult = txDoneOk then
      txPacket host p
      modify (fun m => { m with stats.txPktsOk := m.stats.txPktsOk + 1 })
    else if pkt.txDoneResult = txDoneCollided then
      modify (fun m => { m with stats.txPktsCollided := m.stats.txPktsCollided + 1 })
    else if pkt.txDoneResult = txDoneFailure then
      modify (fun m => { m with stats.txPktsFailed := m.stats.txPktsFailed + 1 })
    else
      throw (.exception "Invalid TX Done Result")
    setTxPacket p none
    modify (fun m => { m with txList := m.txList.eraseIdx i })
    record (.txLeave p)
    return i
  else
    return i + 1

/-- The loop of `PhysicalMedium::checkNodeRegistrationTimeout` over the entries with the given
keys.  The node of an entry taken out is not used after its handler. -/
def checkRegTimers (env : Env) : List UInt64 → Prog Unit
  | [] => return
  | key :: keys => do
      let m ← get
      match m.regListMap key with
      | none => pure ()
      | some p =>
          let n ← deref p
          if n.getNodeId ≠ key then
            throw (.assertion .checkNodeRegistrationTimeout)
          if ← timerExpired env p .regTimer then
            modify (fun m => { m with regListMap := m.regListMap.erase key })
            handleRegTimerExpired p
      checkRegTimers env keys

/-- `PhysicalMedium::checkNodeRegistrationTimeout`. -/
def checkNodeRegistrationTimeout (env : Env) : Prog Unit := checkRegTimers env env.regListWalk

/-- The loops of `~PhysicalMedium_pimpl` over a map, which delete the nodes they find. -/
def deleteEntries (map : MapName) (site : Assertion) : List UInt64 → Prog Unit
  | [] => return
  | key :: keys => do
      let m ← get
      match m.map map key with
      | none => pure ()
      | some p =>
          let n ← deref p
          if n.getNodeId ≠ key then
            throw (.assertion site)
          modify (fun m => m.eraseKey map key)
          deleteNode p
      deleteEntries map site keys

/-- The destructor `~PhysicalMedium_pimpl`. -/
def deleteMedium (env : Env) : Prog Unit := do
  deleteEntries .regListMap .destructorRegListMap env.regListWalk
  deleteEntries .nodeHashMap .destructorNodeHashMap env.nodeHashWalk

end X6losim
