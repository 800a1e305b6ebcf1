import X6losim.Sim.Run
import Mathlib.Logic.Function.Basic

/-!
# Accepting connections

The main thread in `NetworkSimulator::start`: it waits in `acceptConnections` for clients of the
two server sockets, makes a node of each and adds it to the medium of the server socket.  The
threads of the media go on meanwhile.  The kind of a medium stands for its server socket too:
`hanServer` is the one of the powerline, `airServer` the wireless one.
-/

open Bytes

namespace X6losim

/-- A file descriptor of an accepted connection. -/
abbrev Fd := Nat

/-- `EWOULDBLOCK`. -/
def eWouldBlock : Int := 11

/-- `enum AcceptStatus`. -/
inductive AcceptStatus where
  | acceptUnblock
  | acceptOk
  | acceptTimeout
  | acceptError
deriving DecidableEq, Repr

/-- What `NetworkSimulator_pimpl` keeps, the error count of `start`, the descriptor of every
node, and the descriptors that have been accepted and are open, each with the server socket it
has been accepted on. -/
structure NetworkSimulator where
  /-- `plcMedium` and `wlMedium`, with their threads. -/
  medium : Kind → Sys
  /-- The descriptors of `hanServer` and `airServer`. -/
  server : Kind → Int
  /-- The descriptor of the read end of the unblock pipe. -/
  readPipe : Int
  stop : Bool
  errCount : Nat
  sockfd : Kind → NodePtr → Fd
  fds : Fd → Option Kind

/-- What the main thread does. -/
abbrev Main := EStateM Stop NetworkSimulator

/-! ### `NetworkSimulator::acceptConnections` -/

/-- What the system answers to the calls of `acceptConnections`. -/
structure AcceptEnv where
  /-- What `select` returns. -/
  count : Int
  /-- Whether it has been interrupted by a signal, when it fails. -/
  interrupted : Bool
  /-- The descriptors it leaves in the set. -/
  acceptFdSet : Int → Bool
  /-- What `accept` returns for a server socket, or none when it fails. -/
  accept : Kind → Option Fd

/-- The largest descriptor in the set. -/
def NetworkSimulator.fdMax (s : NetworkSimulator) : Int :=
  max (max (s.server .powerline) (s.server .wireless)) s.readPipe

/-- `NetworkSimulator::setupAcceptFdSet`. -/
def setupAcceptFdSet : Main Int := do
  let s ← get
  if s.server .powerline < 0 then
    throw (.exception "Invalid Hanadu Socket")
  if s.server .wireless < 0 then
    throw (.exception "Invalid Wireless Socket")
  if s.readPipe < 0 then
    throw (.exception "Invalid Unblocker")
  return s.fdMax

/-- The local variables of `acceptConnections`: `client` are `hanClient` and `airClient`. -/
structure Accepting where
  rv : AcceptStatus
  client : Kind → Int
  count : Int

/-- A connection is accepted on a server socket, if `select` has reported one.  When that fails,
the assertion is about `hanClient` for both server sockets. -/
def acceptOn (env : AcceptEnv) (k : Kind) (a : Accepting) : Main Accepting := do
  let s ← get
  if env.acceptFdSet (s.server k) then
    match env.accept k with
    | none =>
        let client := Function.update a.client k (-1)
        if client .powerline = eWouldBlock then
          throw (.assertion .acceptConnections)
        return ⟨.acceptError, client, a.count - 1⟩
    | some fd =>
        modify (fun s => { s with fds := Function.update s.fds fd (some k) })
        return ⟨a.rv, Function.update a.client k fd, a.count - 1⟩
  else return a

/-- Close a client, if there is one. -/
def closeClient (client : Int) : Main Unit := do
  if client ≠ -1 then
    modify (fun s => { s with fds := Function.update s.fds client.toNat none })

/-- Close both clients. -/
def closeClients (a : Accepting) : Main Accepting := do
  closeClient (a.client .powerline)
  closeClient (a.client .wireless)
  return { a with client := fun _ => -1 }

/-- The end of the accepts when the unblock pipe can be read. -/
def acceptUnblocked (env : AcceptEnv) (a : Accepting) : Main Accepting := do
  let s ← get
  if env.acceptFdSet s.readPipe then
    let a ← closeClients a
    return ⟨.acceptUnblock, a.client, a.count - 1⟩
  else return a

/-- The end of the accepts when `select` has counted something else. -/
def acceptUnknown (a : Accepting) : Main Accepting := do
  if a.count ≠ 0 then
    let a ← closeClients a
    return { a with rv := if a.rv = .acceptOk then .acceptError else a.rv }
  else return a

/-- `NetworkSimulator::acceptConnections`, with the clients it sets.  Its loop is left when
`select` has been interrupted, because its condition is false. -/
def acceptConnections (env : AcceptEnv) : Main (AcceptStatus × (Kind → Int)) := do
  let fdmax ← setupAcceptFdSet
  if 0 < fdmax then
    if env.count = -1 then
      if env.interrupted then
        return (.acceptOk, fun _ => -1)
      else return (.acceptError, fun _ => -1)
    else if env.count = 0 then
      return (.acceptTimeout, fun _ => -1)
    else
      let a ← acceptOn env .powerline ⟨.acceptOk, fun _ => -1, env.count⟩
      let a ← acceptOn env .wireless a
      let a ← acceptUnblocked env a
      let a ← acceptUnknown a
      return (a.rv, a.client)
  else return (.acceptError, fun _ => -1)

/-! ### `NetworkSimulator::start` -/

/-- What the system answers when a server socket is set up. -/
structure ServerEnv where
  /-- The descriptor `socket` returns, or none when it fails. -/
  socket : Option Fd
  /-- Whether `bind` succeeds. -/
  bind : Bool
  /-- Whether `listen` succeeds. -/
  listen : Bool

/-- A new node, and what the system answers when it is made and added. -/
structure NodeEnv where
  env : Env
  ptr : NodePtr
  socket : UInt64

/-- What the system answers during one step of `start`. -/
structure StartEnv where
  servers : Kind → ServerEnv
  accept : AcceptEnv
  node : Kind → NodeEnv

/-- The constructor of `ServerSocket`. -/
def newServer (env : StartEnv) (k : Kind) : Main Unit :=
  match (env.servers k).socket with
  | none => throw (.exception "ERROR opening socket")
  | some fd => modify (fun s => { s with server := Function.update s.server k fd })

/-- The calls of `ServerSocket::bindAnyAddress` and `ServerSocket::setPassive`. -/
def openServer (env : StartEnv) (k : Kind) : Main Unit := do
  if (env.servers k).bind = false then
    throw (.exception "ERROR on binding")
  if (env.servers k).listen = false then
    throw (.exception "ERROR on listen")

/-- The server sockets are deleted. -/
def deleteServers : Main Unit := modify (fun s => { s with server := fun _ => -1 })

/-- The simulator with another state of one of its media. -/
def NetworkSimulator.setMedium (s : NetworkSimulator) (k : Kind) (sys : Sys) : NetworkSimulator :=
  { s with medium := Function.update s.medium k sys }

/-- The simulator when the descriptor of a new node is known. -/
def NetworkSimulator.setSockfd (s : NetworkSimulator) (k : Kind) (p : NodePtr) (fd : Fd) :
    NetworkSimulator :=
  { s with sockfd := Function.update s.sockfd k (Function.update (s.sockfd k) p fd) }

/-- A client, if there is one, gets a node, and the node is added to the medium. -/
def addClient (host : ByteOrder) (env : StartEnv) (k : Kind) (client : Int) : Main Unit := do
  if client ≠ -1 then
    modify (fun s => s.setSockfd k (env.node k).ptr client.toNat)
    let s ← get
    let i := Input.addNode (env.node k).env (env.node k).ptr (env.node k).socket
    match (s.medium k).step host k i with
    | .ok sys => modify (fun s => s.setMedium k sys)
    | .error (e, med) =>
        modify (fun s => s.setMedium k ⟨(s.medium k).pc, med⟩)
        throw e

/-- The places in `start`: before the loop, at its beginning, after the return, and after an
exception. -/
inductive MainPc where
  | setup
  | accepting
  | returned
  | thrown (text : String)
deriving DecidableEq, Repr

/-- What `start` does with what `acceptConnections` returns. -/
def handleAccept (host : ByteOrder) (env : StartEnv) (client : Kind → Int) :
    AcceptStatus → Main Unit
  | .acceptOk => do
      modify (fun s => { s with errCount := 0 })
      addClient host env .powerline (client .powerline)
      addClient host env .wireless (client .wireless)
  | .acceptTimeout => modify (fun s => { s with errCount := 0 })
  | .acceptError => do
      modify (fun s => { s with errCount := s.errCount + 1 })
      let s ← get
      if 5 < s.errCount then
        deleteServers
        throw (.exception "Fatal error in acceptConnections")
  | .acceptUnblock => pure ()

/-- One step of `NetworkSimulator::start`: all before the loop, or one round of the loop. -/
def startStep (host : ByteOrder) (env : StartEnv) : MainPc → Main MainPc
  | .setup => do
      newServer env .powerline
      newServer env .wireless
      openServer env .powerline
      openServer env .wireless
      return .accepting
  | .accepting => do
      let (rv, client) ← acceptConnections env.accept
      handleAccept host env client rv
      let s ← get
      if s.stop = false ∧ rv ≠ .acceptUnblock then
        return .accepting
      else
        deleteServers
        return .returned
  | .returned => return .returned
  | .thrown text => return .thrown text

/-! ### The simulator and its threads -/

/-- The simulator and the place its main thread is at. -/
structure Simulation where
  main : MainPc
  sim : NetworkSimulator

/-- What is done in one step: the main thread goes on, the thread of a medium goes on, or
`NetworkSimulator::stop` is called. -/
inductive SimInput where
  | main (env : StartEnv)
  | thread (k : Kind) (env : Env)
  | stop

/-- The descriptors that are open when what an event tells has happened: with a node, its socket
is deleted, which closes its descriptor. -/
def closeDeleted (sockfd : NodePtr → Fd) (fds : Fd → Option Kind) : Event → Fd → Option Kind
  | .deleteNode p => Function.update fds (sockfd p) none
  | _ => fds

/-- The simulator after a step of the thread of a medium. -/
def NetworkSimulator.thread (s : NetworkSimulator) (k : Kind) (sys : Sys) : NetworkSimulator :=
  let es := sys.med.log.drop (s.medium k).med.log.length
  { s.setMedium k sys with fds := es.foldl (closeDeleted (s.sockfd k)) s.fds }

/-- One step.  An exception of the main thread is caught and ends `start`, one of the thread of a
medium and a failed assertion end the program. -/
def Simulation.step (host : ByteOrder) (s : Simulation) :
    SimInput → Except (Stop × NetworkSimulator) Simulation
  | .main env =>
      match startStep host env s.main s.sim with
      | .ok main sim => .ok ⟨main, sim⟩
      | .error (.exception text) sim => .ok ⟨.thrown text, sim⟩
      | .error e sim => .error (e, sim)
  | .thread k env =>
      match (s.sim.medium k).step host k (.run env) with
      | .ok sys => .ok ⟨s.main, s.sim.thread k sys⟩
      | .error (e, med) => .error (e, s.sim.setMedium k ⟨(s.sim.medium k).pc, med⟩)
  | .stop => .ok ⟨s.main, { s.sim with stop := true }⟩

/-- The descriptors `accept` returns are not open. -/
structure NetworkSimulator.NewFds (s : NetworkSimulator) (env : AcceptEnv) : Prop where
  closed : ∀ {k fd}, env.accept k = some fd → s.fds fd = none
  ne : ∀ {fd}, env.accept .powerline = some fd → env.accept .wireless ≠ some fd

/-- The steps that may be taken, and the answers the system may give. -/
def Simulation.Enabled (s : Simulation) : SimInput → Prop
  | .main env =>
      (s.main = .setup ∨ s.main = .accepting) ∧ s.sim.NewFds env.accept ∧
        ∀ k, (s.sim.medium k).Enabled
          (.addNode (env.node k).env (env.node k).ptr (env.node k).socket)
  | .thread k env => (s.sim.medium k).Enabled (.run env)
  | .stop => True

/-- A simulator that has been constructed. -/
def NetworkSimulator.new (readPipe : Int) : NetworkSimulator where
  medium := fun _ => ⟨.start, Medium.new⟩
  server := fun _ => -1
  readPipe
  stop := false
  errCount := 0
  sockfd := fun _ _ => 0
  fds := fun _ => none

/-- The simulator in `start`. -/
def networkSimulator (host : ByteOrder) :
    Machine Simulation SimInput (Stop × NetworkSimulator) where
  init s := ∃ readPipe, s = ⟨.setup, NetworkSimulator.new readPipe⟩
  enabled := Simulation.Enabled
  step := Simulation.step host

end X6losim
