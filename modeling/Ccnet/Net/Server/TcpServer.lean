import Mathlib.Algebra.Group.Nat.Defs
import Ccnet.Foundation.Machine
import Ccnet.Net.Connection.TcpConnection
import Ccnet.Net.EventLoop.FunctorQueue

namespace Ccnet.Net

/-! `net/tcp_server.cc` and `net/event_loop_threadPool.cc`: the server's base loop, the
loops of its threads, and the functors that concern its connections. A step of a
loop thread ends where it calls `runInLoop` or `queueInLoop`, and `runInLoop` in the
thread of the loop itself goes on with the functor at once. -/

/-- The base loop, or the loop of a thread of the pool. -/
abbrev LoopId := Option Nat

def baseLoop : LoopId := none

/-- `snprintf` into a buffer of the given size. -/
def snprintf (size : Nat) (text : List Char) : List Char := text.take (size - 1)

structure InetAddress where
  ip : Fin 256 × Fin 256 × Fin 256 × Fin 256
  port : Fin 65536
  deriving DecidableEq, Repr

namespace InetAddress

/-- `inet_ntop` of an IPv4 address. -/
def toIp (address : InetAddress) : List Char :=
  Nat.toDigits 10 address.ip.1 ++ '.' :: Nat.toDigits 10 address.ip.2.1 ++
    '.' :: Nat.toDigits 10 address.ip.2.2.1 ++ '.' :: Nat.toDigits 10 address.ip.2.2.2

def toIpPort (address : InetAddress) : List Char :=
  address.toIp ++ snprintf (64 - address.toIp.length) (':' :: Nat.toDigits 10 address.port)

end InetAddress

/-- `loops` is filled by `start`. -/
structure EventLoopThreadPool where
  loops : List LoopId
  next : Nat
  deriving DecidableEq, Repr

namespace EventLoopThreadPool

def start (numThreads : Nat) : EventLoopThreadPool where
  loops := (List.range numThreads).map some
  next := 0

def getNextLoop (pool : EventLoopThreadPool) : Checked (LoopId × EventLoopThreadPool) :=
  if pool.loops.isEmpty then
    return (baseLoop, pool)
  else
    match pool.loops[pool.next]? with
    | none => .error .useAfterFree
    | some loop =>
        let next := pool.next + 1
        return (loop, { pool with next := if next ≥ pool.loops.length then 0 else next })

end EventLoopThreadPool

/-- The members of a `TcpConnection` that never change. -/
structure ServerConnection where
  name : List Char
  loop : LoopId
  deriving DecidableEq, Repr

/-- A connection is known by its number in the order of acceptance, which takes the
place of the pointer to it. -/
inductive ServerFunctor
  | connectEstablished (conn : Nat)
  | removeConnectionInLoop (conn : Nat)
  | connectDestroyed (conn : Nat)
  deriving DecidableEq, Repr

/-- What a loop thread is in the middle of. -/
inductive ServerTask
  /-- `newConnection`, with the connection in `connections_`. -/
  | newConnection (conn : Nat)
  /-- A functor, which has been taken out of the queue or is run by `runInLoop`. -/
  | functor (functor : ServerFunctor)
  /-- `handleClose`, at its last line. -/
  | closeCallback (conn : Nat)
  /-- `removeConnectionInLoop`, after the `erase`. -/
  | removed (conn : Nat)
  deriving DecidableEq, Repr

inductive ConnectionCall
  | connectEstablished
  | closeCallback
  | removeConnectionInLoop
  | connectDestroyed
  deriving DecidableEq, Repr

/-- A call for a connection, and the loop in whose thread it was made. -/
structure ConnectionEvent where
  call : ConnectionCall
  thread : LoopId
  deriving DecidableEq, Repr

structure TcpServer where
  ipPort : List Char
  name : List Char
  nextConnId : Nat
  connections : List Char → Option Nat

structure ServerLoop where
  queue : FunctorQueue ServerFunctor
  task : Option ServerTask
  deriving DecidableEq, Repr

/-- `states` is `state_` of each connection, `events` its history. -/
structure ServerSystem where
  server : TcpServer
  threadPool : EventLoopThreadPool
  accepted : List ServerConnection
  states : Nat → StateE
  loops : LoopId → ServerLoop
  events : Nat → List ConnectionEvent

namespace TcpServer

def connName (server : TcpServer) (connId : Nat) : List Char :=
  server.name ++ snprintf 64 ('-' :: server.ipPort ++ '#' :: Nat.toDigits 10 connId)

end TcpServer

namespace ServerSystem

def setLoop (system : ServerSystem) (loop : LoopId) (state : ServerLoop) : ServerSystem :=
  { system with loops := Function.update system.loops loop state }

def setTask (system : ServerSystem) (loop : LoopId) (task : Option ServerTask) : ServerSystem :=
  system.setLoop loop { system.loops loop with task }

def setState (system : ServerSystem) (conn : Nat) (state : StateE) : ServerSystem :=
  { system with states := Function.update system.states conn state }

def record (system : ServerSystem) (conn : Nat) (call : ConnectionCall) (thread : LoopId) :
    ServerSystem :=
  { system with events :=
      Function.update system.events conn (system.events conn ++ [⟨call, thread⟩]) }

/-- The calls made for a connection so far. -/
def calls (system : ServerSystem) (conn : Nat) : List ConnectionCall :=
  (system.events conn).map ConnectionEvent.call

/-- The connection behind a pointer. -/
def connection (system : ServerSystem) (conn : Nat) : Checked ServerConnection :=
  match system.accepted[conn]? with
  | none => .error .useAfterFree
  | some connection => return connection

def assertInLoopThread (thread loop : LoopId) : Checked Unit :=
  if thread = loop then return () else .error .abort

def queueInLoop (system : ServerSystem) (loop : LoopId) (functor : ServerFunctor) :
    ServerSystem :=
  system.setLoop loop { system.loops loop with queue := (system.loops loop).queue.push functor }

/-- The last thing that the function which the thread is in does. -/
def runInLoop (system : ServerSystem) (thread loop : LoopId) (functor : ServerFunctor) :
    ServerSystem :=
  if thread = loop then
    system.setTask thread (some (.functor functor))
  else
    (system.setTask thread none).queueInLoop loop functor

/-! ## The server -/

/-- Up to the call of `runInLoop`. -/
def newConnection (system : ServerSystem) : Checked ServerSystem := do
  let (ioLoop, threadPool) ← system.threadPool.getNextLoop
  let connName := system.server.connName system.server.nextConnId
  let conn := system.accepted.length
  let server := { system.server with
    nextConnId := system.server.nextConnId + 1
    connections := Function.update system.server.connections connName (some conn) }
  let accepted := system.accepted ++ [{ name := connName, loop := ioLoop }]
  let created := { system with server, threadPool, accepted }
  return (created.setState conn .kConnecting).setTask baseLoop (some (.newConnection conn))

def removeConnection (system : ServerSystem) (thread : LoopId) (conn : Nat) : ServerSystem :=
  system.runInLoop thread baseLoop (.removeConnectionInLoop conn)

/-- Up to the call of `queueInLoop`. -/
def removeConnectionInLoop (system : ServerSystem) (thread : LoopId) (conn : Nat) :
    Checked ServerSystem := do
  assertInLoopThread thread baseLoop
  let connection ← system.connection conn
  let n := if system.server.connections connection.name = none then 0 else 1
  let server := { system.server with
    connections := Function.update system.server.connections connection.name none }
  check (n = 1)
  let erased := { system with server }
  return (erased.record conn .removeConnectionInLoop thread).setTask thread (some (.removed conn))

/-! ## The connection, as far as the server is concerned -/

def connectEstablished (system : ServerSystem) (thread : LoopId) (conn : Nat) :
    Checked ServerSystem := do
  let connection ← system.connection conn
  assertInLoopThread thread connection.loop
  check (system.states conn = .kConnecting)
  let connected := system.setState conn .kConnected
  return (connected.record conn .connectEstablished thread).setTask thread none

/-- Up to its last line, the call of `closeCallback_`. -/
def handleClose (system : ServerSystem) (thread : LoopId) (conn : Nat) :
    Checked ServerSystem := do
  let connection ← system.connection conn
  assertInLoopThread thread connection.loop
  check (system.states conn = .kConnected ∨ system.states conn = .kDisconnecting)
  let disconnected := system.setState conn .kDisconnected
  return (disconnected.record conn .closeCallback thread).setTask thread
    (some (.closeCallback conn))

def connectDestroyed (system : ServerSystem) (thread : LoopId) (conn : Nat) :
    Checked ServerSystem := do
  let connection ← system.connection conn
  assertInLoopThread thread connection.loop
  let disconnected := if system.states conn = .kConnected then
      system.setState conn .kDisconnected
    else
      system
  return (disconnected.record conn .connectDestroyed thread).setTask thread none

/-! ## Runs -/

def runFunctor (system : ServerSystem) (thread : LoopId) : ServerFunctor → Checked ServerSystem
  | .connectEstablished conn => system.connectEstablished thread conn
  | .removeConnectionInLoop conn => system.removeConnectionInLoop thread conn
  | .connectDestroyed conn => system.connectDestroyed thread conn

/-- The thread goes on with what it is in the middle of. -/
def resume (system : ServerSystem) (thread : LoopId) : Checked ServerSystem :=
  match (system.loops thread).task with
  | none => return system
  | some (.newConnection conn) => do
      let connection ← system.connection conn
      return system.runInLoop thread connection.loop (.connectEstablished conn)
  | some (.functor functor) => system.runFunctor thread functor
  | some (.closeCallback conn) => return system.removeConnection thread conn
  | some (.removed conn) => do
      let connection ← system.connection conn
      return (system.setTask thread none).queueInLoop connection.loop (.connectDestroyed conn)

inductive Action
  | accept
  /-- `handleClose` of a connection, in the thread of its loop. -/
  | close (conn : Nat)
  | resume (thread : LoopId)
  | swapFunctors (thread : LoopId)
  | takeFunctor (thread : LoopId)
  deriving Repr

/-- A connection calls its `closeCallback_` once at most, and after `connectEstablished`.
`nextConnId_` does not overflow. -/
def Allowed (system : ServerSystem) : Action → Prop
  | .accept => (system.loops baseLoop).task = none ∧ system.server.nextConnId + 1 < 2 ^ 31
  | .close conn => ∃ connection ∈ system.accepted[conn]?,
      (system.loops connection.loop).task = none ∧
      .connectEstablished ∈ system.calls conn ∧ .closeCallback ∉ system.calls conn
  | .resume thread => (system.loops thread).task ≠ none
  | .swapFunctors thread =>
      (system.loops thread).task = none ∧ (system.loops thread).queue.functors = []
  | .takeFunctor thread => (system.loops thread).task = none

def step (system : ServerSystem) : Action → Checked ServerSystem
  | .accept => system.newConnection
  | .close conn => do
      let connection ← system.connection conn
      system.handleClose connection.loop conn
  | .resume thread => system.resume thread
  | .swapFunctors thread =>
      return system.setLoop thread
        { system.loops thread with queue := (system.loops thread).queue.swap }
  | .takeFunctor thread =>
      match (system.loops thread).queue.next with
      | none => return system
      | some (functor, rest) =>
          return system.setLoop thread { queue := rest, task := some (.functor functor) }

/-- A server with its threads started. -/
def create (name : List Char) (listenAddr : InetAddress) (numThreads : Nat) : ServerSystem where
  server := {
    ipPort := listenAddr.toIpPort
    name
    nextConnId := 1
    connections := fun _ => none }
  threadPool := .start numThreads
  accepted := []
  states _ := .kConnecting
  loops _ := { queue := .empty, task := none }
  events _ := []

def machine : Machine ServerSystem Action where
  initial system := ∃ name listenAddr numThreads, system = create name listenAddr numThreads
  allowed := Allowed
  step := step

/-! ## Evaluation -/

instance (system : ServerSystem) : (action : Action) → Decidable (system.Allowed action)
  | .accept | .swapFunctors _ => inferInstanceAs (Decidable (_ ∧ _))
  | .close conn => inferInstanceAs (Decidable (∃ connection ∈ system.accepted[conn]?,
      (system.loops connection.loop).task = none ∧
      .connectEstablished ∈ system.calls conn ∧ .closeCallback ∉ system.calls conn))
  | .resume _ => inferInstanceAs (Decidable (_ ≠ _))
  | .takeFunctor _ => inferInstanceAs (Decidable (_ = _))

instance (system : ServerSystem) (action : Action) :
    Decidable (machine.allowed system action) :=
  inferInstanceAs (Decidable (system.Allowed action))

end ServerSystem

end Ccnet.Net
