import Ccnet.Net.Client.Connector

namespace Ccnet.Net

/-! `net/tcp_client.cc` over the connector. Of the connection only its state is
kept, and that its `handleClose` runs in the loop thread: when its channel is
active, or in a functor. Other threads test the state and set it in two steps. -/

structure ClientConnection where
  id : Nat
  state : StateE
  deriving DecidableEq, Repr

namespace ClientConnection

def IsOpen (connection : ClientConnection) : Prop :=
  connection.state = .kConnected ∨ connection.state = .kDisconnecting

instance (connection : ClientConnection) : Decidable connection.IsOpen :=
  inferInstanceAs (Decidable (_ ∨ _))

/-- `TcpConnection::shutdown` in the loop thread, as far as the state goes. -/
def shutdown (connection : ClientConnection) : ClientConnection :=
  if connection.state = .kConnected then { connection with state := .kDisconnecting }
  else connection

end ClientConnection

structure TcpClient where
  retry : Bool
  connect : Bool
  nextConnId : Nat
  connection : Option ClientConnection
  deriving DecidableEq, Repr

inductive ClientCall
  | connect
  | disconnect
  | stop
  deriving DecidableEq, Repr

/-- What the loop thread is in the middle of above the connector's own calls. -/
inductive ClientFrame
  | newConnection (sockfd : Nat)
  | connectEstablished
  | connectionCallback
  | removeConnection (id : Nat)
  /-- `removeConnection`, before the test of `retry_` and `connect_`. -/
  | reconnect
  deriving DecidableEq, Repr

structure ClientSystem where
  client : TcpClient
  connector : ConnectorSystem
  /-- The calls that have so far only written the client's `connect_`. -/
  entered : List (Caller × ClientCall)
  frames : List ClientFrame
  /-- The connection whose channel is in `activeChannels_`. -/
  active : Option Nat
  /-- The other threads that have found a connection open, in `shutdown` or `forceClose`, and the
  connection. -/
  setting : List (ThreadId × Nat)
  /-- The connections that were set to `kDisconnecting` after they had been closed. -/
  revived : List Nat

namespace ClientSystem

def setConnection (system : ClientSystem) (connection : Option ClientConnection) :
    ClientSystem :=
  { system with client := { system.client with connection } }

/-- The thread sets `kDisconnecting` next. -/
def beginSetting (system : ClientSystem) (thread : ThreadId) (connection : ClientConnection) :
    ClientSystem :=
  { system with setting := system.setting ++ [(thread, connection.id)] }

/-- `shutdown` of `connection_` in another thread, up to `setState`. -/
def beginShutdown (system : ClientSystem) (thread : ThreadId) : ClientSystem :=
  match system.client.connection with
  | some connection =>
      if connection.state = .kConnected then system.beginSetting thread connection else system
  | none => system

/-- `setState(kDisconnecting)` of the connection with this number. -/
def setDisconnecting (system : ClientSystem) (id : Nat) : ClientSystem :=
  match system.client.connection with
  | some connection =>
      if connection.id = id ∧ connection.IsOpen then
        system.setConnection (some { connection with state := .kDisconnecting })
      else
        { system with revived := id :: system.revived }
  | none => { system with revived := id :: system.revived }

/-! ## The client -/

/-- The first line of each of the three functions. -/
def call (system : ClientSystem) (caller : Caller) (call : ClientCall) : ClientSystem :=
  { system with
    client := { system.client with connect := decide (call = .connect) }
    entered := system.entered ++ [(caller, call)] }

/-- The rest of them. -/
def finishCall (system : ClientSystem) (caller : Caller) : ClientCall → ClientSystem
  | .connect => { system with connector := system.connector.start caller }
  | .stop => { system with connector := system.connector.stop caller }
  | .disconnect =>
      match caller with
      | none => system.setConnection (system.client.connection.map ClientConnection.shutdown)
      | some thread => system.beginShutdown thread

/-- The connection is in `connection_`, and `connectEstablished` is called next. -/
def newConnection (system : ClientSystem) (below : List ClientFrame) : ClientSystem :=
  { system with
    client := { system.client with
      nextConnId := system.client.nextConnId + 1
      connection := some ⟨system.client.nextConnId, .kConnecting⟩ }
    frames := .connectEstablished :: below }

/-- `TcpConnection::connectEstablished`, up to the call of `connectionCallback_`. -/
def connectEstablished (system : ClientSystem) (below : List ClientFrame) :
    Checked ClientSystem :=
  match system.client.connection with
  | none => .error .useAfterFree
  | some connection => do
      check (connection.state = .kConnecting)
      return { system.setConnection (some { connection with state := .kConnected }) with
        frames := .connectionCallback :: below }

/-- `TcpConnection::handleClose`, up to the call of `connectionCallback_`. -/
def handleClose (system : ClientSystem) (connection : ClientConnection) :
    Checked ClientSystem := do
  check connection.IsOpen
  return { system.setConnection (some { connection with state := .kDisconnected }) with
    frames := .connectionCallback :: .removeConnection connection.id :: system.frames }

/-- `handleClose` of the connection with this number. If it is no longer `connection_`, either its
own assertion fails or, after its state was set again, that of `removeConnection`. -/
def handleCloseOf (system : ClientSystem) (id : Nat) : Checked ClientSystem :=
  match system.client.connection with
  | none => .error .assertion
  | some connection =>
      if connection.id = id then system.handleClose connection else .error .assertion

/-- The connection with this number is `connection_`, and is open. -/
def IsCurrent (system : ClientSystem) (id : Nat) : Prop :=
  ∃ connection ∈ system.client.connection, connection.id = id ∧ connection.IsOpen

instance (system : ClientSystem) (id : Nat) : Decidable (system.IsCurrent id) :=
  inferInstanceAs (Decidable (∃ connection ∈ system.client.connection, _))

/-- `forceCloseInLoop` of the connection with this number. -/
def forceCloseInLoop (system : ClientSystem) (id : Nat) : Checked ClientSystem :=
  if system.IsCurrent id ∨ id ∈ system.revived then system.handleCloseOf id else return system

def removeConnection (system : ClientSystem) (id : Nat) (below : List ClientFrame) :
    Checked ClientSystem := do
  check (system.client.connection.map ClientConnection.id = some id)
  return { system.setConnection none with frames := .reconnect :: below }

def reconnect (system : ClientSystem) (below : List ClientFrame) : ClientSystem :=
  if system.client.retry && system.client.connect then
    { system with connector := system.connector.restart, frames := below }
  else
    { system with frames := below }

def resume (system : ClientSystem) : Checked ClientSystem :=
  match system.frames with
  | [] => return system
  | .newConnection _ :: below => return system.newConnection below
  | .connectEstablished :: below => system.connectEstablished below
  | .connectionCallback :: below => return { system with frames := below }
  | .removeConnection id :: below => system.removeConnection id below
  | .reconnect :: below => return system.reconnect below

/-! ## Runs -/

inductive Action
  | call (caller : Caller) (call : ClientCall)
  | finishCall (caller : Caller)
  | enableRetry
  /-- Somebody calls `forceClose` of a connection. -/
  | forceClose (id : Nat)
  /-- Another thread finds the connection open, in `forceClose`. -/
  | beginForceClose (thread : ThreadId)
  | setDisconnecting (thread : ThreadId)
  | connector (action : ConnectorSystem.Action)
  /-- With what the kernel reports for the connector's channel and for the connection's. -/
  | poll (reported : Option PollEvents) (active : Bool)
  | resume
  /-- The connection's handler of the event calls `handleClose`. -/
  | closeEvent
  deriving Repr

/-- A call of the user's is in `startInLoop`. -/
def inStart (system : ClientSystem) : Bool :=
  match system.connector.stack with
  | .startInLoop :: _ | .retry _ :: _ => true
  | [] | .connected _ :: _ | .newConnectionCallback _ :: _ | .handleEvent _ :: _ => false

/-- Code of the library's user runs in the loop thread in `connectionCallback_`, and in
handlers and functors that are neither the connector's nor the client's. -/
def runsUserCode (system : ClientSystem) : Bool :=
  EventLoop.LoopPhase.runsUserCode system.connector.phase && !system.inStart &&
    match system.frames with
    | [] => system.connector.stack.isEmpty
    | .connectionCallback :: _ => true
    | .newConnection _ :: _ | .connectEstablished :: _ | .removeConnection _ :: _
    | .reconnect :: _ => false

def MayCall (system : ClientSystem) (caller : Caller) : Prop :=
  caller ∉ system.entered.map Prod.fst ∧
    match caller with
    | none => system.runsUserCode = true
    | some thread => thread ∉ system.connector.pushing.map Prod.fst ∧
        thread ∉ system.setting.map Prod.fst

/-- The loop thread is in no call of the user's. -/
def LoopFree (system : ClientSystem) : Prop := none ∉ system.entered.map Prod.fst

/-- The connector's steps that are not part of a call: those of the loop thread, and those
of others. -/
def MayStep (system : ClientSystem) : ConnectorSystem.Action → Prop
  | .start _ | .stop _ | .restart | .poll _ | .queueOther _ => False
  | .push _ | .otherChannel _ _ _ | .releaseSocket _ => True
  | .resume _ _ => system.LoopFree ∧ (system.frames = [] ∨ system.inStart = true)
  | .enterLoop | .leaveLoop | .dispatch | .fireTimer _ | .swapFunctors | .runFunctor
  | .finishFunctors => system.LoopFree ∧ system.frames = []

def Allowed (system : ClientSystem) : Action → Prop
  | .call caller _ => system.MayCall caller
  | .finishCall caller => caller ∈ system.entered.map Prod.fst
  | .enableRetry => True
  | .forceClose id => id < system.client.nextConnId
  | .beginForceClose thread => system.MayCall (some thread) ∧
      ∃ connection ∈ system.client.connection, connection.IsOpen
  | .setDisconnecting thread => thread ∈ system.setting.map Prod.fst
  | .connector action => system.connector.Allowed action ∧ system.MayStep action
  | .poll reported active => system.connector.Allowed (.poll reported) ∧ system.LoopFree ∧
      system.frames = [] ∧
      (active = true → ∃ connection ∈ system.client.connection, connection.IsOpen)
  | .resume => system.LoopFree ∧ system.frames ≠ [] ∧ system.inStart = false
  | .closeEvent => system.LoopFree ∧ system.frames = [] ∧
      system.connector.phase = .handlingEvents ∧ system.connector.stack = [] ∧
      system.active ≠ none

/-- The callback of the client that a step of the connector has called. -/
def calledBack (before after : ConnectorSystem) : List ClientFrame :=
  match before.stack.head?, after.stack.head? with
  | some (.connected _), some (.newConnectionCallback sockfd) => [.newConnection sockfd]
  | _, _ => []

def connectorStep (system : ClientSystem) (action : ConnectorSystem.Action) :
    Checked ClientSystem := do
  let connector ← system.connector.step action
  let after : ClientSystem := { system with
    connector
    frames := calledBack system.connector connector ++ system.frames }
  match action, system.connector.functors.next with
  | .runFunctor, some (.other id, _) => after.forceCloseInLoop id
  | _, _ => return after

def step (system : ClientSystem) : Action → Checked ClientSystem
  | .call caller call => return system.call caller call
  | .finishCall caller =>
      match system.entered.find? fun entry => entry.1 = caller with
      | some entry =>
          return { system with entered := system.entered.erase entry }.finishCall caller entry.2
      | none => return system
  | .enableRetry => return { system with client := { system.client with retry := true } }
  | .forceClose id =>
      return { system with connector := system.connector.queueInLoop none (.other id) }
  | .beginForceClose thread =>
      match system.client.connection with
      | some connection => return system.beginSetting thread connection
      | none => return system
  | .setDisconnecting thread =>
      match system.setting.find? fun entry => entry.1 = thread with
      | some entry =>
          return { system with setting := system.setting.erase entry }.setDisconnecting entry.2
      | none => return system
  | .connector action => system.connectorStep action
  | .poll reported active => do
      let connector ← system.connector.poll reported
      return { system with
        connector
        active := if active then system.client.connection.map ClientConnection.id else none }
  | .resume => system.resume
  | .closeEvent =>
      match system.active with
      | some id => system.handleCloseOf id
      | none => return system

def create (retry : Bool) (poller : EPollPoller) : ClientSystem where
  client := { retry, connect := true, nextConnId := 1, connection := none }
  connector := ConnectorSystem.create poller
  entered := []
  frames := []
  active := none
  setting := []
  revived := []

def machine : Machine ClientSystem Action where
  initial system := ∃ retry poller, system = create retry poller
  allowed := Allowed
  step := step

/-! ## Evaluation -/

instance (system : ClientSystem) : Decidable system.LoopFree :=
  inferInstanceAs (Decidable (_ ∉ _))

instance (system : ClientSystem) : (caller : Caller) → Decidable (system.MayCall caller)
  | none => inferInstanceAs (Decidable (_ ∧ _ = _))
  | some thread => inferInstanceAs (Decidable (_ ∧
      thread ∉ system.connector.pushing.map Prod.fst ∧ thread ∉ system.setting.map Prod.fst))

instance (system : ClientSystem) :
    (action : ConnectorSystem.Action) → Decidable (system.MayStep action)
  | .start _ | .stop _ | .restart | .poll _ | .queueOther _ => .isFalse id
  | .push _ | .otherChannel _ _ _ | .releaseSocket _ => .isTrue trivial
  | .resume _ _ | .enterLoop | .leaveLoop | .dispatch | .fireTimer _ | .swapFunctors
  | .runFunctor | .finishFunctors => inferInstanceAs (Decidable (_ ∧ _))

instance (system : ClientSystem) : (action : Action) → Decidable (system.Allowed action)
  | .call caller _ => inferInstanceAs (Decidable (system.MayCall caller))
  | .finishCall caller => inferInstanceAs (Decidable (caller ∈ system.entered.map Prod.fst))
  | .enableRetry => .isTrue trivial
  | .forceClose id => inferInstanceAs (Decidable (id < system.client.nextConnId))
  | .setDisconnecting thread => inferInstanceAs (Decidable (thread ∈ system.setting.map Prod.fst))
  | .beginForceClose _ | .connector _ | .poll _ _ | .resume | .closeEvent =>
      inferInstanceAs (Decidable (_ ∧ _))

instance (system : ClientSystem) (action : Action) :
    Decidable (machine.allowed system action) :=
  inferInstanceAs (Decidable (system.Allowed action))

/-- A client in a loop that watches nothing yet. -/
def idle (retry : Bool) : ClientSystem :=
  create retry { channels := fun _ => none, kernel := fun _ => none, refused := 0 }

theorem idle_initial (retry : Bool) : machine.initial (idle retry) := ⟨_, _, rfl⟩

end ClientSystem

end Ccnet.Net
