import Ccnet.Foundation.Ledger
import Ccnet.Foundation.Machine
import Ccnet.Net.Connection.TcpConnection
import Ccnet.Net.EventLoop.EventLoop
import Ccnet.Net.Registration

namespace Ccnet.Net

/-! `net/connector.cc` in its event loop: the connector, the functors, timers and
threads that concern it, and the loop thread's call stack as far as it is inside
the connector's functions. Other threads write `connect_`, so a step of the loop
thread ends before each test of it. -/

inductive Connector.States
  | kDisconnected
  | kConnecting
  | kConnected
  deriving DecidableEq, Repr

structure Connector where
  connect : Bool
  state : Connector.States
  channel : Option Channel
  retryDelayMs : Nat
  deriving DecidableEq, Repr

/-- `errno` after `connect`, or that it succeeded. -/
inductive ConnectErrno
  | success
  | einprogress
  | eintr
  | eisconn
  | eagain
  | eaddrinuse
  | eaddrnotavail
  | econnrefused
  | enetunreach
  | eacces
  | eperm
  | eafnosupport
  | ealready
  | ebadf
  | efault
  | enotsock
  | other
  deriving DecidableEq, Repr

/-- What the platform answers to one `Connector::connect`: the descriptor, unless
`socket` fails, the result of `connect`, and the address of a new channel. -/
structure ConnectAttempt where
  sockfd : Option Nat
  errno : ConnectErrno
  address : Nat
  deriving DecidableEq, Repr

/-- `getSocketError` and `isSelfConnect`. -/
structure SocketOutcome where
  socketError : Nat
  selfConnect : Bool
  deriving DecidableEq, Repr

inductive ConnectorFunctor
  | startInLoop
  | stopInLoop
  | resetChannel
  /-- A functor of another object in the same loop. -/
  | other (tag : Nat)
  deriving DecidableEq, Repr

/-- What the loop thread is in the middle of, innermost first. -/
inductive ConnectorFrame
  | startInLoop
  | retry (sockfd : Nat)
  /-- `handleWrite`, after `setState(kConnected)`. -/
  | connected (sockfd : Nat)
  | newConnectionCallback (sockfd : Nat)
  /-- `handleEventWithGuard`, with the callbacks it has still to call. -/
  | handleEvent (rest : List Channel.Callback)
  deriving DecidableEq, Repr

namespace ConnectorFrame

def runsUserCode : ConnectorFrame → Bool
  | .newConnectionCallback _ => true
  | .startInLoop | .retry _ | .connected _ | .handleEvent _ => false

def isHandleEvent : ConnectorFrame → Bool
  | .handleEvent _ => true
  | .startInLoop | .retry _ | .connected _ | .newConnectionCallback _ => false

end ConnectorFrame

/-- `timers` holds the delays of the retry timers that have not fired; `retries`
counts those started since the construction or the last `restart`. -/
structure ConnectorSystem where
  connector : Connector
  poller : EPollPoller
  functors : FunctorQueue ConnectorFunctor
  /-- What each thread inside `queueInLoop` is about to push. -/
  pushing : List (ThreadId × ConnectorFunctor)
  timers : List Nat
  phase : LoopPhase
  activity : Activity
  stack : List ConnectorFrame
  sockets : Ledger Nat
  retries : Nat

namespace Connector

def kMaxRetryDelayMs : Nat := 30 * 1000

def kInitRetryDelayMs : Nat := 500

end Connector

namespace ConnectorSystem

def setState (system : ConnectorSystem) (state : Connector.States) : ConnectorSystem :=
  { system with connector := { system.connector with state } }

def setConnect (system : ConnectorSystem) (connect : Bool) : ConnectorSystem :=
  { system with connector := { system.connector with connect } }

def setChannel (system : ConnectorSystem) (channel : Option Channel) : ConnectorSystem :=
  { system with connector := { system.connector with channel } }

def enter (system : ConnectorSystem) (frame : ConnectorFrame) : ConnectorSystem :=
  { system with stack := frame :: system.stack }

/-- Another thread still has to take the lock before its functor is queued. -/
def queueInLoop (system : ConnectorSystem) (caller : Caller)
    (functor : ConnectorFunctor) : ConnectorSystem :=
  match caller with
  | none => { system with functors := system.functors.push functor }
  | some thread => { system with pushing := system.pushing ++ [(thread, functor)] }

/-- `sockets::createNonblockingOrDie`, with the descriptor that `socket` returns. -/
def createNonblockingOrDie (system : ConnectorSystem) (sockfd : Nat) : ConnectorSystem :=
  { system with sockets := system.sockets.acquire sockfd }

/-- `sockets::close`. -/
def close (system : ConnectorSystem) (sockfd : Nat) : ConnectorSystem :=
  { system with sockets := system.sockets.close sockfd }

/-! ## The connector -/

def start (system : ConnectorSystem) (caller : Caller) : ConnectorSystem :=
  match caller with
  | none => (system.setConnect true).enter .startInLoop
  | some thread => (system.setConnect true).queueInLoop (some thread) .startInLoop

def stop (system : ConnectorSystem) (caller : Caller) : ConnectorSystem :=
  (system.setConnect false).queueInLoop caller .stopInLoop

def restart (system : ConnectorSystem) : ConnectorSystem :=
  { system with
    connector := { system.connector with
      state := .kDisconnected
      retryDelayMs := Connector.kInitRetryDelayMs
      connect := true }
    retries := 0 }.enter .startInLoop

def connecting (system : ConnectorSystem) (address sockfd : Nat) :
    Checked ConnectorSystem := do
  let started := system.setState .kConnecting
  check (started.connector.channel = none)
  let (channel, poller) ← (Channel.create address sockfd).enableWriting started.poller
  return { started.setChannel (some channel) with poller }

def connect (system : ConnectorSystem) (attempt : ConnectAttempt) :
    Checked ConnectorSystem :=
  match attempt.sockfd with
  | none =>
      -- `connect(-1)` fails with `EBADF`, and then `close(-1)` fails its assertion.
      .error .assertion
  | some sockfd =>
      let created := system.createNonblockingOrDie sockfd
      match attempt.errno with
      | .success | .einprogress | .eintr | .eisconn =>
          created.connecting attempt.address sockfd
      | .eagain | .eaddrinuse | .eaddrnotavail | .econnrefused | .enetunreach =>
          return created.enter (.retry sockfd)
      | .eacces | .eperm | .eafnosupport | .ealready | .ebadf | .efault | .enotsock
      | .other => return created.close sockfd

def startInLoop (system : ConnectorSystem) (attempt : ConnectAttempt) :
    Checked ConnectorSystem := do
  check (system.connector.state = .kDisconnected)
  if system.connector.connect then
    system.connect attempt
  else
    return system

/-- `currentActiveChannel_` is the connector's channel. -/
def isCurrent (system : ConnectorSystem) : Bool :=
  system.stack.any ConnectorFrame.isHandleEvent

def removeAndResetChannel (system : ConnectorSystem) : Checked (ConnectorSystem × Nat) :=
  match system.connector.channel with
  | none => .error .useAfterFree
  | some channel => do
      let (disabled, poller) ← channel.disableAll system.poller
      -- The assertion of `EventLoop::removeChannel`.
      check (system.phase = .handlingEvents →
        system.isCurrent = true ∨ system.activity = .absent)
      let (removed, poller) ← disabled.remove poller
      return ({ (system.setChannel (some removed)).queueInLoop none .resetChannel with poller },
        channel.fd)

/-- `channel_.reset()`, with the assertions of `~Channel`. -/
def resetChannel (system : ConnectorSystem) : Checked ConnectorSystem :=
  match system.connector.channel with
  | none => return system
  | some channel => do
      check (channel.eventHandling = false)
      check (channel.addedToLoop = false)
      check (system.poller.channels channel.fd ≠ some channel.address)
      return system.setChannel none

def handleWrite (system : ConnectorSystem) (outcome : SocketOutcome) :
    Checked ConnectorSystem :=
  if system.connector.state = .kConnecting then do
    let (removed, sockfd) ← system.removeAndResetChannel
    if outcome.socketError ≠ 0 then
      return removed.enter (.retry sockfd)
    else if outcome.selfConnect then
      return removed.enter (.retry sockfd)
    else
      return (removed.setState .kConnected).enter (.connected sockfd)
  else do
    check (system.connector.state = .kDisconnected)
    return system

/-- The end of `handleWrite`. -/
def deliver (system : ConnectorSystem) (sockfd : Nat) : ConnectorSystem :=
  if system.connector.connect then
    { system with sockets := system.sockets.deliver sockfd }.enter
      (.newConnectionCallback sockfd)
  else
    system.close sockfd

def handleError (system : ConnectorSystem) : Checked ConnectorSystem :=
  if system.connector.state = .kConnecting then do
    let (removed, sockfd) ← system.removeAndResetChannel
    return removed.enter (.retry sockfd)
  else
    return system

def retry (system : ConnectorSystem) (sockfd : Nat) : ConnectorSystem :=
  let closed := (system.close sockfd).setState .kDisconnected
  if closed.connector.connect then
    let delay := closed.connector.retryDelayMs
    { closed with
      timers := closed.timers ++ [delay]
      connector := { closed.connector with
        retryDelayMs := min (delay * 2) Connector.kMaxRetryDelayMs }
      retries := closed.retries + 1 }
  else
    closed

def stopInLoop (system : ConnectorSystem) : Checked ConnectorSystem :=
  if system.connector.state = .kConnecting then do
    let (removed, sockfd) ← (system.setState .kDisconnected).removeAndResetChannel
    return removed.enter (.retry sockfd)
  else
    return system

/-! ## The loop -/

def runFunctor (system : ConnectorSystem) : ConnectorFunctor → Checked ConnectorSystem
  | .startInLoop => return system.enter .startInLoop
  | .stopInLoop => system.stopInLoop
  | .resetChannel => system.resetChannel
  | .other _ => return system

/-- A callback of `handleEventWithGuard`; the connector sets no close and no read
callback. -/
def callback (system : ConnectorSystem) (outcome : SocketOutcome) :
    Channel.Callback → Checked ConnectorSystem
  | .error => system.handleError
  | .write => system.handleWrite outcome
  | .close | .read => return system

/-- `EPollPoller::poll` with what the kernel reports for the channel, and
`fillActiveChannels`. -/
def poll (system : ConnectorSystem) (reported : Option PollEvents) :
    Checked ConnectorSystem :=
  match reported, system.connector.channel with
  | none, _ => return { system with phase := .handlingEvents, activity := .absent }
  | some _, none => .error .useAfterFree
  | some revents, some channel => do
      check (system.poller.channels channel.fd ≠ none)
      check (system.poller.channels channel.fd = some channel.address)
      return { system.setChannel (some { channel with revents }) with
        phase := .handlingEvents
        activity := .waiting }

/-- The loop calls `handleEvent` of the channel. -/
def dispatch (system : ConnectorSystem) : Checked ConnectorSystem :=
  match system.connector.channel with
  | none => .error .useAfterFree
  | some channel =>
      let handling := system.setChannel (some { channel with eventHandling := true })
      return { handling.enter (.handleEvent (Channel.callbacks channel.revents)) with
        activity := .taken }

def finishEvent (system : ConnectorSystem) : Checked ConnectorSystem :=
  match system.connector.channel with
  | none => .error .useAfterFree
  | some channel => return system.setChannel (some { channel with eventHandling := false })

/-- The loop thread goes on with what it is in the middle of. -/
def resume (system : ConnectorSystem) (attempt : ConnectAttempt) (outcome : SocketOutcome) :
    Checked ConnectorSystem :=
  match system.stack with
  | [] => return system
  | .startInLoop :: below => { system with stack := below }.startInLoop attempt
  | .retry sockfd :: below => return { system with stack := below }.retry sockfd
  | .connected sockfd :: below => return { system with stack := below }.deliver sockfd
  | .newConnectionCallback _ :: below => return { system with stack := below }
  | .handleEvent (called :: rest) :: below =>
      { system with stack := .handleEvent rest :: below }.callback outcome called
  | .handleEvent [] :: below => { system with stack := below }.finishEvent

/-! ## Runs -/

inductive Action
  | start (caller : Caller)
  | stop (caller : Caller)
  | restart
  | push (thread : ThreadId)
  | resume (attempt : ConnectAttempt) (outcome : SocketOutcome)
  | enterLoop
  | leaveLoop
  | poll (reported : Option PollEvents)
  | dispatch
  | fireTimer (delay : Nat)
  | swapFunctors
  | runFunctor
  | finishFunctors
  | queueOther (tag : Nat)
  /-- Another channel's entries in the poller and the kernel. -/
  | otherChannel (fd : Nat) (entry : Option Nat) (registered : Option (PollEvents × Nat))
  /-- The connection that a descriptor was handed over to closes it. -/
  | releaseSocket (sockfd : Nat)
  deriving Repr

/-- Code of the library's user runs in the loop thread in `newConnectionCallback_`,
and in handlers and functors that are not the connector's. -/
def runsUserCode (system : ConnectorSystem) : Bool :=
  EventLoop.LoopPhase.runsUserCode system.phase &&
    match system.stack with
    | [] => true
    | frame :: _ => frame.runsUserCode

def MayCall (system : ConnectorSystem) : Caller → Prop
  | none => system.runsUserCode = true
  | some thread => thread ∉ system.pushing.map Prod.fst

/-- `socket` returns a descriptor that is not open, and nothing of a closed
descriptor is left in the poller. -/
def Fresh (system : ConnectorSystem) (sockfd : Nat) : Prop :=
  system.sockets.current sockfd = none ∧ system.poller.channels sockfd = none ∧
    system.poller.kernel sockfd = none

/-- The callers' and the platform's promises. `restart` is called from `kConnected`
only. The kernel reports any events, but of registered descriptors only. Another
object changes no entry of the connector's channel and has another address. -/
def Allowed (system : ConnectorSystem) : Action → Prop
  | .start caller | .stop caller => system.MayCall caller
  | .restart => system.runsUserCode = true ∧ system.connector.state = .kConnected
  | .push thread => thread ∈ system.pushing.map Prod.fst
  | .resume attempt _ => system.stack ≠ [] ∧ ∀ sockfd ∈ attempt.sockfd, system.Fresh sockfd
  | .enterLoop => system.phase = .outsideLoop ∧ system.stack = []
  | .leaveLoop => system.phase = .polling
  | .poll none => system.phase = .polling
  | .poll (some _) => system.phase = .polling ∧ ∃ channel ∈ system.connector.channel,
      ∃ registered ∈ system.poller.kernel channel.fd, registered.2 = channel.address
  | .dispatch => system.phase = .handlingEvents ∧ system.stack = [] ∧
      system.activity = .waiting
  | .fireTimer delay => system.phase = .handlingEvents ∧ system.stack = [] ∧
      delay ∈ system.timers
  | .swapFunctors => system.phase = .handlingEvents ∧ system.stack = [] ∧
      system.activity ≠ .waiting
  | .runFunctor => system.phase = .runningFunctors ∧ system.stack = [] ∧
      system.functors.functors ≠ []
  | .finishFunctors => system.phase = .runningFunctors ∧ system.stack = [] ∧
      system.functors.functors = []
  | .queueOther _ => True
  | .otherChannel fd entry registered => ∀ channel ∈ system.connector.channel,
      entry ≠ some channel.address ∧ (∀ data ∈ registered, data.2 ≠ channel.address) ∧
        system.poller.channels fd ≠ some channel.address
  | .releaseSocket sockfd => ∃ opening ∈ system.sockets.current sockfd,
      some opening ∈ system.sockets.delivered

def step (system : ConnectorSystem) : Action → Checked ConnectorSystem
  | .start caller => return system.start caller
  | .stop caller => return system.stop caller
  | .restart => return system.restart
  | .push thread =>
      match system.pushing.find? fun entry => entry.1 = thread with
      | some entry => return { system with
          functors := system.functors.push entry.2
          pushing := system.pushing.erase entry }
      | none => return system
  | .resume attempt outcome => system.resume attempt outcome
  | .enterLoop => return { system with phase := .polling }
  | .leaveLoop => return { system with phase := .outsideLoop }
  | .poll reported => system.poll reported
  | .dispatch => system.dispatch
  | .fireTimer delay =>
      return { system with timers := system.timers.erase delay }.enter .startInLoop
  | .swapFunctors =>
      return { system with functors := system.functors.swap, phase := .runningFunctors }
  | .runFunctor =>
      match system.functors.next with
      | some (functor, rest) => { system with functors := rest }.runFunctor functor
      | none => return system
  | .finishFunctors => return { system with phase := .polling }
  | .queueOther tag => return system.queueInLoop none (.other tag)
  | .otherChannel fd entry registered =>
      return { system with poller := { system.poller with
        channels := Function.update system.poller.channels fd entry
        kernel := Function.update system.poller.kernel fd registered } }
  | .releaseSocket sockfd =>
      return { system with sockets := system.sockets.release sockfd }

def create (poller : EPollPoller) : ConnectorSystem where
  connector := {
    connect := false
    state := .kDisconnected
    channel := none
    retryDelayMs := Connector.kInitRetryDelayMs }
  poller := poller
  functors := .empty
  pushing := []
  timers := []
  phase := .outsideLoop
  activity := .absent
  stack := []
  sockets := .empty
  retries := 0

def machine : Machine ConnectorSystem Action where
  initial system := ∃ poller, system = create poller
  allowed := Allowed
  step := step

/-! ## Evaluation -/

instance (system : ConnectorSystem) : (caller : Caller) → Decidable (system.MayCall caller)
  | none => inferInstanceAs (Decidable (_ = _))
  | some thread => inferInstanceAs (Decidable (thread ∉ system.pushing.map Prod.fst))

instance (system : ConnectorSystem) (sockfd : Nat) : Decidable (system.Fresh sockfd) :=
  inferInstanceAs (Decidable (_ ∧ _))

instance (system : ConnectorSystem) : (action : Action) → Decidable (system.Allowed action)
  | .start caller | .stop caller => inferInstanceAs (Decidable (system.MayCall caller))
  | .push thread => inferInstanceAs (Decidable (thread ∈ system.pushing.map Prod.fst))
  | .leaveLoop | .poll none => inferInstanceAs (Decidable (_ = _))
  | .restart | .resume _ _ | .enterLoop | .poll (some _) | .dispatch | .fireTimer _
  | .swapFunctors | .runFunctor | .finishFunctors => inferInstanceAs (Decidable (_ ∧ _))
  | .queueOther _ => .isTrue trivial
  | .otherChannel fd entry registered => inferInstanceAs (Decidable
      (∀ channel ∈ system.connector.channel,
        entry ≠ some channel.address ∧ (∀ data ∈ registered, data.2 ≠ channel.address) ∧
          system.poller.channels fd ≠ some channel.address))
  | .releaseSocket sockfd => inferInstanceAs (Decidable
      (∃ opening ∈ system.sockets.current sockfd, some opening ∈ system.sockets.delivered))

instance (system : ConnectorSystem) (action : Action) :
    Decidable (machine.allowed system action) :=
  inferInstanceAs (Decidable (system.Allowed action))

/-- `resume` of `startInLoop`. -/
def Action.attempt (attempt : ConnectAttempt) : Action := .resume attempt ⟨0, false⟩

/-- `resume` of a call that needs no answer, or finds the socket connected. -/
def Action.proceed : Action := .resume ⟨none, .other, 0⟩ ⟨0, false⟩

/-- A connector in a loop that watches nothing yet. -/
def idle : ConnectorSystem :=
  create { channels := fun _ => none, kernel := fun _ => none, refused := 0 }

theorem idle_initial : machine.initial idle := ⟨_, rfl⟩

end ConnectorSystem

end Ccnet.Net
