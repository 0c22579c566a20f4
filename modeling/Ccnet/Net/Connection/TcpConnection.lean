import Ccnet.Foundation.Machine
import Ccnet.Net.Buffer
import Ccnet.Net.Poller
import Ccnet.Net.EventLoop.FunctorQueue

namespace Ccnet.Net

/-! One connection of `net/tcp_connection.cc` in its event loop: its channel and
the poller, the functors and the threads that concern it, and the loop thread's
call stack as far as it is inside the connection's functions. A step of the
loop thread is the code up to the next callback or system call, or to the next
access to `state_` where another thread's write in between would matter. -/

inductive StateE
  | kDisconnected
  | kConnecting
  | kConnected
  | kDisconnecting
  deriving DecidableEq, Repr

/-- Of the callbacks only whether they are set matters, and only for two. -/
structure TcpConnection where
  state : StateE
  reading : Bool
  channel : Channel
  inputBuffer : Buffer
  outputBuffer : Buffer
  highWaterMark : Nat
  writeCompleteCallback : Bool
  highWaterMarkCallback : Bool
  deriving DecidableEq, Repr

inductive Errno
  | ewouldblock
  | epipe
  | econnreset
  | other
  deriving DecidableEq, Repr

/-- What a `write` on the socket returns. -/
inductive WriteResult
  | wrote (count : Nat)
  | failed (errno : Errno)
  deriving DecidableEq, Repr

namespace WriteResult

def count : WriteResult → Nat
  | .wrote count => count
  | .failed _ => 0

def succeeded : WriteResult → Bool
  | .wrote _ => true
  | .failed _ => false

/-- The errors after which `sendInLoop` drops the message. -/
def isFault : WriteResult → Bool
  | .failed .epipe | .failed .econnreset => true
  | .wrote _ | .failed .ewouldblock | .failed .other => false

theorem count_of_isFault {result : WriteResult} (fault : result.isFault = true) :
    result.count = 0 := by
  cases result with
  | wrote count => cases fault
  | failed errno => rfl

end WriteResult

abbrev ThreadId := Nat

/-- A caller of the connection's interface: another thread, or the loop thread
itself. -/
abbrev Caller := Option ThreadId

inductive ConnectionFunctor
  | sendInLoop (sender : Caller) (message : List UInt8)
  | shutdownInLoop
  | forceCloseInLoop
  | startReadInLoop
  | stopReadInLoop
  | connectDestroyed
  | writeCompleteCallback
  | highWaterMarkCallback (size : Nat)
  deriving DecidableEq, Repr

/-- How much the functor may ask the kernel to write. -/
def ConnectionFunctor.writeLimit : ConnectionFunctor → Nat
  | .sendInLoop _ message => message.length
  | _ => 0

/-- What the loop thread is in the middle of, innermost first. -/
inductive Frame
  | connectEstablished
  | connectionCallback
  | messageCallback
  /-- `handleEventWithGuard`, with the callbacks it has still to call. -/
  | handleEvent (rest : List Channel.Callback)
  | handleRead
  | handleWrite
  | handleClose
  /-- The last line of `handleClose`. -/
  | closeCallback
  | connectDestroyed
  /-- `connectDestroyed`, when it has found `kConnected`. -/
  | destroyConnected
  /-- The last line of `connectDestroyed`. -/
  | channelRemove
  deriving DecidableEq, Repr

namespace Frame

def runsUserCode : Frame → Bool
  | .connectionCallback | .messageCallback => true
  | .connectEstablished | .handleEvent _ | .handleRead | .handleWrite | .handleClose
  | .closeCallback | .connectDestroyed | .destroyConnected | .channelRemove => false

def isHandleEvent : Frame → Bool
  | .handleEvent _ => true
  | .connectEstablished | .connectionCallback | .messageCallback | .handleRead
  | .handleWrite | .handleClose | .closeCallback | .connectDestroyed
  | .destroyConnected | .channelRemove => false

end Frame

/-- Whether the channel is in `activeChannels_`, and if so whether its events
have been handled. -/
inductive Activity
  | absent
  | waiting
  | taken
  deriving DecidableEq, Repr

inductive SendFate
  | gaveUp
  | faulted
  | taken
  deriving DecidableEq, Repr

structure SendRecord where
  sender : Caller
  message : List UInt8
  fate : SendFate
  deriving DecidableEq, Repr

/-- What has happened so far: the messages that `send` passed on and those
`sendInLoop` has dealt with, the bytes the kernel has accepted, the state and
the length of the output buffer at each `shutdownWrite`, and the callbacks. -/
structure ConnectionHistory where
  issued : List (Caller × List UInt8)
  sends : List SendRecord
  accepted : List UInt8
  shutdownWrites : List (StateE × Nat)
  connectionCallbacks : List Bool
  handleCloses : Nat
  closeCallbacks : Nat
  deriving DecidableEq, Repr

structure ConnectionSystem where
  connection : TcpConnection
  poller : EPollPoller
  functors : FunctorQueue ConnectionFunctor
  /-- What a thread inside `queueInLoop` is about to push. -/
  pushing : ThreadId → Option ConnectionFunctor
  /-- What a thread that has read `state_` queues, if anything, when it has set it. -/
  setting : ThreadId → Option (Option ConnectionFunctor)
  eventHandling : Bool
  activity : Activity
  stack : List Frame
  /-- Whether the connection is still in the `connections_` of a live server. -/
  inConnections : Bool
  serverAlive : Bool
  removed : Bool
  history : ConnectionHistory

namespace ConnectionSystem

/-! ## The loop -/

def push (system : ConnectionSystem) (functor : ConnectionFunctor) :
    ConnectionSystem :=
  { system with functors := system.functors.push functor }

/-- `queueInLoop` of a user callback, if it is due. -/
def pushIf (system : ConnectionSystem) (due : Bool) (functor : ConnectionFunctor) :
    ConnectionSystem :=
  if due then system.push functor else system

/-- Another thread still has to take the lock before its functor is queued. -/
def queueInLoop (system : ConnectionSystem) (caller : Caller)
    (functor : ConnectionFunctor) : ConnectionSystem :=
  match caller with
  | none => system.push functor
  | some thread =>
      { system with pushing := Function.update system.pushing thread (some functor) }

def withChannel (system : ConnectionSystem)
    (operation : Channel → EPollPoller → Checked (Channel × EPollPoller)) :
    Checked ConnectionSystem := do
  let (channel, poller) ← operation system.connection.channel system.poller
  return { system with connection := { system.connection with channel }, poller }

/-- `currentActiveChannel_` is the connection's channel. -/
def isCurrent (system : ConnectionSystem) : Bool :=
  system.stack.any Frame.isHandleEvent

/-- `EventLoop::removeChannel`. -/
def removeChannel (system : ConnectionSystem) : Checked ConnectionSystem := do
  check (system.eventHandling = true →
    system.isCurrent = true ∨ system.activity = .absent)
  let (channel, poller) ← system.poller.removeChannel system.connection.channel
  return { system with connection := { system.connection with channel }, poller }

/-! ## The connection -/

def setState (system : ConnectionSystem) (state : StateE) : ConnectionSystem :=
  { system with connection := { system.connection with state } }

def enter (system : ConnectionSystem) (frame : Frame) : ConnectionSystem :=
  { system with stack := frame :: system.stack }

def accept (system : ConnectionSystem) (data : List UInt8) : ConnectionSystem :=
  { system with history :=
      { system.history with accepted := system.history.accepted ++ data } }

def recordSend (system : ConnectionSystem) (sender : Caller) (message : List UInt8)
    (fate : SendFate) : ConnectionSystem :=
  { system with history :=
      { system.history with sends := system.history.sends ++ [{ sender, message, fate }] } }

/-- The call of `connectionCallback_`. -/
def callConnectionCallback (system : ConnectionSystem) : ConnectionSystem :=
  { system.enter .connectionCallback with history :=
      { system.history with connectionCallbacks :=
          system.history.connectionCallbacks ++
            [decide (system.connection.state = .kConnected)] } }

def writesDirectly (connection : TcpConnection) : Bool :=
  !connection.channel.isWriting && connection.outputBuffer.readableBytes = 0

/-- What the kernel has not taken is buffered. -/
def bufferRemaining (system : ConnectionSystem) (remaining : List UInt8) :
    Checked ConnectionSystem := do
  let oldLen := system.connection.outputBuffer.readableBytes
  let notified := system.pushIf
    (decide (system.connection.highWaterMark ≤ oldLen + remaining.length) &&
      decide (oldLen < system.connection.highWaterMark) &&
      system.connection.highWaterMarkCallback)
    (.highWaterMarkCallback (oldLen + remaining.length))
  let outputBuffer ← notified.connection.outputBuffer.append remaining
  let appended : ConnectionSystem :=
    { notified with connection := { notified.connection with outputBuffer } }
  if appended.connection.channel.isWriting then
    return appended
  else
    appended.withChannel Channel.enableWriting

def finishSend (system : ConnectionSystem) (faultError : Bool)
    (remaining : List UInt8) : Checked ConnectionSystem :=
  if faultError = false ∧ remaining ≠ [] then
    system.bufferRemaining remaining
  else
    return system

def sendInLoop (system : ConnectionSystem) (sender : Caller) (data : List UInt8)
    (result : WriteResult) : Checked ConnectionSystem :=
  if system.connection.state = .kDisconnected then
    return system.recordSend sender data .gaveUp
  else do
    let direct := writesDirectly system.connection
    let nwrote := if direct then result.count else 0
    let faultError := direct && result.isFault
    let remaining := data.drop nwrote
    let written := system.accept (data.take nwrote)
    let notified := written.pushIf
      (direct && result.succeeded && remaining.isEmpty &&
        system.connection.writeCompleteCallback)
      .writeCompleteCallback
    check (remaining.length ≤ data.length)
    let buffered ← notified.finishSend faultError remaining
    return buffered.recordSend sender data (if faultError then .faulted else .taken)

def shutdownInLoop (system : ConnectionSystem) : ConnectionSystem :=
  if system.connection.channel.isWriting then
    system
  else
    { system with history := { system.history with shutdownWrites :=
        system.history.shutdownWrites ++
          [(system.connection.state, system.connection.outputBuffer.readableBytes)] } }

def enterHandleClose (system : ConnectionSystem) : ConnectionSystem :=
  { system.enter .handleClose with history :=
      { system.history with handleCloses := system.history.handleCloses + 1 } }

def isOpen (system : ConnectionSystem) : Prop :=
  system.connection.state = .kConnected ∨ system.connection.state = .kDisconnecting

instance (system : ConnectionSystem) : Decidable system.isOpen :=
  inferInstanceAs (Decidable (_ ∨ _))

def forceCloseInLoop (system : ConnectionSystem) : ConnectionSystem :=
  if system.isOpen then system.enterHandleClose else system

def startReadInLoop (system : ConnectionSystem) : Checked ConnectionSystem :=
  if system.connection.reading = false ∨
      system.connection.channel.isReading = false then do
    let enabled ← system.withChannel Channel.enableReading
    return { enabled with connection := { enabled.connection with reading := true } }
  else
    return system

def stopReadInLoop (system : ConnectionSystem) : Checked ConnectionSystem :=
  if system.connection.reading = true ∨
      system.connection.channel.isReading = true then do
    let disabled ← system.withChannel Channel.disableReading
    return { disabled with connection := { disabled.connection with reading := false } }
  else
    return system

/-- A functor in the loop thread. The two user callbacks run in steps of their
own. -/
def runFunctor (system : ConnectionSystem) (functor : ConnectionFunctor)
    (result : WriteResult) : Checked ConnectionSystem :=
  match functor with
  | .sendInLoop sender message => system.sendInLoop sender message result
  | .shutdownInLoop => return system.shutdownInLoop
  | .forceCloseInLoop => return system.forceCloseInLoop
  | .startReadInLoop => system.startReadInLoop
  | .stopReadInLoop => system.stopReadInLoop
  | .connectDestroyed => return system.enter .connectDestroyed
  | .writeCompleteCallback | .highWaterMarkCallback _ => return system

def runInLoop (system : ConnectionSystem) (caller : Caller)
    (functor : ConnectionFunctor) (result : WriteResult) : Checked ConnectionSystem :=
  match caller with
  | none => system.runFunctor functor result
  | some thread => return system.queueInLoop (some thread) functor

/-! The interface. In the loop thread `result` is what a direct write returns. -/

def send (system : ConnectionSystem) (caller : Caller) (message : List UInt8)
    (result : WriteResult) : Checked ConnectionSystem :=
  if system.connection.state = .kConnected then
    let issued : ConnectionSystem := { system with history :=
      { system.history with issued := system.history.issued ++ [(caller, message)] } }
    issued.runInLoop caller (.sendInLoop caller message) result
  else
    return system

/-- Another thread is between its test of `state_` and `setState(kDisconnecting)`. -/
def beginSetting (system : ConnectionSystem) (thread : ThreadId)
    (functor : Option ConnectionFunctor) : ConnectionSystem :=
  { system with setting := Function.update system.setting thread (some functor) }

/-- It sets the state, whatever that is by now, and goes on. -/
def setDisconnecting (system : ConnectionSystem) (thread : ThreadId) : ConnectionSystem :=
  match system.setting thread with
  | some functor => { system.setState .kDisconnecting with
      setting := Function.update system.setting thread none
      pushing := Function.update system.pushing thread functor }
  | none => system

def shutdown (system : ConnectionSystem) (caller : Caller) (result : WriteResult) :
    Checked ConnectionSystem :=
  if system.connection.state = .kConnected then
    match caller with
    | none => (system.setState .kDisconnecting).runInLoop none .shutdownInLoop result
    | some thread => return system.beginSetting thread (some .shutdownInLoop)
  else
    return system

def forceClose (system : ConnectionSystem) (caller : Caller) : ConnectionSystem :=
  if system.isOpen then
    match caller with
    | none => (system.setState .kDisconnecting).queueInLoop none .forceCloseInLoop
    | some thread => system.beginSetting thread (some .forceCloseInLoop)
  else
    system

/-- The timer it starts calls `forceClose` at some later moment. -/
def forceCloseWithDelay (system : ConnectionSystem) (caller : Caller) : ConnectionSystem :=
  if system.isOpen then
    match caller with
    | none => system.setState .kDisconnecting
    | some thread => system.beginSetting thread none
  else
    system

def startRead (system : ConnectionSystem) (caller : Caller) (result : WriteResult) :
    Checked ConnectionSystem :=
  system.runInLoop caller .startReadInLoop result

def stopRead (system : ConnectionSystem) (caller : Caller) (result : WriteResult) :
    Checked ConnectionSystem :=
  system.runInLoop caller .stopReadInLoop result

/-! Functions that only the loop thread runs, each from the frame that stands
for it. `below` is the rest of the stack. -/

def connectEstablished (system : ConnectionSystem) (below : List Frame) :
    Checked ConnectionSystem := do
  check (system.connection.state = .kConnecting)
  let enabled ←
    { system.setState .kConnected with stack := below }.withChannel Channel.enableReading
  return enabled.callConnectionCallback

def handleRead (system : ConnectionSystem) (below : List Frame)
    (result : Except Errno (List UInt8)) : Checked ConnectionSystem :=
  match result with
  | .ok [] => return { system with stack := below }.enterHandleClose
  | .ok data => do
      let inputBuffer ← system.connection.inputBuffer.readFd data
      return { system with
        connection := { system.connection with inputBuffer }
        stack := .messageCallback :: below }
  -- `handleError` only reads the socket's error.
  | .error _ => return { system with stack := below }

def handleWrite (system : ConnectionSystem) (below : List Frame)
    (result : WriteResult) : Checked ConnectionSystem := do
  let popped : ConnectionSystem := { system with stack := below }
  if system.connection.channel.isWriting ∧ 0 < result.count then
    let written := popped.accept (system.connection.outputBuffer.content.take result.count)
    let outputBuffer ← system.connection.outputBuffer.retrieve result.count
    let retrieved : ConnectionSystem :=
      { written with connection := { written.connection with outputBuffer } }
    if outputBuffer.readableBytes = 0 then
      let drained ← retrieved.withChannel Channel.disableWriting
      let notified :=
        drained.pushIf drained.connection.writeCompleteCallback .writeCompleteCallback
      if notified.connection.state = .kDisconnecting then
        return notified.shutdownInLoop
      else
        return notified
    else
      return retrieved
  else
    return popped

/-- The lines that `handleClose` and `connectDestroyed` have in common, with what
is to be done when `connectionCallback_` returns. -/
def disconnect (system : ConnectionSystem) (below : List Frame) :
    Checked ConnectionSystem := do
  let disabled ←
    { system.setState .kDisconnected with stack := below }.withChannel Channel.disableAll
  return disabled.callConnectionCallback

def handleClose (system : ConnectionSystem) (below : List Frame) :
    Checked ConnectionSystem := do
  check system.isOpen
  system.disconnect (.closeCallback :: below)

/-- `closeCallback_` is bound to the server. -/
def closeCallback (system : ConnectionSystem) (below : List Frame) :
    Checked ConnectionSystem :=
  if system.serverAlive then
    return { system with
      stack := below
      history := { system.history with
        closeCallbacks := system.history.closeCallbacks + 1 } }
  else
    .error .useAfterFree

def connectDestroyed (system : ConnectionSystem) (below : List Frame) : ConnectionSystem :=
  if system.connection.state = .kConnected then
    { system with stack := .destroyConnected :: below }
  else
    { system with stack := .channelRemove :: below }

def destroyConnected (system : ConnectionSystem) (below : List Frame) :
    Checked ConnectionSystem :=
  system.disconnect (.channelRemove :: below)

/-- `Channel::remove`, the last line of `connectDestroyed`. -/
def channelRemove (system : ConnectionSystem) (below : List Frame) :
    Checked ConnectionSystem := do
  check (system.connection.channel.isNoneEvent = true)
  let channel := { system.connection.channel with addedToLoop := false }
  let removed ← { system with
    connection := { system.connection with channel }
    stack := below }.removeChannel
  return { removed with removed := true }

/-- The next callback of `handleEventWithGuard`. -/
def nextCallback (system : ConnectionSystem) (below : List Frame)
    (callback : Channel.Callback) (rest : List Channel.Callback) : ConnectionSystem :=
  let called : ConnectionSystem := { system with stack := .handleEvent rest :: below }
  match callback with
  | .close => called.enterHandleClose
  | .error => called
  | .read => called.enter .handleRead
  | .write => called.enter .handleWrite

def setEventHandling (system : ConnectionSystem) (eventHandling : Bool) :
    ConnectionSystem :=
  { system with connection := { system.connection with
      channel := { system.connection.channel with eventHandling } } }

/-- `EPollPoller::poll` with what the kernel reports for the channel, and
`fillActiveChannels`. -/
def poll (system : ConnectionSystem) (reported : Option PollEvents) :
    Checked ConnectionSystem :=
  match reported with
  | none => return { system with eventHandling := true, activity := .absent }
  | some revents => do
      let channel := system.connection.channel
      check (system.poller.channels channel.fd ≠ none)
      check (system.poller.channels channel.fd = some channel.address)
      return { system with
        connection := { system.connection with channel := { channel with revents } }
        eventHandling := true
        activity := .waiting }

/-- The loop calls `handleEvent` of the channel. -/
def dispatch (system : ConnectionSystem) : ConnectionSystem :=
  { (system.setEventHandling true).enter
      (.handleEvent (Channel.callbacks system.connection.channel.revents)) with
    activity := .taken }

/-! ## The server -/

/-- `removeConnectionInLoop`, after the close callback has asked for it. -/
def removeConnectionInLoop (system : ConnectionSystem) : ConnectionSystem :=
  { system with inConnections := false }.push .connectDestroyed

/-- The server's destructor runs `connectDestroyed` for a connection it still
has, at once if it is in the connection's loop thread. -/
def destroyServer (system : ConnectionSystem) (inLoopThread : Bool) :
    ConnectionSystem :=
  let gone : ConnectionSystem :=
    { system with inConnections := false, serverAlive := false }
  if system.inConnections then
    if inLoopThread then gone.enter .connectDestroyed else gone.push .connectDestroyed
  else
    gone

/-! ## Runs -/

inductive Call
  | send (message : List UInt8)
  | shutdown
  | forceClose
  | forceCloseWithDelay
  | startRead
  | stopRead
  deriving DecidableEq, Repr

def Call.writeLimit : Call → Nat
  | .send message => message.length
  | .shutdown | .forceClose | .forceCloseWithDelay | .startRead | .stopRead => 0

inductive Action
  | call (caller : Caller) (call : Call) (result : WriteResult)
  | setDisconnecting (thread : ThreadId)
  | push (thread : ThreadId)
  /-- A message callback takes bytes out of the input buffer. -/
  | retrieveInput (len : Nat)
  | poll (reported : Option PollEvents)
  | dispatch
  | endEvents
  | swapFunctors
  | runFunctor (result : WriteResult)
  | connectEstablished
  | returnCallback
  | nextCallback
  | finishEvent
  | handleRead (result : Except Errno (List UInt8))
  | handleWrite (result : WriteResult)
  | handleClose
  | closeCallback
  | connectDestroyed
  | destroyConnected
  | channelRemove
  | removeConnectionInLoop
  | destroyServer (inLoopThread : Bool)
  deriving Repr

/-- Code of the library's user runs in the loop thread in the connection's own
callbacks, and in handlers and functors that are not the connection's. -/
def runsUserCode (system : ConnectionSystem) : Bool :=
  match system.stack with
  | [] => true
  | frame :: _ => frame.runsUserCode

/-- The loop thread may call at any time at which user code runs in it, another
thread when its previous call is over. -/
def MayCall (system : ConnectionSystem) : Caller → Prop
  | none => system.runsUserCode = true
  | some thread => system.pushing thread = none ∧ system.setting thread = none

def Idle (system : ConnectionSystem) : Prop :=
  system.stack = [] ∧ system.eventHandling = false

def pendingCallbacks (system : ConnectionSystem) : Option (List Channel.Callback) :=
  match system.stack with
  | .handleEvent rest :: _ => some rest
  | _ => none

/-- The platform's promises: reads and writes transfer no more than was asked
for, and epoll reports registered descriptors only. The connection's run ends
when its channel is removed. -/
def Allowed (system : ConnectionSystem) (action : Action) : Prop :=
  system.removed = false ∧
  match action with
  | .call caller call result =>
      system.MayCall caller ∧ result.count ≤ call.writeLimit
  | .setDisconnecting thread => system.setting thread ≠ none
  | .push thread => system.pushing thread ≠ none
  | .retrieveInput len => system.runsUserCode = true ∧
      len ≤ system.connection.inputBuffer.readableBytes
  | .poll none => system.Idle ∧ system.functors.functors = []
  | .poll (some revents) => system.Idle ∧ system.functors.functors = [] ∧
      ∃ registered ∈ system.poller.kernel system.connection.channel.fd,
        revents.ReportableFor registered.1
  | .dispatch => system.stack = [] ∧ system.activity = .waiting
  | .endEvents => system.stack = [] ∧ system.eventHandling = true ∧
      system.activity ≠ .waiting
  | .swapFunctors => system.Idle ∧ system.functors.functors = []
  | .runFunctor result => system.Idle ∧
      ∃ functor ∈ system.functors.functors.head?, result.count ≤ functor.writeLimit
  | .connectEstablished => system.stack.head? = some .connectEstablished
  | .returnCallback => ∃ frame ∈ system.stack.head?, frame.runsUserCode = true
  | .nextCallback => ∃ rest ∈ system.pendingCallbacks, rest ≠ []
  | .finishEvent => system.pendingCallbacks = some []
  | .handleRead result => system.stack.head? = some .handleRead ∧
      ∀ data ∈ result.toOption, data.length ≤ system.connection.inputBuffer.readLimit
  | .handleWrite result => system.stack.head? = some .handleWrite ∧
      result.count ≤ system.connection.outputBuffer.readableBytes
  | .handleClose => system.stack.head? = some .handleClose
  | .closeCallback => system.stack.head? = some .closeCallback
  | .connectDestroyed => system.stack.head? = some .connectDestroyed
  | .destroyConnected => system.stack.head? = some .destroyConnected
  | .channelRemove => system.stack.head? = some .channelRemove
  | .removeConnectionInLoop => system.inConnections = true ∧
      system.serverAlive = true ∧ 0 < system.history.closeCallbacks
  | .destroyServer inLoopThread => system.serverAlive = true ∧
      (inLoopThread = true → system.runsUserCode = true)

def step (system : ConnectionSystem) : Action → Checked ConnectionSystem
  | .call caller call result =>
      match call with
      | .send message => system.send caller message result
      | .shutdown => system.shutdown caller result
      | .forceClose => return system.forceClose caller
      | .forceCloseWithDelay => return system.forceCloseWithDelay caller
      | .startRead => system.startRead caller result
      | .stopRead => system.stopRead caller result
  | .setDisconnecting thread => return system.setDisconnecting thread
  | .push thread =>
      match system.pushing thread with
      | some functor => return { system.push functor with
          pushing := Function.update system.pushing thread none }
      | none => return system
  | .retrieveInput len => do
      let inputBuffer ← system.connection.inputBuffer.retrieve len
      return { system with connection := { system.connection with inputBuffer } }
  | .poll reported => system.poll reported
  | .dispatch => return system.dispatch
  | .endEvents => return { system with eventHandling := false }
  | .swapFunctors => return { system with functors := system.functors.swap }
  | .runFunctor result =>
      match system.functors.next with
      | some (functor, rest) =>
          { system with functors := rest }.runFunctor functor result
      | none => return system
  | .connectEstablished => system.connectEstablished system.stack.tail
  | .returnCallback => return { system with stack := system.stack.tail }
  | .nextCallback =>
      match system.pendingCallbacks with
      | some (callback :: rest) =>
          return system.nextCallback system.stack.tail callback rest
      | _ => return system
  | .finishEvent =>
      return { system.setEventHandling false with stack := system.stack.tail }
  | .handleRead result => system.handleRead system.stack.tail result
  | .handleWrite result => system.handleWrite system.stack.tail result
  | .handleClose => system.handleClose system.stack.tail
  | .closeCallback => system.closeCallback system.stack.tail
  | .connectDestroyed => return system.connectDestroyed system.stack.tail
  | .destroyConnected => system.destroyConnected system.stack.tail
  | .channelRemove => system.channelRemove system.stack.tail
  | .removeConnectionInLoop => return system.removeConnectionInLoop
  | .destroyServer inLoopThread => return system.destroyServer inLoopThread

/-- A connection as the server creates it, about to run `connectEstablished`. -/
def create (address fd highWaterMark : Nat)
    (writeCompleteCallback highWaterMarkCallback : Bool) (buffer : Buffer)
    (poller : EPollPoller) : ConnectionSystem where
  connection := {
    state := .kConnecting
    reading := true
    channel := Channel.create address fd
    inputBuffer := buffer
    outputBuffer := buffer
    highWaterMark := highWaterMark
    writeCompleteCallback := writeCompleteCallback
    highWaterMarkCallback := highWaterMarkCallback }
  poller := poller
  functors := .empty
  pushing _ := none
  setting _ := none
  eventHandling := false
  activity := .absent
  stack := [.connectEstablished]
  inConnections := true
  serverAlive := true
  removed := false
  history := {
    issued := []
    sends := []
    accepted := []
    shutdownWrites := []
    connectionCallbacks := []
    handleCloses := 0
    closeCallbacks := 0 }

/-- The descriptor is new, so the poller knows nothing of it. -/
def Initial (system : ConnectionSystem) : Prop :=
  ∃ address fd highWaterMark writeCompleteCallback highWaterMarkCallback buffer poller,
    Buffer.create Buffer.kInitialSize = .ok buffer ∧
    poller.channels fd = none ∧ poller.kernel fd = none ∧
    system = create address fd highWaterMark writeCompleteCallback
      highWaterMarkCallback buffer poller

def machine : Machine ConnectionSystem Action where
  initial := Initial
  allowed := Allowed
  step := step

/-! ## Evaluation -/

instance (system : ConnectionSystem) :
    (caller : Caller) → Decidable (system.MayCall caller)
  | none => inferInstanceAs (Decidable (_ = _))
  | some thread =>
      inferInstanceAs (Decidable (system.pushing thread = none ∧ system.setting thread = none))

instance (system : ConnectionSystem) : Decidable system.Idle :=
  inferInstanceAs (Decidable (_ ∧ _))

instance (system : ConnectionSystem) :
    (action : Action) → Decidable (system.Allowed action)
  | .call _ _ _ | .setDisconnecting _ | .push _ | .retrieveInput _ | .poll none
  | .poll (some _) | .dispatch | .endEvents | .swapFunctors | .runFunctor _
  | .connectEstablished | .returnCallback | .nextCallback | .finishEvent | .handleRead _
  | .handleWrite _ | .handleClose | .closeCallback | .connectDestroyed | .destroyConnected
  | .channelRemove | .removeConnectionInLoop | .destroyServer _ =>
      inferInstanceAs (Decidable (_ ∧ _))

instance (system : ConnectionSystem) (action : Action) :
    Decidable (machine.allowed system action) :=
  inferInstanceAs (Decidable (system.Allowed action))

/-- A connection on descriptor 7 of a poller that watches nothing else. -/
def lone : ConnectionSystem :=
  create 1 7 65536 true true
    { buffer := List.replicate (Buffer.kCheapPrepend + Buffer.kInitialSize) 0
      readerIndex := Buffer.kCheapPrepend
      writerIndex := Buffer.kCheapPrepend }
    { channels := fun _ => none, kernel := fun _ => none, refused := 0 }

theorem lone_initial : lone.Initial :=
  ⟨_, _, _, _, _, _, _, Buffer.create_eq_ok _, rfl, rfl, rfl⟩

end ConnectionSystem

end Ccnet.Net
