import Ccnet.Net.Connection.Stream

/-! # The control state of a connection

What decides about closing and destroying a connection, without its bytes and its
functors, and of the threads that use it only which is about to set the state; and
what each function does to it. -/

namespace Ccnet.Net

/-- A frame that can be left with no effect but on the stack. -/
def Frame.mayFinish : Frame → Bool
  | .connectionCallback | .messageCallback | .handleEvent [] | .handleRead
  | .handleWrite => true
  | .handleEvent (_ :: _) | .connectEstablished | .handleClose | .closeCallback
  | .connectDestroyed | .destroyConnected | .channelRemove => false

theorem Frame.mayFinish_of_runsUserCode {frame : Frame}
    (userCode : frame.runsUserCode = true) : frame.mayFinish = true := by
  cases frame <;> first | rfl | cases userCode

structure Control where
  state : StateE
  setting : ThreadId → Option (Option ConnectionFunctor)
  stack : List Frame
  activity : Activity
  eventHandling : Bool
  removed : Bool
  events : PollEvents
  revents : PollEvents
  index : ChannelIndex
  /-- The descriptor is in the kernel's epoll set. -/
  inKernel : Bool
  /-- `channels_` has the channel. -/
  inMap : Bool
  connectionCallbacks : List Bool
  handleCloses : Nat
  closeCallbacks : Nat

namespace Control

def isOpen (control : Control) : Prop :=
  control.state = .kConnected ∨ control.state = .kDisconnecting

/-- The channel's interest was set. -/
def Updated (before after : Control) (events : PollEvents) : Prop :=
  ∃ index inKernel, (index = .kAdded ∨ index = .kDeleted) ∧
    (before.index = .kAdded → events = .kNoneEvent → index = .kDeleted) ∧
    (index = .kDeleted → events = .kNoneEvent ∧ inKernel = false) ∧
    after = { before with events, index, inKernel, inMap := true }

/-- `setState(kDisconnected)`, `disableAll` and the call of
`connectionCallback_`. -/
def Disconnected (before after : Control) (below : List Frame) : Prop :=
  ∃ middle, Updated { before with state := .kDisconnected } middle .kNoneEvent ∧
    after = { middle with
      stack := .connectionCallback :: below
      connectionCallbacks := before.connectionCallbacks ++ [false] }

/-- What a step is for the control state, where that matters to its callers. -/
inductive Label
  /-- Another thread's `setState(kDisconnecting)`. -/
  | setDisconnecting
  | startRead
  | stopRead
  | poll (reported : PollEvents)
  | handleClose
  | connectDestroyed
  /-- The server's destructor runs in the loop thread. -/
  | destroyServer
  | other
  deriving DecidableEq, Repr

def called (control : Control) (callback : Channel.Callback)
    (rest : List Channel.Callback) (below : List Frame) : Control :=
  match callback with
  | .close => { control with
      stack := .handleClose :: .handleEvent rest :: below
      handleCloses := control.handleCloses + 1 }
  | .error => { control with stack := .handleEvent rest :: below }
  | .read => { control with stack := .handleRead :: .handleEvent rest :: below }
  | .write => { control with stack := .handleWrite :: .handleEvent rest :: below }

/-- Everything that a step can do to the control state. -/
inductive Step (before : Control) : Label → Control → Prop
  | same (label : Label) : Step before label before
  | disconnecting : before.isOpen →
      Step before .other { before with state := .kDisconnecting }
  | beginSetting (thread : ThreadId) (functor : Option ConnectionFunctor) : before.isOpen →
      Step before .other { before with
        setting := Function.update before.setting thread (some functor) }
  | setDisconnecting {thread : ThreadId} : before.setting thread ≠ none →
      Step before .setDisconnecting { before with
        state := .kDisconnecting
        setting := Function.update before.setting thread none }
  | enableWriting {after : Control} : before.state ≠ .kDisconnected →
      before.Updated after (before.events.union .kWriteEvent) → Step before .other after
  | startRead {after : Control} :
      before.Updated after (before.events.union .kReadEvent) → Step before .startRead after
  | stopRead {after : Control} :
      before.Updated after (before.events.without .kReadEvent) → Step before .stopRead after
  | pollOthers : before.stack = [] → before.eventHandling = false →
      Step before .other { before with eventHandling := true, activity := .absent }
  | poll (revents : PollEvents) : before.stack = [] → before.eventHandling = false →
      before.inKernel = true → Step before (.poll revents) { before with
        revents := revents
        eventHandling := true
        activity := .waiting }
  | dispatch : before.stack = [] → before.activity = .waiting →
      Step before .other { before with
        stack := [.handleEvent (Channel.callbacks before.revents)]
        activity := .taken }
  | endEvents : before.stack = [] → before.activity ≠ .waiting →
      Step before .other { before with eventHandling := false }
  | forceClose : before.stack = [] → before.eventHandling = false → before.isOpen →
      Step before .other { before with
        stack := [.handleClose]
        handleCloses := before.handleCloses + 1 }
  | destroyLater : before.stack = [] → before.eventHandling = false →
      Step before .other { before with stack := [.connectDestroyed] }
  | destroyServer : (∀ frame ∈ before.stack.head?, frame.runsUserCode = true) →
      Step before .destroyServer { before with stack := .connectDestroyed :: before.stack }
  | connectEstablished {middle : Control} {below : List Frame} :
      before.stack = .connectEstablished :: below → before.state = .kConnecting →
      Updated { before with state := .kConnected } middle
        (before.events.union .kReadEvent) →
      Step before .other { middle with
        stack := .connectionCallback :: below
        connectionCallbacks := before.connectionCallbacks ++ [true] }
  | finish {frame : Frame} {below : List Frame} :
      before.stack = frame :: below → frame.mayFinish = true →
      Step before .other { before with stack := below }
  | nextCallback {callback : Channel.Callback} {rest : List Channel.Callback}
      {below : List Frame} : before.stack = .handleEvent (callback :: rest) :: below →
      Step before .other (before.called callback rest below)
  | readNothing {below : List Frame} : before.stack = .handleRead :: below →
      Step before .other { before with
        stack := .handleClose :: below
        handleCloses := before.handleCloses + 1 }
  | readData {below : List Frame} : before.stack = .handleRead :: below →
      Step before .other { before with stack := .messageCallback :: below }
  | disableWriting {below : List Frame} {after : Control} :
      before.stack = .handleWrite :: below → before.events.pollOut = true →
      Updated { before with stack := below } after (before.events.without .kWriteEvent) →
      Step before .other after
  | handleClose {below : List Frame} {after : Control} :
      before.stack = .handleClose :: below → before.isOpen →
      before.Disconnected after (.closeCallback :: below) →
      Step before .handleClose after
  | closeCallback {below : List Frame} : before.stack = .closeCallback :: below →
      Step before .other { before with
        stack := below
        closeCallbacks := before.closeCallbacks + 1 }
  | connectDestroyed {below : List Frame} :
      before.stack = .connectDestroyed :: below → before.state = .kConnected →
      Step before .connectDestroyed { before with stack := .destroyConnected :: below }
  | destroyConnected {below : List Frame} {after : Control} :
      before.stack = .destroyConnected :: below →
      before.Disconnected after (.channelRemove :: below) → Step before .other after
  | connectDestroyedLate {below : List Frame} :
      before.stack = .connectDestroyed :: below → before.state ≠ .kConnected →
      Step before .connectDestroyed { before with stack := .channelRemove :: below }
  | channelRemove {below : List Frame} {inKernel inMap : Bool} :
      before.stack = .channelRemove :: below →
      (before.eventHandling = true →
        below.any Frame.isHandleEvent = true ∨ before.activity = .absent) →
      Step before .other { before with
        stack := below
        index := .kNew
        inKernel := inKernel
        inMap := inMap
        removed := true }

/-! ## What the poller knows -/

structure Registered (control : Control) : Prop where
  connecting : control.state = .kConnecting → control.stack = [.connectEstablished]
  setting : ∀ thread, control.setting thread ≠ none → control.state ≠ .kConnecting
  known : control.state ≠ .kConnecting → control.removed = false →
    control.index ≠ .kNew ∧ control.inMap = true
  deleted : control.index = .kDeleted →
    control.events = .kNoneEvent ∧ control.inKernel = false

variable {before after : Control} {label : Label}

theorem Registered.updated {events : PollEvents} (registered : before.Registered)
    (updated : before.Updated after events) : after.Registered := by
  rcases updated with ⟨index, inKernel, known, _, deleted, rfl⟩
  exact {
    connecting := registered.connecting
    setting := registered.setting
    known := fun _ _ => ⟨by rcases known with rfl | rfl <;> simp, rfl⟩
    deleted := deleted }

def registration (control : Control) :
    StateE × (ThreadId → Option (Option ConnectionFunctor)) × Bool × PollEvents ×
      ChannelIndex × Bool × Bool :=
  (control.state, control.setting, control.removed, control.events, control.index,
    control.inKernel, control.inMap)

theorem called_registration (callback : Channel.Callback)
    (rest : List Channel.Callback) (below : List Frame) :
    (before.called callback rest below).registration = before.registration := by
  cases callback <;> rfl

theorem Registered.notConnecting (registered : before.Registered)
    (stack : before.stack ≠ [.connectEstablished]) : before.state ≠ .kConnecting :=
  fun connecting => stack (registered.connecting connecting)

/-- After `connectEstablished` the stack does not matter. -/
theorem Registered.restack (registered : before.Registered)
    (stack : before.stack ≠ [.connectEstablished])
    (same : after.registration = before.registration) : after.Registered := by
  simp only [registration, Prod.mk.injEq] at same
  rcases same with ⟨state, setting, removed, events, index, inKernel, inMap⟩
  refine ⟨fun connecting => ?_, ?_, ?_, ?_⟩
  · exact absurd (state ▸ connecting) (registered.notConnecting stack)
  · rw [state, setting]
    exact registered.setting
  · rw [state, removed, index, inMap]
    exact registered.known
  · rw [index, events, inKernel]
    exact registered.deleted

theorem Registered.setState {state : StateE} (registered : before.Registered)
    (established : before.state ≠ .kConnecting) (notConnecting : state ≠ .kConnecting) :
    Registered { before with state } where
  connecting connecting := absurd connecting notConnecting
  setting _ _ := notConnecting
  known _ running := registered.known established running
  deleted := registered.deleted

theorem Registered.set (registered : before.Registered) (established : before.state ≠ .kConnecting)
    (setting : ThreadId → Option (Option ConnectionFunctor)) :
    Registered { before with setting } where
  connecting := registered.connecting
  setting _ _ := established
  known := registered.known
  deleted := registered.deleted

theorem isOpen.established (isOpen : before.isOpen) : before.state ≠ .kConnecting := by
  rcases isOpen with connected | disconnecting
  · simp [connected]
  · simp [disconnecting]

theorem isOpen.notClosed (isOpen : before.isOpen) : before.state ≠ .kDisconnected := by
  rcases isOpen with connected | disconnecting
  · simp [connected]
  · simp [disconnecting]

theorem isOpen_of_ne (established : before.state ≠ .kConnecting)
    (notClosed : before.state ≠ .kDisconnected) : before.isOpen := by
  unfold isOpen
  cases state : before.state with
  | kDisconnected => exact absurd state notClosed
  | kConnecting => exact absurd state established
  | kConnected => exact .inl rfl
  | kDisconnecting => exact .inr rfl

theorem Registered.disconnected {below : List Frame} (registered : before.Registered)
    (established : before.state ≠ .kConnecting)
    (disconnected : before.Disconnected after below) : after.Registered := by
  rcases disconnected with ⟨middle, updated, rfl⟩
  have middleRegistered := (registered.setState established (by simp)).updated updated
  rcases updated with ⟨index, inKernel, known, removes, deleted, rfl⟩
  exact {
    connecting := by simp
    setting := by simp
    known := middleRegistered.known
    deleted := middleRegistered.deleted }

theorem Step.registered (stepped : before.Step label after)
    (registered : before.Registered) : after.Registered := by
  cases stepped with
  | same => exact registered
  | disconnecting isOpen => exact registered.setState isOpen.established (by simp)
  | beginSetting thread functor isOpen => exact registered.set isOpen.established _
  | setDisconnecting tested =>
      have disconnecting := registered.setState (registered.setting _ tested)
        (show StateE.kDisconnecting ≠ .kConnecting by simp)
      exact disconnecting.set (by simp) _
  | enableWriting _ updated | startRead updated | stopRead updated =>
      exact registered.updated updated
  | pollOthers stack | poll revents stack | dispatch stack | endEvents stack | forceClose stack
  | destroyLater stack | readNothing stack | readData stack | closeCallback stack
  | connectDestroyed stack | connectDestroyedLate stack =>
      exact registered.restack (by simp [stack]) rfl
  | destroyServer userCode =>
      refine registered.restack (fun stack => ?_) rfl
      simp [stack, Frame.runsUserCode] at userCode
  | connectEstablished stack connecting updated =>
      rcases updated with ⟨index, inKernel, known, removes, deleted, rfl⟩
      exact {
        connecting := by simp
        setting := by simp
        known := fun _ _ => ⟨by rcases known with rfl | rfl <;> simp, rfl⟩
        deleted := deleted }
  | finish stack mayFinish =>
      refine registered.restack (fun connecting => ?_) rfl
      rw [stack] at connecting
      cases connecting
      cases mayFinish
  | nextCallback stack =>
      exact registered.restack (by simp [stack]) (called_registration _ _ _)
  | disableWriting stack _ updated =>
      refine Registered.updated ?_ updated
      exact registered.restack (by simp [stack]) rfl
  | handleClose stack _ disconnected | destroyConnected stack disconnected =>
      exact registered.disconnected (registered.notConnecting (by simp [stack])) disconnected
  | channelRemove stack =>
      exact {
        connecting := fun connecting =>
          absurd connecting (registered.notConnecting (by simp [stack]))
        setting := registered.setting
        known := by simp
        deleted := by simp }

/-- A closed connection's channel has no interest. -/
def Quiet (control : Control) : Prop :=
  control.state = .kDisconnected → control.events = .kNoneEvent

theorem Quiet.updated {events : PollEvents}
    (quiet : before.state = .kDisconnected → events = .kNoneEvent)
    (updated : before.Updated after events) : after.Quiet := by
  rcases updated with ⟨index, inKernel, known, removes, deleted, rfl⟩
  exact quiet

theorem Disconnected.noInterest {below : List Frame}
    (disconnected : before.Disconnected after below) : after.events = .kNoneEvent := by
  rcases disconnected with ⟨_, ⟨index, inKernel, known, removes, deleted, rfl⟩, rfl⟩
  rfl

theorem Step.quiet (stepped : before.Step label after)
    (reads : label = .startRead → before.state ≠ .kDisconnected) (quiet : before.Quiet) :
    after.Quiet := by
  cases stepped with
  | same | pollOthers | poll | dispatch | endEvents | forceClose | destroyLater
  | destroyServer | finish | readNothing | readData | closeCallback | beginSetting
  | connectDestroyed | connectDestroyedLate | channelRemove => exact quiet
  | disconnecting | setDisconnecting =>
      intro closed
      cases closed
  | enableWriting notClosed updated =>
      exact .updated (fun closed => absurd closed notClosed) updated
  | startRead updated => exact .updated (fun closed => absurd closed (reads rfl)) updated
  | stopRead updated | disableWriting _ _ updated =>
      exact .updated (fun closed => by rw [quiet closed]; rfl) updated
  | connectEstablished _ _ updated =>
      rcases updated with ⟨index, inKernel, known, removes, deleted, rfl⟩
      intro closed
      cases closed
  | @nextCallback callback => cases callback <;> exact quiet
  | handleClose _ _ disconnected | destroyConnected _ disconnected =>
      exact fun _ => disconnected.noInterest

end Control

namespace ConnectionSystem

variable {system next : ConnectionSystem}

def control (system : ConnectionSystem) : Control where
  state := system.connection.state
  setting := system.setting
  stack := system.stack
  activity := system.activity
  eventHandling := system.eventHandling
  removed := system.removed
  events := system.connection.channel.events
  revents := system.connection.channel.revents
  index := system.connection.channel.index
  inKernel := (system.poller.kernel system.connection.channel.fd).isSome
  inMap := system.poller.channels system.connection.channel.fd =
    some system.connection.channel.address
  connectionCallbacks := system.history.connectionCallbacks
  handleCloses := system.history.handleCloses
  closeCallbacks := system.history.closeCallbacks

theorem withChannel_control {events : PollEvents}
    {operation : Channel → EPollPoller → Checked (Channel × EPollPoller)}
    (updates : operation system.connection.channel system.poller =
      { system.connection.channel with events }.update system.poller)
    (ran : system.withChannel operation = .ok next) :
    system.control.Updated next.control events := by
  rcases withChannel_ok ran with ⟨channel, poller, operated, result⟩
  subst result
  rw [updates] at operated
  have updated := Channel.update_updated operated
  refine ⟨channel.index, (poller.kernel channel.fd).isSome, updated.index,
    updated.deleted, ?_, ?_⟩
  · intro deleted
    have kernel := updated.kernel deleted
    simp only at kernel
    simp [updated.fd, kernel]
  · have channels := updated.channels
    simp only at channels
    simp [control, updated.events, updated.revents, updated.fd, updated.address, channels]

theorem enableReading_control (ran : system.withChannel Channel.enableReading = .ok next) :
    system.control.Updated next.control (system.control.events.union .kReadEvent) :=
  withChannel_control rfl ran

theorem disableReading_control
    (ran : system.withChannel Channel.disableReading = .ok next) :
    system.control.Updated next.control (system.control.events.without .kReadEvent) :=
  withChannel_control rfl ran

theorem enableWriting_control (ran : system.withChannel Channel.enableWriting = .ok next) :
    system.control.Updated next.control (system.control.events.union .kWriteEvent) :=
  withChannel_control rfl ran

theorem disableWriting_control
    (ran : system.withChannel Channel.disableWriting = .ok next) :
    system.control.Updated next.control (system.control.events.without .kWriteEvent) :=
  withChannel_control rfl ran

theorem disableAll_control (ran : system.withChannel Channel.disableAll = .ok next) :
    system.control.Updated next.control .kNoneEvent :=
  withChannel_control rfl ran

@[simp] theorem pushIf_control (due : Bool) (functor : ConnectionFunctor) :
    (system.pushIf due functor).control = system.control := by
  cases due <;> rfl

@[simp] theorem shutdownInLoop_control :
    system.shutdownInLoop.control = system.control := by
  unfold shutdownInLoop
  split <;> rfl

theorem bufferRemaining_control {remaining : List UInt8}
    (ran : system.bufferRemaining remaining = .ok next) :
    next.control = system.control ∨
      system.control.Updated next.control (system.control.events.union .kWriteEvent) := by
  unfold bufferRemaining at ran
  dsimp only at ran
  generalize notifiedEq : system.pushIf _ _ = notified at ran
  have same : notified.control = system.control := by
    rw [← notifiedEq, pushIf_control]
  rw [← same]
  rcases Checked.bind_eq_ok_iff.mp ran with ⟨outputBuffer, _, result⟩
  split at result
  · cases result
    exact .inl rfl
  · have updated := enableWriting_control result
    exact .inr updated

theorem finishSend_control {faultError : Bool} {remaining : List UInt8}
    (ran : system.finishSend faultError remaining = .ok next) :
    next.control = system.control ∨
      system.control.Updated next.control (system.control.events.union .kWriteEvent) := by
  unfold finishSend at ran
  split at ran
  · exact bufferRemaining_control ran
  · cases ran
    exact .inl rfl

/-- A message changes nothing once the connection is closed, and otherwise at
most the interest in writing. -/
theorem sendInLoop_control {sender : Caller} {data : List UInt8} {result : WriteResult}
    (ran : system.sendInLoop sender data result = .ok next) :
    next.control = system.control ∨ system.control.state ≠ .kDisconnected ∧
      system.control.Updated next.control (system.control.events.union .kWriteEvent) := by
  unfold sendInLoop at ran
  split at ran
  · cases ran
    exact .inl rfl
  · rename_i isOpen
    rw [Checked.check_bind_of (by simp)] at ran
    rcases Checked.bind_eq_ok_iff.mp ran with ⟨finished, finishedRan, recorded⟩
    cases recorded
    rcases finishSend_control finishedRan with same | updated
    · rw [pushIf_control] at same
      exact .inl same
    · rw [pushIf_control] at updated
      exact .inr ⟨isOpen, updated⟩

theorem handleWrite_control {below : List Frame} {result : WriteResult}
    (ran : system.handleWrite below result = .ok next) :
    next.control = { system.control with stack := below } ∨
      system.control.events.pollOut = true ∧
        Control.Updated { system.control with stack := below } next.control
          (system.control.events.without .kWriteEvent) := by
  unfold handleWrite at ran
  split at ran
  · rename_i writing
    rcases Checked.bind_eq_ok_iff.mp ran with ⟨outputBuffer, _, afterRetrieve⟩
    dsimp only at afterRetrieve
    split at afterRetrieve
    · rcases Checked.bind_eq_ok_iff.mp afterRetrieve with ⟨drained, disabled, result⟩
      right
      refine ⟨writing.1, ?_⟩
      have updated := disableWriting_control disabled
      split at result
      · cases result
        rw [shutdownInLoop_control, pushIf_control]
        exact updated
      · cases result
        rw [pushIf_control]
        exact updated
    · cases afterRetrieve
      exact .inl rfl
  · cases ran
    exact .inl rfl

theorem callConnectionCallback_control : system.callConnectionCallback.control =
    { system.control with
      stack := .connectionCallback :: system.control.stack
      connectionCallbacks := system.control.connectionCallbacks ++
        [decide (system.control.state = .kConnected)] } :=
  rfl

theorem disconnect_control {below : List Frame}
    (ran : system.disconnect below = .ok next) :
    system.control.Disconnected next.control below := by
  rcases Checked.bind_eq_ok_iff.mp ran with ⟨disabled, disabledRan, result⟩
  cases result
  rcases disableAll_control disabledRan with ⟨index, inKernel, known, removes, deleted, after⟩
  refine ⟨_, ⟨index, inKernel, known, removes, deleted, rfl⟩, ?_⟩
  rw [callConnectionCallback_control, after]
  rfl

theorem connectEstablished_control {below : List Frame}
    (ran : system.connectEstablished below = .ok next) :
    system.control.state = .kConnecting ∧
      ∃ middle, Control.Updated { system.control with state := .kConnected } middle
          (system.control.events.union .kReadEvent) ∧
        next.control = { middle with
          stack := .connectionCallback :: below
          connectionCallbacks := system.control.connectionCallbacks ++ [true] } := by
  rcases Checked.check_bind_eq_ok_iff.mp ran with ⟨connecting, enabling⟩
  rcases Checked.bind_eq_ok_iff.mp enabling with ⟨enabled, enabledRan, result⟩
  cases result
  rcases enableReading_control enabledRan with
    ⟨index, inKernel, known, removes, deleted, after⟩
  refine ⟨connecting, _, ⟨index, inKernel, known, removes, deleted, rfl⟩, ?_⟩
  rw [callConnectionCallback_control, after]
  rfl

theorem channelRemove_control {below : List Frame}
    (ran : system.channelRemove below = .ok next) :
    (system.control.eventHandling = true →
        below.any Frame.isHandleEvent = true ∨ system.control.activity = .absent) ∧
      ∃ inKernel inMap, next.control = { system.control with
        stack := below
        index := .kNew
        inKernel := inKernel
        inMap := inMap
        removed := true } := by
  rcases Checked.check_bind_eq_ok_iff.mp ran with ⟨_, removing⟩
  rcases Checked.bind_eq_ok_iff.mp removing with ⟨removed, removedRan, result⟩
  cases result
  rcases Checked.check_bind_eq_ok_iff.mp removedRan with ⟨permitted, erasing⟩
  rcases Checked.bind_eq_ok_iff.mp erasing with ⟨⟨channel, poller⟩, erased, result⟩
  cases result
  rw [EPollPoller.removeChannel_channel erased]
  exact ⟨permitted, _, _, rfl⟩

/-! ## Every step -/

/-- `startReadInLoop` and `stopReadInLoop` count only if they change something. -/
def functorLabel (connection : TcpConnection) : ConnectionFunctor → Control.Label
  | .startReadInLoop =>
      if connection.reading = false ∨ connection.channel.isReading = false then
        .startRead
      else
        .other
  | .stopReadInLoop =>
      if connection.reading = true ∨ connection.channel.isReading = true then
        .stopRead
      else
        .other
  | .sendInLoop _ _ | .shutdownInLoop | .forceCloseInLoop | .connectDestroyed
  | .writeCompleteCallback | .highWaterMarkCallback _ => .other

def label (system : ConnectionSystem) : Action → Control.Label
  | .setDisconnecting _ => .setDisconnecting
  | .call none .startRead _ => functorLabel system.connection .startReadInLoop
  | .call none .stopRead _ => functorLabel system.connection .stopReadInLoop
  | .runFunctor _ =>
      match system.functors.functors.head? with
      | some functor => functorLabel system.connection functor
      | none => .other
  | .poll (some reported) => .poll reported
  | .handleClose => .handleClose
  | .connectDestroyed => .connectDestroyed
  | .destroyServer true => if system.inConnections then .destroyServer else .other
  | _ => .other

theorem runsUserCode_iff : system.runsUserCode = true ↔
    ∀ frame ∈ system.stack.head?, frame.runsUserCode = true := by
  unfold runsUserCode
  cases system.stack with
  | nil => simp
  | cons frame below => simp

theorem pendingCallbacks_eq_some {callbacks : List Channel.Callback}
    (pending : system.pendingCallbacks = some callbacks) :
    system.stack = .handleEvent callbacks :: system.stack.tail := by
  unfold pendingCallbacks at pending
  split at pending
  · rename_i rest below stack
    cases pending
    simp [stack]
  · cases pending

theorem cons_of_head? {frame : Frame} (head : system.stack.head? = some frame) :
    system.stack = frame :: system.stack.tail := by
  cases stack : system.stack with
  | nil => simp [stack] at head
  | cons first below =>
      rw [stack] at head
      cases head
      rfl

theorem sendInLoop_step {sender : Caller} {data : List UInt8} {result : WriteResult}
    (ran : system.sendInLoop sender data result = .ok next) :
    system.control.Step .other next.control := by
  rcases sendInLoop_control ran with same | ⟨isOpen, updated⟩
  · rw [same]
    exact .same _
  · exact .enableWriting isOpen updated

theorem startReadInLoop_step (ran : system.startReadInLoop = .ok next) :
    system.control.Step (functorLabel system.connection .startReadInLoop)
      next.control := by
  unfold startReadInLoop at ran
  unfold functorLabel
  split at ran
  · rename_i changes
    rw [if_pos changes]
    rcases Checked.bind_eq_ok_iff.mp ran with ⟨enabled, enabledRan, result⟩
    cases result
    have updated := enableReading_control enabledRan
    exact .startRead updated
  · cases ran
    exact .same _

theorem stopReadInLoop_step (ran : system.stopReadInLoop = .ok next) :
    system.control.Step (functorLabel system.connection .stopReadInLoop)
      next.control := by
  unfold stopReadInLoop at ran
  unfold functorLabel
  split at ran
  · rename_i changes
    rw [if_pos changes]
    rcases Checked.bind_eq_ok_iff.mp ran with ⟨disabled, disabledRan, result⟩
    cases result
    have updated := disableReading_control disabledRan
    exact .stopRead updated
  · cases ran
    exact .same _

theorem call_step {caller : Caller} {call : Call} {result : WriteResult}
    (ran : system.step (.call caller call result) = .ok next) :
    system.control.Step (system.label (.call caller call result)) next.control := by
  cases call with
  | send message =>
      simp only [step, send] at ran
      split at ran
      · cases caller with
        | none =>
            simp only [runInLoop, runFunctor] at ran
            have stepped := sendInLoop_step ran
            exact stepped
        | some thread =>
            cases ran
            exact .same _
      · cases ran
        cases caller <;> exact .same _
  | shutdown =>
      simp only [step, shutdown] at ran
      split at ran
      · rename_i connected
        cases caller with
        | none =>
            cases ran
            rw [shutdownInLoop_control]
            exact .disconnecting (.inl connected)
        | some thread =>
            cases ran
            exact .beginSetting thread _ (.inl connected)
      · cases ran
        cases caller <;> exact .same _
  | forceClose =>
      cases ran
      unfold forceClose
      split
      · rename_i isOpen
        cases caller with
        | none => exact .disconnecting isOpen
        | some thread => exact .beginSetting thread _ isOpen
      · cases caller <;> exact .same _
  | forceCloseWithDelay =>
      cases ran
      unfold forceCloseWithDelay
      split
      · rename_i isOpen
        cases caller with
        | none => exact .disconnecting isOpen
        | some thread => exact .beginSetting thread _ isOpen
      · cases caller <;> exact .same _
  | startRead =>
      cases caller with
      | none => exact startReadInLoop_step ran
      | some thread =>
          cases ran
          exact .same _
  | stopRead =>
      cases caller with
      | none => exact stopReadInLoop_step ran
      | some thread =>
          cases ran
          exact .same _

theorem runFunctor_step {result : WriteResult} (idle : system.Idle)
    (ran : system.step (.runFunctor result) = .ok next) :
    system.control.Step (system.label (.runFunctor result)) next.control := by
  simp only [step] at ran
  split at ran
  · rename_i functor rest taken
    have first : system.functors.functors.head? = some functor := by
      simp [(FunctorQueue.next_eq_some_iff.mp taken).1]
    simp only [label, first]
    cases functor with
    | sendInLoop sender message =>
        have stepped := sendInLoop_step ran
        exact stepped
    | shutdownInLoop =>
        cases ran
        rw [shutdownInLoop_control]
        exact .same _
    | forceCloseInLoop =>
        cases ran
        by_cases isOpen : system.control.isOpen
        · have emptyStack : system.control.stack = [] := idle.1
          have closing := Control.Step.forceClose emptyStack idle.2 isOpen
          rw [forceCloseInLoop, if_pos (by exact isOpen)]
          simpa [functorLabel, control, enterHandleClose, enter, idle.1] using closing
        · rw [forceCloseInLoop, if_neg (by exact isOpen)]
          exact .same _
    | startReadInLoop =>
        have stepped := startReadInLoop_step ran
        exact stepped
    | stopReadInLoop =>
        have stepped := stopReadInLoop_step ran
        exact stepped
    | connectDestroyed =>
        cases ran
        have emptyStack : system.control.stack = [] := idle.1
        have destroying := Control.Step.destroyLater emptyStack idle.2
        simpa [functorLabel, control, enter, idle.1] using destroying
    | writeCompleteCallback | highWaterMarkCallback size =>
        cases ran
        exact .same _
  · cases ran
    exact .same _

theorem handleRead_step {result : Except Errno (List UInt8)}
    (head : system.stack.head? = some .handleRead)
    (ran : system.handleRead system.stack.tail result = .ok next) :
    system.control.Step .other next.control := by
  have stack : system.control.stack = .handleRead :: system.stack.tail := cons_of_head? head
  unfold handleRead at ran
  split at ran
  · cases ran
    exact .readNothing stack
  · rcases Checked.bind_eq_ok_iff.mp ran with ⟨inputBuffer, _, result⟩
    cases result
    exact .readData stack
  · cases ran
    exact .finish stack rfl

theorem poll_step {reported : Option PollEvents} (allowed : system.Allowed (.poll reported))
    (ran : system.step (.poll reported) = .ok next) :
    system.control.Step (system.label (.poll reported)) next.control := by
  rcases allowed with ⟨_, allowed⟩
  cases reported with
  | none =>
      cases ran
      exact .pollOthers allowed.1.1 allowed.1.2
  | some revents =>
      rcases allowed with ⟨idle, _, registered, present, _⟩
      simp only [step, poll, Checked.check_bind_eq_ok_iff] at ran
      cases ran.2.2
      have inKernel : system.control.inKernel = true := by
        simpa [control] using Option.isSome_of_mem present
      exact .poll revents idle.1 idle.2 inKernel

theorem nextCallback_step (allowed : system.Allowed .nextCallback)
    (ran : system.step .nextCallback = .ok next) :
    system.control.Step .other next.control := by
  rcases allowed with ⟨_, callbacks, pending, nonempty⟩
  have stack := pendingCallbacks_eq_some pending
  cases callbacks with
  | nil => exact absurd rfl nonempty
  | cons callback rest =>
      simp only [step, Option.mem_def.mp pending] at ran
      cases ran
      have called : Control.Step system.control .other _ := .nextCallback stack
      cases callback <;> exact called

theorem destroyServer_step {inLoopThread : Bool}
    (allowed : system.Allowed (.destroyServer inLoopThread)) :
    system.control.Step (system.label (.destroyServer inLoopThread))
      (system.destroyServer inLoopThread).control := by
  cases inLoopThread with
  | false =>
      simp only [destroyServer]
      split <;> exact .same _
  | true =>
      simp only [destroyServer, label]
      split
      · exact .destroyServer (runsUserCode_iff.mp (allowed.2.2 rfl))
      · exact .same _

theorem step_control {action : Action} (allowed : system.Allowed action)
    (ran : system.step action = .ok next) :
    system.control.Step (system.label action) next.control := by
  have whole := allowed
  rcases allowed with ⟨_, allowed⟩
  cases action with
  | call caller call result => exact call_step ran
  | setDisconnecting thread =>
      cases ran
      unfold setDisconnecting
      split
      · exact .setDisconnecting allowed
      · exact .same _
  | push thread =>
      simp only [step] at ran
      split at ran
      · cases ran
        exact .same _
      · cases ran
        exact .same _
  | retrieveInput len =>
      rcases Checked.bind_eq_ok_iff.mp ran with ⟨inputBuffer, _, result⟩
      cases result
      exact .same _
  | poll reported => exact poll_step whole ran
  | dispatch =>
      cases ran
      have dispatched : Control.Step system.control .other _ := .dispatch allowed.1 allowed.2
      simpa [label, control, dispatch, enter, setEventHandling, allowed.1] using dispatched
  | endEvents =>
      cases ran
      exact .endEvents allowed.1 allowed.2.2
  | swapFunctors | removeConnectionInLoop =>
      cases ran
      exact .same _
  | runFunctor result => exact runFunctor_step allowed.1 ran
  | connectEstablished =>
      rcases connectEstablished_control ran with ⟨connecting, middle, updated, after⟩
      rw [after]
      exact .connectEstablished (cons_of_head? allowed) connecting updated
  | returnCallback =>
      cases ran
      rcases allowed with ⟨frame, head, userCode⟩
      exact .finish (cons_of_head? head) (Frame.mayFinish_of_runsUserCode userCode)
  | nextCallback => exact nextCallback_step whole ran
  | finishEvent =>
      cases ran
      exact .finish (pendingCallbacks_eq_some allowed) rfl
  | handleRead result => exact handleRead_step allowed.1 ran
  | handleWrite result =>
      rcases handleWrite_control ran with same | ⟨writing, updated⟩
      · rw [same]
        exact .finish (cons_of_head? allowed.1) rfl
      · exact .disableWriting (cons_of_head? allowed.1) writing updated
  | handleClose =>
      rcases Checked.check_bind_eq_ok_iff.mp ran with ⟨isOpen, disconnecting⟩
      exact .handleClose (cons_of_head? allowed) isOpen (disconnect_control disconnecting)
  | closeCallback =>
      simp only [step, closeCallback] at ran
      split at ran
      · cases ran
        exact .closeCallback (cons_of_head? allowed)
      · cases ran
  | connectDestroyed =>
      cases ran
      unfold connectDestroyed
      split
      · rename_i connected
        exact .connectDestroyed (cons_of_head? allowed) connected
      · rename_i notConnected
        exact .connectDestroyedLate (cons_of_head? allowed) notConnected
  | destroyConnected => exact .destroyConnected (cons_of_head? allowed) (disconnect_control ran)
  | channelRemove =>
      rcases channelRemove_control ran with ⟨permitted, inKernel, inMap, after⟩
      rw [after]
      exact .channelRemove (cons_of_head? allowed) permitted
  | destroyServer inLoopThread =>
      cases ran
      exact destroyServer_step whole

theorem Initial.control (initial : system.Initial) : system.control = {
    state := .kConnecting
    setting := fun _ => none
    stack := [.connectEstablished]
    activity := .absent
    eventHandling := false
    removed := false
    events := .kNoneEvent
    revents := .kNoneEvent
    index := .kNew
    inKernel := false
    inMap := false
    connectionCallbacks := []
    handleCloses := 0
    closeCallbacks := 0 } := by
  rcases initial with
    ⟨address, fd, highWaterMark, _, _, buffer, poller, _, channels, kernel, rfl⟩
  simp [ConnectionSystem.control, create, Channel.create, channels, kernel]

end ConnectionSystem

end Ccnet.Net
