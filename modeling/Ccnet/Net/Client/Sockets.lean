import Ccnet.Net.Client.Connector

/-! # The connector's sockets

A descriptor that the connector has opened belongs to the registered channel, to the
function that is about to dispose of it, to the connection it was handed to, or to
nobody because it is closed. -/

namespace Ccnet.Net

/-- The descriptor that an unfinished call has still to dispose of. -/
def ConnectorFrame.sockfd? : ConnectorFrame → Option Nat
  | .retry sockfd | .connected sockfd => some sockfd
  | .startInLoop | .newConnectionCallback _ | .handleEvent _ => none

/-- The channel is in the poller and waits for the connection to be writable. -/
structure Channel.Connecting (channel : Channel) (poller : EPollPoller) : Prop where
  index : channel.index = .kAdded
  events : channel.events = .kWriteEvent
  channels : poller.channels channel.fd = some channel.address
  kernel : poller.kernel channel.fd = some (.kWriteEvent, channel.address)

/-- The channel is out of the poller and waits for `resetChannel`. -/
structure Channel.Removed (channel : Channel) (poller : EPollPoller) : Prop where
  addedToLoop : channel.addedToLoop = false
  channels : poller.channels channel.fd ≠ some channel.address
  kernel : ∀ registered ∈ poller.kernel channel.fd, registered.2 ≠ channel.address

namespace Channel

variable {channel : Channel} {poller : EPollPoller}

theorem create_enableWriting (address : Nat) {fd : Nat} (absent : poller.channels fd = none)
    (unwatched : poller.kernel fd = none) :
    ∃ channel after, (create address fd).enableWriting poller = .ok (channel, after) ∧
      channel.fd = fd ∧ channel.eventHandling = false ∧ channel.Connecting after := by
  have known : Known { create address fd with
      events := (create address fd).events.union .kWriteEvent } poller :=
    ⟨fun _ => absent, fun added => absurd rfl added, by simp [create, unwatched]⟩
  refine ⟨_, _, update_eq known, rfl, rfl, rfl, rfl, ?_, ?_⟩
  · simp [create]
  · simp [create, registration, nextIndex]
    decide

/-- What `disableAll` and `remove` do to a channel that is waiting. -/
theorem Connecting.disableAll (connecting : channel.Connecting poller) :
    ∃ disabled after, channel.disableAll poller = .ok (disabled, after) ∧
      ∃ removed final, disabled.remove after = .ok (removed, final) ∧
        removed.fd = channel.fd ∧ removed.eventHandling = channel.eventHandling ∧
        removed.Removed final := by
  have known : Known { channel with events := .kNoneEvent } poller := by
    refine ⟨?_, fun _ => connecting.channels, ?_⟩
    · simp [connecting.index]
    · simp [connecting.index, connecting.kernel]
  have index : nextIndex { channel with events := .kNoneEvent } = .kDeleted := by
    simp [nextIndex, connecting.index, isNoneEvent]
  refine ⟨_, _, update_eq known, ?_⟩
  rw [index]
  have stillKnown : Known
      { channel with events := .kNoneEvent, addedToLoop := true, index := .kDeleted }
      { poller with
        channels := Function.update poller.channels channel.fd (some channel.address)
        kernel := Function.update poller.kernel channel.fd
          (registration { channel with events := .kNoneEvent } .kDeleted) } := by
    refine ⟨by simp, by simp, by simp [registration]⟩
  exact ⟨_, _, remove_eq stillKnown (by simp) (by simp [isNoneEvent]), rfl, rfl, rfl, by simp,
    by simp⟩

end Channel

namespace ConnectorSystem

variable {system next : ConnectorSystem}

/-- What the innermost unfinished call has to dispose of. -/
def disposing (system : ConnectorSystem) : Option Nat :=
  system.stack.head?.bind ConnectorFrame.sockfd?

/-- The descriptor that the connector is responsible for. -/
def holder (system : ConnectorSystem) : Option Nat :=
  match system.disposing with
  | some sockfd => some sockfd
  | none =>
      if system.connector.state = .kConnecting then system.connector.channel.map Channel.fd
      else none

/-- How many calls of `resetChannel` are queued. -/
def resets (system : ConnectorSystem) : Nat :=
  system.functors.outstanding.count .resetChannel

structure Attached (system : ConnectorSystem) (channel : Channel) : Prop where
  isChannel : system.connector.channel = some channel
  connecting : channel.Connecting system.poller
  resets : system.resets = 0

structure Detached (system : ConnectorSystem) : Prop where
  resets : system.resets = system.connector.channel.toList.length
  removed : ∀ channel ∈ system.connector.channel, channel.Removed system.poller

/-- What holds of the retry delay and of the queues whatever the state is. -/
structure Steady (system : ConnectorSystem) : Prop where
  delay : system.connector.retryDelayMs =
    min (Connector.kInitRetryDelayMs * 2 ^ system.retries) Connector.kMaxRetryDelayMs
  pushing : ∀ entry ∈ system.pushing, entry.2 = .startInLoop ∨ entry.2 = .stopInLoop
  batch : system.phase ≠ .runningFunctors → system.functors.functors = []

structure Sound (system : ConnectorSystem) : Prop extends Steady system where
  /-- Only the innermost call has a descriptor to dispose of. -/
  below : ∀ frame ∈ system.stack.tail, frame.sockfd? = none
  connected : ∀ sockfd, system.stack.head? = some (.connected sockfd) →
    system.connector.state = .kConnected
  attached : system.connector.state = .kConnecting → system.disposing = none →
    ∃ channel, system.Attached channel
  detached : system.connector.state ≠ .kConnecting ∨ system.disposing ≠ none →
    system.Detached
  accounted : system.sockets.Accounted system.holder

/-! ## Steps that leave the sockets alone -/

/-- The two differ at most in `revents_` and `eventHandling_`. -/
structure SameChannel (before after : Channel) : Prop where
  fd : after.fd = before.fd
  address : after.address = before.address
  index : after.index = before.index
  events : after.events = before.events
  addedToLoop : after.addedToLoop = before.addedToLoop

theorem SameChannel.rfl {channel : Channel} : SameChannel channel channel :=
  ⟨.refl _, .refl _, .refl _, .refl _, .refl _⟩

theorem SameChannel.refl (channel : Option Channel) :
    Option.Rel SameChannel channel channel := by
  cases channel with
  | none => exact .none
  | some channel => exact .some .rfl

theorem SameChannel.map_fd {before after : Option Channel}
    (same : Option.Rel SameChannel before after) :
    after.map Channel.fd = before.map Channel.fd := by
  cases same with
  | none => exact Eq.refl _
  | some same => exact congrArg some same.fd

theorem SameChannel.length_toList {before after : Option Channel}
    (same : Option.Rel SameChannel before after) :
    after.toList.length = before.toList.length := by
  cases same <;> exact Eq.refl _

theorem SameChannel.exists_after {before after : Option Channel} {channel : Channel}
    (same : Option.Rel SameChannel before after) (isBefore : before = some channel) :
    ∃ found, after = some found ∧ SameChannel channel found := by
  cases same with
  | none => cases isBefore
  | some same =>
      cases isBefore
      exact ⟨_, .refl _, same⟩

theorem SameChannel.exists_before {before after : Option Channel} {channel : Channel}
    (same : Option.Rel SameChannel before after) (isAfter : after = some channel) :
    ∃ found, before = some found ∧ SameChannel found channel := by
  cases same with
  | none => cases isAfter
  | some same =>
      cases isAfter
      exact ⟨_, .refl _, same⟩

theorem SameChannel.connecting {before after : Channel} {poller : EPollPoller}
    (same : SameChannel before after) (connecting : before.Connecting poller) :
    after.Connecting poller where
  index := same.index.trans connecting.index
  events := same.events.trans connecting.events
  channels := by rw [same.fd, same.address, connecting.channels]
  kernel := by rw [same.fd, same.address, connecting.kernel]

theorem SameChannel.removed {before after : Channel} {poller : EPollPoller}
    (same : SameChannel before after) (removed : before.Removed poller) :
    after.Removed poller where
  addedToLoop := same.addedToLoop.trans removed.addedToLoop
  channels := by
    rw [same.fd, same.address]
    exact removed.channels
  kernel := by
    rw [same.fd, same.address]
    exact removed.kernel

/-- What the sockets depend on is unchanged. -/
structure SocketsKept (before after : ConnectorSystem) : Prop where
  state : after.connector.state = before.connector.state
  retryDelayMs : after.connector.retryDelayMs = before.connector.retryDelayMs
  channel : Option.Rel SameChannel before.connector.channel after.connector.channel
  poller : after.poller = before.poller
  resets : after.resets = before.resets
  sockets : after.sockets = before.sockets
  retries : after.retries = before.retries

theorem Sound.quiet (sound : system.Sound) (kept : SocketsKept system next)
    (disposing : next.disposing = system.disposing)
    (below : ∀ frame ∈ next.stack.tail, frame.sockfd? = none)
    (connected : ∀ sockfd, next.stack.head? = some (.connected sockfd) →
      system.stack.head? = some (.connected sockfd))
    (pushing : ∀ entry ∈ next.pushing, entry.2 = .startInLoop ∨ entry.2 = .stopInLoop)
    (batch : next.phase ≠ .runningFunctors → next.functors.functors = []) : next.Sound := by
  have steady : next.Steady := by
    refine ⟨?_, pushing, batch⟩
    rw [kept.retryDelayMs, kept.retries]
    exact sound.delay
  refine { steady with
    below := below, connected := ?_, attached := ?_, detached := ?_, accounted := ?_ }
  · intro sockfd top
    rw [kept.state]
    exact sound.connected sockfd (connected sockfd top)
  · intro connecting nothing
    rw [kept.state] at connecting
    rw [disposing] at nothing
    rcases sound.attached connecting nothing with ⟨channel, attached⟩
    rcases SameChannel.exists_after kept.channel attached.isChannel with ⟨after, isAfter, same⟩
    refine ⟨after, isAfter, ?_, by rw [kept.resets, attached.resets]⟩
    rw [kept.poller]
    exact same.connecting attached.connecting
  · intro either
    rw [kept.state, disposing] at either
    have detached := sound.detached either
    constructor
    · rw [kept.resets, detached.resets, SameChannel.length_toList kept.channel]
    · intro after isAfter
      rcases SameChannel.exists_before kept.channel isAfter with ⟨channel, isChannel, same⟩
      rw [kept.poller]
      exact same.removed (detached.removed channel isChannel)
  · have holder : next.holder = system.holder := by
      unfold holder
      rw [disposing, kept.state, SameChannel.map_fd kept.channel]
    rw [kept.sockets, holder]
    exact sound.accounted

/-- No unfinished call has a descriptor to dispose of. -/
def Calm (system : ConnectorSystem) : Prop :=
  ∀ frame ∈ system.stack, frame.sockfd? = none

theorem Calm.disposing (calm : system.Calm) : system.disposing = none := by
  unfold ConnectorSystem.disposing
  cases stack : system.stack with
  | nil => rfl
  | cons top rest => exact calm top (by rw [stack]; exact List.mem_cons_self)

theorem Sound.calm (sound : system.Sound) (userCode : system.runsUserCode = true) :
    system.Calm := by
  intro frame member
  simp only [runsUserCode, Bool.and_eq_true] at userCode
  have below := sound.below
  cases stack : system.stack with
  | nil =>
      rw [stack] at member
      cases member
  | cons top rest =>
      rw [stack] at member userCode below
      rcases List.mem_cons.mp member with rfl | later
      · cases frame with
        | newConnectionCallback sockfd => rfl
        | startInLoop | retry _ | connected _ | handleEvent _ => cases userCode.2
      · exact below frame later

/-- The same system, with a new call of `startInLoop` or with the same calls. -/
theorem Sound.enter_startInLoop (sound : system.Sound) (calm : system.Calm)
    (kept : SocketsKept system next) (stack : next.stack = .startInLoop :: system.stack)
    (pushing : next.pushing = system.pushing) (phase : next.phase = system.phase)
    (batch : system.functors.functors = [] → next.functors.functors = []) : next.Sound := by
  apply sound.quiet kept
  case disposing =>
    rw [calm.disposing]
    simp [disposing, stack, ConnectorFrame.sockfd?]
  case below =>
    rw [stack]
    exact calm
  case connected =>
    intro sockfd top
    rw [stack] at top
    cases top
  case pushing =>
    rw [pushing]
    exact sound.pushing
  case batch =>
    rw [phase]
    exact fun other => batch (sound.batch other)

theorem Sound.same_stack (sound : system.Sound) (kept : SocketsKept system next)
    (stack : next.stack = system.stack)
    (pushing : ∀ entry ∈ next.pushing, entry ∈ system.pushing ∨
      entry.2 = .startInLoop ∨ entry.2 = .stopInLoop)
    (batch : next.phase ≠ .runningFunctors → next.functors.functors = []) : next.Sound := by
  apply sound.quiet kept
  case disposing =>
    unfold disposing
    rw [stack]
  case below =>
    rw [stack]
    exact sound.below
  case connected =>
    rw [stack]
    exact fun _ top => top
  case pushing =>
    intro entry member
    rcases pushing entry member with old | new
    · exact sound.pushing entry old
    · exact new
  case batch => exact batch

/-! ## Opening and disposing -/

theorem holder_of_disposing {sockfd : Nat} (disposing : system.disposing = some sockfd) :
    system.holder = some sockfd := by
  simp [holder, disposing]

theorem holder_of_attached {channel : Channel} (attached : system.Attached channel)
    (connecting : system.connector.state = .kConnecting) (nothing : system.disposing = none) :
    system.holder = some channel.fd := by
  simp [holder, nothing, connecting, attached.isChannel]

theorem holder_eq_none (idle : system.connector.state ≠ .kConnecting)
    (nothing : system.disposing = none) : system.holder = none := by
  simp [holder, nothing, idle]

theorem Attached.removeAndResetChannel {channel : Channel} (attached : system.Attached channel) :
    ∃ removed poller, removed.fd = channel.fd ∧
      removed.eventHandling = channel.eventHandling ∧ removed.Removed poller ∧
      system.removeAndResetChannel = (do
        check (system.phase = .handlingEvents →
          system.isCurrent = true ∨ system.activity = .absent)
        return ({ (system.setChannel (some removed)).queueInLoop none .resetChannel with poller },
          channel.fd)) := by
  rcases attached.connecting.disableAll with ⟨disabled, after, disabling, removed, poller,
    removing, fd, eventHandling, isRemoved⟩
  refine ⟨removed, poller, fd, eventHandling, isRemoved, ?_⟩
  simp only [ConnectorSystem.removeAndResetChannel, attached.isChannel, disabling, removing,
    Checked.ok_bind]

/-- Nothing is held, and no attempt is under way. -/
theorem Sound.of_idle (steady : system.Steady) (calm : system.Calm)
    (idle : system.connector.state ≠ .kConnecting) (detached : system.Detached)
    (accounted : system.sockets.Accounted none) : system.Sound := by
  have nothing := calm.disposing
  refine { steady with
    below := fun frame member => calm frame (List.mem_of_mem_tail member)
    connected := ?_
    attached := fun connecting => absurd connecting idle
    detached := fun _ => detached
    accounted := ?_ }
  · intro sockfd top
    rw [disposing, top] at nothing
    cases nothing
  · rw [holder_eq_none idle nothing]
    exact accounted

/-- The innermost call has to dispose of a descriptor. -/
theorem Sound.of_disposing {frame : ConnectorFrame} {below : List ConnectorFrame}
    {sockfd : Nat} (steady : system.Steady) (stack : system.stack = frame :: below)
    (calm : ∀ frame ∈ below, frame.sockfd? = none) (holds : frame.sockfd? = some sockfd)
    (isConnected : ∀ sockfd, frame = .connected sockfd → system.connector.state = .kConnected)
    (detached : system.Detached) (accounted : system.sockets.Accounted (some sockfd)) :
    system.Sound := by
  have disposing : system.disposing = some sockfd := by
    simp [ConnectorSystem.disposing, stack, holds]
  refine { steady with
    below := by rw [stack]; exact calm
    connected := ?_
    attached := ?_
    detached := fun _ => detached
    accounted := by rw [holder_of_disposing disposing]; exact accounted }
  · intro other top
    rw [stack] at top
    exact isConnected other (Option.some.inj top)
  · intro _ none
    rw [disposing] at none
    cases none

/-- The channel waits for the connection. -/
theorem Sound.of_attached {channel : Channel} (steady : system.Steady) (calm : system.Calm)
    (connecting : system.connector.state = .kConnecting) (attached : system.Attached channel)
    (accounted : system.sockets.Accounted (some channel.fd)) : system.Sound := by
  have nothing := calm.disposing
  refine { steady with
    below := fun frame member => calm frame (List.mem_of_mem_tail member)
    connected := ?_
    attached := fun _ _ => ⟨channel, attached⟩
    detached := ?_
    accounted := by rw [holder_of_attached attached connecting nothing]; exact accounted }
  · intro sockfd top
    rw [disposing, top] at nothing
    cases nothing
  · rintro (other | some)
    · exact absurd connecting other
    · exact absurd nothing some

/-- The channel is taken out of the poller, and its descriptor has to be disposed of. -/
theorem Sound.detach {channel removed : Channel} {frame : ConnectorFrame}
    (sound : system.Sound) (attached : system.Attached channel)
    (connecting : system.connector.state = .kConnecting) (calm : system.Calm)
    (stack : next.stack = frame :: system.stack) (holds : frame.sockfd? = some channel.fd)
    (isConnected : ∀ sockfd, frame = .connected sockfd → next.connector.state = .kConnected)
    (isChannel : next.connector.channel = some removed) (isRemoved : removed.Removed next.poller)
    (functors : next.functors = system.functors.push .resetChannel)
    (sockets : next.sockets = system.sockets) (steady : next.Steady) : next.Sound := by
  refine .of_disposing steady stack calm holds isConnected ?_ ?_
  · constructor
    · have before : system.functors.outstanding.count .resetChannel = 0 := attached.resets
      simp [ConnectorSystem.resets, functors, isChannel, before]
    · intro found isFound
      rw [isChannel] at isFound
      cases isFound
      exact isRemoved
  · rw [sockets, ← holder_of_attached attached connecting calm.disposing]
    exact sound.accounted

/-- The three ways in which the `switch` over `errno` deals with a new descriptor. -/
theorem connect_cases (system : ConnectorSystem) {attempt : ConnectAttempt} {sockfd : Nat}
    (isSocket : attempt.sockfd = some sockfd) :
    let created := system.createNonblockingOrDie sockfd
    system.connect attempt = created.connecting attempt.address sockfd ∨
      system.connect attempt = .ok (created.enter (.retry sockfd)) ∨
      system.connect attempt = .ok (created.close sockfd) := by
  unfold ConnectorSystem.connect
  rw [isSocket]
  cases attempt.errno with
  | success | einprogress | eintr | eisconn => exact .inl rfl
  | eagain | eaddrinuse | eaddrnotavail | econnrefused | enetunreach => exact .inr (.inl rfl)
  | eacces | eperm | eafnosupport | ealready | ebadf | efault | enotsock | other =>
      exact .inr (.inr rfl)

theorem connecting_eq (system : ConnectorSystem) (address : Nat) {sockfd : Nat}
    (absent : system.poller.channels sockfd = none)
    (unwatched : system.poller.kernel sockfd = none) :
    ∃ channel poller, channel.fd = sockfd ∧ channel.eventHandling = false ∧
      channel.Connecting poller ∧ system.connecting address sockfd = (do
        check (system.connector.channel = none)
        return { (system.setState .kConnecting).setChannel (some channel) with poller }) := by
  rcases Channel.create_enableWriting address absent unwatched with
    ⟨channel, poller, enabled, fd, eventHandling, waiting⟩
  refine ⟨channel, poller, fd, eventHandling, waiting, ?_⟩
  have started : (Channel.create address sockfd).enableWriting
      (system.setState .kConnecting).poller = .ok (channel, poller) := enabled
  simp only [connecting, started, Checked.ok_bind]
  rfl

theorem Sound.connect (sound : system.Sound) (calm : system.Calm)
    (idle : system.connector.state = .kDisconnected) {attempt : ConnectAttempt}
    (fresh : ∀ sockfd ∈ attempt.sockfd, system.Fresh sockfd)
    (ran : system.connect attempt = .ok next) : next.Sound := by
  have notConnecting : system.connector.state ≠ .kConnecting := by
    rw [idle]
    simp
  have detached := sound.detached (.inl notConnecting)
  have accounted := sound.accounted
  rw [holder_eq_none notConnecting calm.disposing] at accounted
  cases isSocket : attempt.sockfd with
  | none =>
      simp only [ConnectorSystem.connect, isSocket] at ran
      cases ran
  | some sockfd =>
      rcases fresh sockfd isSocket with ⟨_, absent, unwatched⟩
      have opened := accounted.acquire sockfd
      rcases system.connect_cases isSocket with waits | retries | closes
      · rcases (system.createNonblockingOrDie sockfd).connecting_eq attempt.address absent
          unwatched with ⟨channel, poller, fd, _, waiting, eq⟩
        rw [waits, eq, Checked.check_bind_eq_ok_iff] at ran
        rcases ran with ⟨noChannel, ran⟩
        cases ran
        have noResets : system.resets = 0 := by
          have noChannel : system.connector.channel = none := noChannel
          rw [detached.resets, noChannel]
          rfl
        refine .of_attached ⟨sound.delay, sound.pushing, sound.batch⟩ calm rfl
          ⟨rfl, waiting, noResets⟩ ?_
        rw [fd]
        exact opened
      · rw [retries] at ran
        cases ran
        exact .of_disposing ⟨sound.delay, sound.pushing, sound.batch⟩ rfl calm rfl (by simp)
          ⟨detached.resets, detached.removed⟩ opened
      · rw [closes] at ran
        cases ran
        exact .of_idle ⟨sound.delay, sound.pushing, sound.batch⟩ calm notConnecting
          ⟨detached.resets, detached.removed⟩ opened.close

/-! ## What the loop thread goes on with -/

theorem Sound.calm_below {frame : ConnectorFrame} {below : List ConnectorFrame}
    (sound : system.Sound) (stack : system.stack = frame :: below) :
    ∀ frame ∈ below, frame.sockfd? = none := by
  have calm := sound.below
  rw [stack] at calm
  exact calm

/-- A call that has nothing to dispose of may be replaced by another such call. -/
theorem Sound.replace_top {frame : ConnectorFrame} {below stack : List ConnectorFrame}
    (sound : system.Sound) (isStack : system.stack = frame :: below)
    (nothing : frame.sockfd? = none) (calm : ∀ frame ∈ stack, frame.sockfd? = none) :
    Sound { system with stack } := by
  have quiet : Calm { system with stack } := calm
  have kept : SocketsKept system { system with stack } :=
    ⟨rfl, rfl, SameChannel.refl _, rfl, rfl, rfl, rfl⟩
  apply sound.quiet kept
  case disposing =>
    rw [quiet.disposing]
    simp [disposing, isStack, nothing]
  case below => exact fun frame member => calm frame (List.mem_of_mem_tail member)
  case connected =>
    intro sockfd top
    have none := quiet.disposing
    simp only [disposing, top] at none
    cases none
  case pushing => exact sound.pushing
  case batch => exact sound.batch

theorem retryDelay_next (retries : Nat) :
    min (min (Connector.kInitRetryDelayMs * 2 ^ retries) Connector.kMaxRetryDelayMs * 2)
        Connector.kMaxRetryDelayMs =
      min (Connector.kInitRetryDelayMs * 2 ^ (retries + 1)) Connector.kMaxRetryDelayMs := by
  rw [Nat.pow_succ, ← Nat.mul_assoc]
  omega

theorem Sound.retry {sockfd : Nat} {below : List ConnectorFrame} (sound : system.Sound)
    (stack : system.stack = .retry sockfd :: below) :
    Sound ({ system with stack := below }.retry sockfd) := by
  have disposing : system.disposing = some sockfd := by
    simp [ConnectorSystem.disposing, stack, ConnectorFrame.sockfd?]
  have detached := sound.detached (.inr (by rw [disposing]; simp))
  have accounted := sound.accounted
  rw [holder_of_disposing disposing] at accounted
  unfold ConnectorSystem.retry
  dsimp only
  split
  · refine .of_idle ⟨?_, sound.pushing, sound.batch⟩ (sound.calm_below stack)
      Connector.States.noConfusion ⟨detached.resets, detached.removed⟩ accounted.close
    have delay : system.connector.retryDelayMs = _ := sound.delay
    simp only [close, setState, delay]
    exact retryDelay_next _
  · exact .of_idle ⟨sound.delay, sound.pushing, sound.batch⟩ (sound.calm_below stack)
      Connector.States.noConfusion ⟨detached.resets, detached.removed⟩ accounted.close

theorem Sound.deliver {sockfd : Nat} {below : List ConnectorFrame} (sound : system.Sound)
    (stack : system.stack = .connected sockfd :: below) :
    Sound ({ system with stack := below }.deliver sockfd) := by
  have disposing : system.disposing = some sockfd := by
    simp [ConnectorSystem.disposing, stack, ConnectorFrame.sockfd?]
  have connected := sound.connected sockfd (by rw [stack]; rfl)
  have notConnecting : system.connector.state ≠ .kConnecting := by
    rw [connected]
    simp
  have detached := sound.detached (.inl notConnecting)
  have accounted := sound.accounted
  rw [holder_of_disposing disposing] at accounted
  unfold ConnectorSystem.deliver
  split
  · refine .of_idle ⟨sound.delay, sound.pushing, sound.batch⟩ ?_ notConnecting
      ⟨detached.resets, detached.removed⟩ accounted.deliver
    intro frame member
    rcases List.mem_cons.mp member with rfl | later
    · rfl
    · exact sound.calm_below stack frame later
  · exact .of_idle ⟨sound.delay, sound.pushing, sound.batch⟩ (sound.calm_below stack)
      notConnecting ⟨detached.resets, detached.removed⟩ accounted.close

/-- `removeAndResetChannel` while an attempt is under way, with what the caller writes to
`state_` before and after it. -/
theorem Sound.removeAndResetChannel (sound : system.Sound) (calm : system.Calm)
    (connecting : system.connector.state = .kConnecting) {before after : Connector.States}
    {removing : ConnectorSystem} {sockfd : Nat} {frame : ConnectorFrame}
    (ran : (system.setState before).removeAndResetChannel = .ok (removing, sockfd))
    (holds : frame.sockfd? = some sockfd)
    (isConnected : ∀ sockfd, frame = .connected sockfd → after = .kConnected) :
    Sound ((removing.setState after).enter frame) := by
  rcases sound.attached connecting calm.disposing with ⟨channel, attached⟩
  have attachedBefore : (system.setState before).Attached channel :=
    ⟨attached.isChannel, attached.connecting, attached.resets⟩
  rcases attachedBefore.removeAndResetChannel with ⟨removed, poller, _, _, isRemoved, eq⟩
  rw [eq, Checked.check_bind_eq_ok_iff] at ran
  rcases ran with ⟨_, ran⟩
  cases ran
  exact sound.detach attached connecting calm rfl holds isConnected rfl isRemoved rfl rfl
    ⟨sound.delay, sound.pushing, sound.batch⟩

theorem Sound.callback (sound : system.Sound) (calm : system.Calm) {outcome : SocketOutcome}
    {called : Channel.Callback} (ran : system.callback outcome called = .ok next) :
    next.Sound := by
  cases called with
  | close | read =>
      cases ran
      exact sound
  | error =>
      simp only [ConnectorSystem.callback, handleError] at ran
      split at ran
      · rename_i connecting
        rcases Checked.bind_eq_ok_iff.mp ran with ⟨⟨after, sockfd⟩, removed, result⟩
        cases result
        exact sound.removeAndResetChannel calm connecting removed rfl (by simp)
      · cases ran
        exact sound
  | write =>
      simp only [ConnectorSystem.callback, handleWrite] at ran
      split at ran
      · rename_i connecting
        rcases Checked.bind_eq_ok_iff.mp ran with ⟨⟨after, sockfd⟩, removed, result⟩
        dsimp only at result
        split at result
        · cases result
          exact sound.removeAndResetChannel calm connecting removed rfl (by simp)
        · split at result
          · cases result
            exact sound.removeAndResetChannel calm connecting removed rfl (by simp)
          · cases result
            exact sound.removeAndResetChannel calm connecting removed rfl (fun _ _ => rfl)
      · rw [Checked.check_bind_eq_ok_iff] at ran
        cases ran.2
        exact sound

theorem Sound.resume {attempt : ConnectAttempt} {outcome : SocketOutcome} (sound : system.Sound)
    (fresh : ∀ sockfd ∈ attempt.sockfd, system.Fresh sockfd)
    (ran : system.resume attempt outcome = .ok next) : next.Sound := by
  unfold ConnectorSystem.resume at ran
  cases stack : system.stack with
  | nil =>
      rw [stack] at ran
      cases ran
      exact sound
  | cons frame below =>
      rw [stack] at ran
      have calm := sound.calm_below stack
      cases frame with
      | startInLoop =>
          have popped := sound.replace_top stack rfl calm
          simp only [startInLoop, Checked.check_bind_eq_ok_iff] at ran
          rcases ran with ⟨idle, ran⟩
          split at ran
          · exact popped.connect calm idle fresh ran
          · cases ran
            exact popped
      | retry sockfd =>
          cases ran
          exact sound.retry stack
      | connected sockfd =>
          cases ran
          exact sound.deliver stack
      | newConnectionCallback sockfd =>
          cases ran
          exact sound.replace_top stack rfl calm
      | handleEvent rest =>
          cases rest with
          | nil =>
              have popped := sound.replace_top stack rfl calm
              simp only [finishEvent] at ran
              split at ran
              · cases ran
              · rename_i channel isChannel
                cases ran
                refine popped.same_stack ⟨rfl, rfl, ?_, rfl, rfl, rfl, rfl⟩ rfl
                  (fun entry member => .inl member) popped.batch
                rw [isChannel]
                exact .some ⟨rfl, rfl, rfl, rfl, rfl⟩
          | cons called rest =>
              have handling : ∀ frame ∈ ConnectorFrame.handleEvent rest :: below,
                  frame.sockfd? = none :=
                List.forall_mem_cons.mpr ⟨rfl, calm⟩
              exact (sound.replace_top stack rfl handling).callback handling ran

/-! ## Every step -/

theorem resets_push {functor : ConnectorFunctor} (other : functor ≠ .resetChannel)
    (functors : next.functors = system.functors.push functor) : next.resets = system.resets := by
  simp [resets, functors, other]

theorem resets_next {functor : ConnectorFunctor} {rest : FunctorQueue ConnectorFunctor}
    (taken : system.functors.next = some (functor, rest)) :
    system.resets = rest.outstanding.count .resetChannel +
      if functor = .resetChannel then 1 else 0 := by
  simp [resets, FunctorQueue.outstanding_next taken, List.count_cons]

/-- Taking a functor other than `resetChannel` out of the batch. -/
theorem Sound.take {functor : ConnectorFunctor} {rest : FunctorQueue ConnectorFunctor}
    (sound : system.Sound) (taken : system.functors.next = some (functor, rest))
    (other : functor ≠ .resetChannel) (running : system.phase = .runningFunctors) :
    Sound { system with functors := rest } := by
  have kept : SocketsKept system { system with functors := rest } := by
    refine ⟨rfl, rfl, SameChannel.refl _, rfl, ?_, rfl, rfl⟩
    rw [resets_next taken, if_neg other]
    rfl
  refine sound.same_stack kept rfl (fun entry member => .inl member) ?_
  exact fun notRunning => absurd running notRunning

theorem Sound.resetChannel {rest : FunctorQueue ConnectorFunctor} (sound : system.Sound)
    (taken : system.functors.next = some (.resetChannel, rest)) (noCalls : system.stack = [])
    (running : system.phase = .runningFunctors)
    (ran : ConnectorSystem.resetChannel { system with functors := rest } = .ok next) :
    next.Sound := by
  have calm : system.Calm := by
    intro frame member
    rw [noCalls] at member
    cases member
  have nothing := calm.disposing
  have pending := resets_next taken
  simp only [if_true] at pending
  have idle : system.connector.state ≠ .kConnecting := by
    intro connecting
    rcases sound.attached connecting nothing with ⟨channel, attached⟩
    rw [attached.resets] at pending
    omega
  have detached := sound.detached (.inl idle)
  have accounted := sound.accounted
  rw [holder_eq_none idle nothing] at accounted
  simp only [ConnectorSystem.resetChannel] at ran
  cases isChannel : system.connector.channel with
  | none =>
      have none := detached.resets
      rw [isChannel] at none
      simp only [Option.toList_none, List.length_nil] at none
      omega
  | some channel =>
      rw [isChannel] at ran
      simp only [Checked.check_bind_eq_ok_iff] at ran
      rcases ran with ⟨_, _, _, result⟩
      cases result
      have single := detached.resets
      rw [isChannel] at single
      refine .of_idle ⟨sound.delay, sound.pushing, fun notRunning => absurd running notRunning⟩
        calm idle ⟨?_, ?_⟩ accounted
      · change rest.outstanding.count .resetChannel = 0
        simp only [Option.toList_some, List.length_singleton] at single
        omega
      · rintro channel ⟨⟩

theorem Sound.runFunctor {functor : ConnectorFunctor} {rest : FunctorQueue ConnectorFunctor}
    (sound : system.Sound) (taken : system.functors.next = some (functor, rest))
    (noCalls : system.stack = []) (running : system.phase = .runningFunctors)
    (ran : ConnectorSystem.runFunctor { system with functors := rest } functor = .ok next) :
    next.Sound := by
  have calm : Calm { system with functors := rest } := by
    intro frame member
    have member : frame ∈ system.stack := member
    rw [noCalls] at member
    cases member
  cases functor with
  | startInLoop =>
      cases ran
      exact (sound.take taken (by simp) running).enter_startInLoop calm
        ⟨rfl, rfl, SameChannel.refl _, rfl, rfl, rfl, rfl⟩ rfl rfl rfl id
  | stopInLoop =>
      simp only [ConnectorSystem.runFunctor, stopInLoop] at ran
      have before := sound.take taken (by simp) running
      split at ran
      · rename_i connecting
        rcases Checked.bind_eq_ok_iff.mp ran with ⟨⟨after, sockfd⟩, removed, result⟩
        cases result
        exact before.removeAndResetChannel calm connecting removed rfl (by simp)
      · cases ran
        exact before
  | resetChannel => exact sound.resetChannel taken noCalls running ran
  | other tag =>
      cases ran
      exact sound.take taken (by simp) running

theorem Sound.otherChannel {fd : Nat} {entry : Option Nat}
    {registered : Option (PollEvents × Nat)} (sound : system.Sound)
    (apart : ∀ channel ∈ system.connector.channel,
      entry ≠ some channel.address ∧ (∀ data ∈ registered, data.2 ≠ channel.address) ∧
        system.poller.channels fd ≠ some channel.address) :
    Sound { system with poller := { system.poller with
      channels := Function.update system.poller.channels fd entry
      kernel := Function.update system.poller.kernel fd registered } } := by
  refine { sound with attached := ?_, detached := ?_ }
  · intro connecting nothing
    rcases sound.attached connecting nothing with ⟨channel, attached⟩
    have different : channel.fd ≠ fd := by
      rintro rfl
      exact (apart channel attached.isChannel).2.2 attached.connecting.channels
    refine ⟨channel, attached.isChannel, ?_, attached.resets⟩
    have connecting := attached.connecting
    exact ⟨connecting.index, connecting.events,
      by rw [← connecting.channels]; exact Function.update_of_ne different _ _,
      by rw [← connecting.kernel]; exact Function.update_of_ne different _ _⟩
  · intro either
    have detached := sound.detached either
    refine ⟨detached.resets, ?_⟩
    intro channel isChannel
    have removed := detached.removed channel isChannel
    rcases apart channel isChannel with ⟨otherEntry, otherData, _⟩
    refine ⟨removed.addedToLoop, ?_, ?_⟩
    · dsimp only
      by_cases same : channel.fd = fd
      · rw [same, Function.update_self]
        exact otherEntry
      · rw [Function.update_of_ne same]
        exact removed.channels
    · dsimp only
      by_cases same : channel.fd = fd
      · rw [same, Function.update_self]
        exact otherData
      · rw [Function.update_of_ne same]
        exact removed.kernel

theorem Sound.releaseSocket {sockfd opening : Nat} (sound : system.Sound)
    (isCurrent : system.sockets.current sockfd = some opening)
    (delivered : some opening ∈ system.sockets.delivered) :
    Sound { system with sockets := system.sockets.release sockfd } := by
  refine { sound with
    attached := ?_
    detached := fun either => ⟨(sound.detached either).resets, (sound.detached either).removed⟩
    accounted := sound.accounted.release isCurrent delivered }
  intro connecting nothing
  rcases sound.attached connecting nothing with ⟨channel, attached⟩
  exact ⟨channel, attached.isChannel, attached.connecting, attached.resets⟩

theorem calm_of_stack_nil (noCalls : system.stack = []) : system.Calm := by
  intro frame member
  rw [noCalls] at member
  cases member

theorem SocketsKept.refl (system : ConnectorSystem) : SocketsKept system system :=
  ⟨rfl, rfl, SameChannel.refl _, rfl, rfl, rfl, rfl⟩

/-- Another thread is about to queue a functor. -/
theorem Sound.otherPushing {connect : Bool} {thread : ThreadId} {functor : ConnectorFunctor}
    (sound : system.Sound) (isCall : functor = .startInLoop ∨ functor = .stopInLoop) :
    Sound ((system.setConnect connect).queueInLoop (some thread) functor) := by
  refine sound.same_stack { SocketsKept.refl system with } rfl ?_ sound.batch
  intro entry member
  rcases List.mem_append.mp member with old | new
  · exact .inl old
  · rw [List.mem_singleton.mp new]
    exact .inr isCall

theorem Sound.start {caller : Caller} (sound : system.Sound)
    (calm : caller = none → system.Calm) : Sound (system.start caller) := by
  cases caller with
  | none =>
      exact sound.enter_startInLoop (calm rfl) { SocketsKept.refl system with } rfl rfl rfl id
  | some thread => exact sound.otherPushing (.inl rfl)

theorem Sound.stop {caller : Caller} (sound : system.Sound) : Sound (system.stop caller) := by
  cases caller with
  | none =>
      exact sound.same_stack
        { SocketsKept.refl system with resets := resets_push (by simp) rfl } rfl
        (fun entry member => .inl member) sound.batch
  | some thread => exact sound.otherPushing (.inr rfl)

theorem Sound.restart (sound : system.Sound) (calm : system.Calm)
    (connected : system.connector.state = .kConnected) : Sound system.restart := by
  have notConnecting : system.connector.state ≠ .kConnecting := by
    rw [connected]
    simp
  have detached := sound.detached (.inl notConnecting)
  have accounted := sound.accounted
  rw [holder_eq_none notConnecting calm.disposing] at accounted
  refine .of_idle ⟨rfl, sound.pushing, sound.batch⟩ ?_ Connector.States.noConfusion
    ⟨detached.resets, detached.removed⟩ accounted
  exact List.forall_mem_cons.mpr ⟨rfl, calm⟩

theorem Sound.push {entry : ThreadId × ConnectorFunctor} (sound : system.Sound)
    (member : entry ∈ system.pushing) :
    Sound { system with
      functors := system.functors.push entry.2
      pushing := system.pushing.erase entry } := by
  have other : entry.2 ≠ .resetChannel := by
    rcases sound.pushing entry member with start | stop
    · simp [start]
    · simp [stop]
  refine sound.same_stack { SocketsKept.refl system with resets := resets_push other rfl } rfl ?_
    sound.batch
  exact fun _ still => .inl (List.mem_of_mem_erase still)

/-- The loop goes on to another phase between two batches. -/
theorem Sound.phase (sound : system.Sound) (phase : LoopPhase)
    (batch : system.functors.functors = []) : Sound { system with phase } :=
  sound.same_stack { SocketsKept.refl system with } rfl (fun _ member => .inl member)
    (fun _ => batch)

theorem Sound.poll {reported : Option PollEvents} (sound : system.Sound)
    (batch : system.functors.functors = []) (ran : system.poll reported = .ok next) :
    next.Sound := by
  simp only [ConnectorSystem.poll] at ran
  split at ran
  · cases ran
    exact sound.same_stack { SocketsKept.refl system with } rfl (fun _ member => .inl member)
      (fun _ => batch)
  · cases ran
  · rename_i revents channel isChannel
    simp only [Checked.check_bind_eq_ok_iff] at ran
    rcases ran with ⟨_, _, result⟩
    cases result
    refine sound.same_stack { SocketsKept.refl system with channel := ?_ } rfl
      (fun _ member => .inl member) (fun _ => batch)
    rw [isChannel]
    exact .some ⟨rfl, rfl, rfl, rfl, rfl⟩

theorem Sound.dispatch (sound : system.Sound) (noCalls : system.stack = [])
    (ran : system.dispatch = .ok next) : next.Sound := by
  simp only [ConnectorSystem.dispatch] at ran
  split at ran
  · cases ran
  · rename_i channel isChannel
    cases ran
    apply sound.quiet
    case kept =>
      refine { SocketsKept.refl system with channel := ?_ }
      rw [isChannel]
      exact .some ⟨rfl, rfl, rfl, rfl, rfl⟩
    case disposing => simp [disposing, enter, setChannel, noCalls, ConnectorFrame.sockfd?]
    case below =>
      intro frame member
      have member : frame ∈ system.stack := member
      exact calm_of_stack_nil noCalls frame member
    case connected =>
      intro sockfd top
      cases top
    case pushing => exact sound.pushing
    case batch => exact sound.batch

theorem Sound.swapFunctors (sound : system.Sound) (batch : system.functors.functors = []) :
    Sound { system with functors := system.functors.swap, phase := .runningFunctors } := by
  refine sound.same_stack { SocketsKept.refl system with resets := ?_ } rfl
    (fun _ member => .inl member) (fun notRunning => absurd rfl notRunning)
  simp only [resets, FunctorQueue.outstanding_swap batch]

theorem step_sound (action : Action) (sound : system.Sound) (allowed : system.Allowed action)
    (ran : system.step action = .ok next) : next.Sound := by
  cases action with
  | start caller =>
      cases ran
      refine sound.start ?_
      rintro rfl
      exact sound.calm allowed
  | stop caller =>
      cases ran
      exact sound.stop
  | restart =>
      cases ran
      exact sound.restart (sound.calm allowed.1) allowed.2
  | push thread =>
      simp only [step] at ran
      split at ran
      · rename_i entry found
        cases ran
        exact sound.push (List.mem_of_find?_eq_some found)
      · cases ran
        exact sound
  | resume attempt outcome => exact sound.resume allowed.2 ran
  | enterLoop =>
      cases ran
      exact sound.phase _ (sound.batch (by rw [allowed.1]; simp))
  | leaveLoop =>
      cases ran
      have polling : system.phase = .polling := allowed
      exact sound.phase _ (sound.batch (by rw [polling]; simp))
  | poll reported =>
      have polling : system.phase = .polling := by
        cases reported with
        | none => exact allowed
        | some revents => exact allowed.1
      exact sound.poll (sound.batch (by rw [polling]; simp)) ran
  | dispatch => exact sound.dispatch allowed.2.1 ran
  | fireTimer delay =>
      cases ran
      exact sound.enter_startInLoop (calm_of_stack_nil allowed.2.1)
        { SocketsKept.refl system with } rfl rfl rfl id
  | swapFunctors =>
      cases ran
      exact sound.swapFunctors (sound.batch (by rw [allowed.1]; simp))
  | runFunctor =>
      simp only [step] at ran
      split at ran
      · rename_i functor rest taken
        exact sound.runFunctor taken allowed.2.1 allowed.1 ran
      · cases ran
        exact sound
  | finishFunctors =>
      cases ran
      exact sound.phase _ allowed.2.2
  | queueOther tag =>
      cases ran
      exact sound.same_stack
        { SocketsKept.refl system with resets := resets_push (by simp) rfl } rfl
        (fun _ member => .inl member) sound.batch
  | otherChannel fd entry registered =>
      cases ran
      exact sound.otherChannel allowed
  | releaseSocket sockfd =>
      cases ran
      rcases allowed with ⟨opening, isCurrent, delivered⟩
      exact sound.releaseSocket isCurrent delivered

theorem initial_sound (poller : EPollPoller) : (create poller).Sound := by
  refine .of_idle ⟨rfl, ?_, fun _ => rfl⟩ (calm_of_stack_nil rfl) Connector.States.noConfusion
    ⟨rfl, ?_⟩ .empty
  · rintro entry ⟨⟩
  · rintro channel ⟨⟩

theorem reachable_sound (reachable : machine.Reachable system) : system.Sound := by
  refine reachable.invariant Sound ?_ ?_
  · rintro first ⟨poller, rfl⟩
    exact initial_sound poller
  · intro current action after sound allowed ran
    exact step_sound action sound allowed ran

/-- The loop thread is outside the connector's functions, or in a callback of the user. -/
def Completed (system : ConnectorSystem) : Prop :=
  ∀ frame ∈ system.stack.head?, frame.runsUserCode = true

instance (system : ConnectorSystem) : Decidable system.Completed :=
  inferInstanceAs (Decidable (∀ frame ∈ system.stack.head?, frame.runsUserCode = true))

/-- The opening's descriptor belongs to the channel, which is registered. -/
def Owns (system : ConnectorSystem) (opening : Nat) : Prop :=
  system.connector.state = .kConnecting ∧ ∃ channel ∈ system.connector.channel,
    system.poller.channels channel.fd = some channel.address ∧
    system.poller.kernel channel.fd = some (channel.events, channel.address) ∧
    system.sockets.current channel.fd = some opening

instance (system : ConnectorSystem) (opening : Nat) : Decidable (system.Owns opening) :=
  inferInstanceAs (Decidable (_ ∧ _))

theorem Completed.disposing (completed : system.Completed) : system.disposing = none := by
  unfold ConnectorSystem.disposing
  cases stack : system.stack with
  | nil => rfl
  | cons top rest =>
      have userCode := completed top (by rw [stack]; rfl)
      cases top with
      | newConnectionCallback sockfd => rfl
      | startInLoop | retry _ | connected _ | handleEvent _ => cases userCode

theorem Sound.holding_eq (sound : system.Sound) (completed : system.Completed) (opening : Nat) :
    system.sockets.holding system.holder opening = if system.Owns opening then 1 else 0 := by
  have nothing := completed.disposing
  by_cases connecting : system.connector.state = .kConnecting
  · rcases sound.attached connecting nothing with ⟨channel, attached⟩
    rw [holder_of_attached attached connecting nothing, Ledger.holding_some]
    have iff : system.Owns opening ↔ system.sockets.current channel.fd = some opening := by
      have waiting := attached.connecting
      simp [Owns, connecting, attached.isChannel, waiting.channels, waiting.kernel,
        waiting.events]
    simp only [iff]
  · rw [holder_eq_none connecting nothing, Ledger.holding_none, if_neg]
    exact fun owns => connecting owns.1

/-- Every socket the connector has opened belongs to its registered channel, or was closed
or handed over, and that once; and the delay doubles with every retry. -/
theorem sockets_accounted (reachable : machine.Reachable system) :
    (system.Completed → ∀ opening < system.sockets.opened,
      (if system.Owns opening then 1 else 0) + system.sockets.closed.count (some opening) +
        system.sockets.delivered.count (some opening) = 1) ∧
    (none ∉ system.sockets.closed ∧ none ∉ system.sockets.delivered) ∧
    system.connector.retryDelayMs =
      min (Connector.kInitRetryDelayMs * 2 ^ system.retries) Connector.kMaxRetryDelayMs := by
  have sound := reachable_sound reachable
  refine ⟨?_, sound.accounted.known, sound.delay⟩
  intro completed opening bound
  rw [← sound.holding_eq completed opening]
  exact sound.accounted.once opening bound

/-- The first attempt ends with an error and a write event in one dispatch; the second
uses the same descriptor again and is handed over. -/
theorem sockets_accounted_reused :
    ∃ system, machine.Reachable system ∧
      (system.Completed ∧ system.sockets.opened = 2 ∧ system.retries = 1 ∧
        system.sockets.closed = [some 0] ∧ system.sockets.delivered = [some 1]) ∧
      ((if system.Owns 1 then 1 else 0) + system.sockets.closed.count (some 1) +
        system.sockets.delivered.count (some 1) = 1) ∧
      system.connector.retryDelayMs = 1000 := by
  have run := Machine.exists_reachable machine
    (fun system => system.Completed ∧ system.sockets.opened = 2 ∧ system.retries = 1 ∧
      system.sockets.closed = [some 0] ∧ system.sockets.delivered = [some 1])
    idle_initial
    [.start none, .attempt ⟨some 5, .einprogress, 100⟩, .enterLoop,
      .poll (some { PollEvents.kWriteEvent with pollErr := true }), .dispatch,
      .proceed, .proceed, .proceed, .proceed, .swapFunctors, .runFunctor, .finishFunctors,
      .poll none, .fireTimer 500, .attempt ⟨some 5, .success, 101⟩, .swapFunctors,
      .finishFunctors, .poll (some .kWriteEvent), .dispatch, .proceed, .proceed]
    (by decide +kernel)
  rcases run with ⟨system, reachable, completed, opened, retries, rest⟩
  have accounted := sockets_accounted reachable
  refine ⟨system, reachable, ⟨completed, opened, retries, rest⟩,
    accounted.1 completed 1 (by rw [opened]; decide), ?_⟩
  rw [accounted.2.2, retries]
  rfl

end ConnectorSystem

end Ccnet.Net
