import Ccnet.Net.Client.Sockets

/-! # What a step of the connector can do

Whether an assertion fails depends on the state, the calls and queues and a few
flags only. A step is described once by what it does to these. -/

namespace Ccnet.Net

/-- `handling` is `eventHandling_` of the channel. -/
structure ConnectorView where
  state : Connector.States
  stack : List ConnectorFrame
  functors : FunctorQueue ConnectorFunctor
  pushing : List (ThreadId × ConnectorFunctor)
  timers : Nat
  phase : LoopPhase
  activity : Activity
  handling : Bool

namespace ConnectorView

def disposing (view : ConnectorView) : Option Nat :=
  view.stack.head?.bind ConnectorFrame.sockfd?

def current (view : ConnectorView) : Bool :=
  view.stack.any ConnectorFrame.isHandleEvent

def resets (view : ConnectorView) : Nat :=
  view.functors.outstanding.count .resetChannel

/-- The steps that bring about a call of `startInLoop` or come from other objects, and
all others. -/
inductive StepKind
  | start
  | restart
  | fireTimer
  | queueOther (tag : Nat)
  | other
  deriving DecidableEq, Repr

inductive Step (before : ConnectorView) : StepKind → ConnectorView → Prop
  | stay : Step before .other before
  /-- `start` in the loop thread. -/
  | start : Step before .start { before with stack := .startInLoop :: before.stack }
  | restart : before.state = .kConnected → Step before .restart { before with
      state := .kDisconnected
      stack := .startInLoop :: before.stack }
  /-- `start` in another thread. -/
  | pushStart {thread : ThreadId} : Step before .start { before with
      pushing := before.pushing ++ [(thread, .startInLoop)] }
  /-- `stop` in another thread. -/
  | pushStop {thread : ThreadId} : Step before .other { before with
      pushing := before.pushing ++ [(thread, .stopInLoop)] }
  /-- `stop` in the loop thread. -/
  | queueStop : Step before .other { before with
      functors := before.functors.push .stopInLoop }
  | queueOther {tag : Nat} : Step before (.queueOther tag) { before with
      functors := before.functors.push (.other tag) }
  | push {entry : ThreadId × ConnectorFunctor} : entry ∈ before.pushing →
      Step before .other { before with
        functors := before.functors.push entry.2
        pushing := before.pushing.erase entry }
  | enterLoop : before.phase = .outsideLoop → before.stack = [] →
      Step before .other { before with phase := .polling }
  | leaveLoop : before.phase = .polling → Step before .other { before with phase := .outsideLoop }
  | poll {activity : Activity} : before.phase = .polling → activity ≠ .taken →
      (activity = .waiting → before.state = .kConnecting ∧ before.disposing = none) →
      Step before .other { before with phase := .handlingEvents, activity }
  | dispatch {callbacks : List Channel.Callback} : before.phase = .handlingEvents →
      before.stack = [] → before.activity = .waiting → callbacks.Nodup →
      Step before .other { before with
        stack := [.handleEvent callbacks]
        activity := .taken
        handling := true }
  | fireTimer {timers : Nat} : before.phase = .handlingEvents → before.stack = [] →
      before.timers = timers + 1 →
      Step before .fireTimer { before with stack := [.startInLoop], timers }
  | swapFunctors : before.phase = .handlingEvents → before.stack = [] →
      before.activity ≠ .waiting →
      Step before .other { before with functors := before.functors.swap, phase := .runningFunctors }
  | takeStart {rest : FunctorQueue ConnectorFunctor} : before.phase = .runningFunctors →
      before.stack = [] → before.functors.next = some (.startInLoop, rest) →
      Step before .other { before with functors := rest, stack := [.startInLoop] }
  /-- `stopInLoop` when no attempt is under way, and other objects' functors. -/
  | takeQuiet {functor : ConnectorFunctor} {rest : FunctorQueue ConnectorFunctor} :
      before.phase = .runningFunctors → before.stack = [] →
      before.functors.next = some (functor, rest) →
      functor = .stopInLoop ∨ (∃ tag, functor = .other tag) →
      Step before .other { before with functors := rest }
  | takeStop {sockfd : Nat} {rest : FunctorQueue ConnectorFunctor} :
      before.phase = .runningFunctors → before.stack = [] →
      before.functors.next = some (.stopInLoop, rest) → before.state = .kConnecting →
      Step before .other { before with
        functors := rest.push .resetChannel
        state := .kDisconnected
        stack := [.retry sockfd] }
  | takeReset {rest : FunctorQueue ConnectorFunctor} : before.phase = .runningFunctors →
      before.stack = [] → before.functors.next = some (.resetChannel, rest) →
      Step before .other { before with functors := rest, handling := false }
  | finishFunctors : before.phase = .runningFunctors → before.stack = [] →
      before.functors.functors = [] → Step before .other { before with phase := .polling }
  /-- `startInLoop` that does not connect, or fails for good. -/
  | startNothing {below : List ConnectorFrame} : before.stack = .startInLoop :: below →
      before.state = .kDisconnected → Step before .other { before with stack := below }
  | startConnecting {below : List ConnectorFrame} : before.stack = .startInLoop :: below →
      before.state = .kDisconnected → before.resets = 0 →
      Step before .other { before with stack := below, state := .kConnecting, handling := false }
  | startRetry {sockfd : Nat} {below : List ConnectorFrame} :
      before.stack = .startInLoop :: below → before.state = .kDisconnected →
      Step before .other { before with stack := .retry sockfd :: below }
  | retryTimer {sockfd : Nat} {below : List ConnectorFrame} :
      before.stack = .retry sockfd :: below → Step before .other { before with
        stack := below
        state := .kDisconnected
        timers := before.timers + 1 }
  | retryNothing {sockfd : Nat} {below : List ConnectorFrame} :
      before.stack = .retry sockfd :: below →
      Step before .other { before with stack := below, state := .kDisconnected }
  | deliver {sockfd : Nat} {below : List ConnectorFrame} :
      before.stack = .connected sockfd :: below → before.state = .kConnected →
      Step before .other { before with stack := .newConnectionCallback sockfd :: below }
  | drop {sockfd : Nat} {below : List ConnectorFrame} :
      before.stack = .connected sockfd :: below → before.state = .kConnected →
      Step before .other { before with stack := below }
  | leaveCallback {sockfd : Nat} {below : List ConnectorFrame} :
      before.stack = .newConnectionCallback sockfd :: below →
      Step before .other { before with stack := below }
  | callbackNothing {called : Channel.Callback} {rest : List Channel.Callback}
      {below : List ConnectorFrame} : before.stack = .handleEvent (called :: rest) :: below →
      Step before .other { before with stack := .handleEvent rest :: below }
  | callbackRetry {called : Channel.Callback} {rest : List Channel.Callback} {sockfd : Nat}
      {below : List ConnectorFrame} : before.stack = .handleEvent (called :: rest) :: below →
      before.state = .kConnecting → Step before .other { before with
        stack := .retry sockfd :: .handleEvent rest :: below
        functors := before.functors.push .resetChannel }
  | callbackConnected {rest : List Channel.Callback} {sockfd : Nat}
      {below : List ConnectorFrame} : before.stack = .handleEvent (.write :: rest) :: below →
      before.state = .kConnecting → Step before .other { before with
        stack := .connected sockfd :: .handleEvent rest :: below
        functors := before.functors.push .resetChannel
        state := .kConnected }
  | finishEvent {below : List ConnectorFrame} : before.stack = .handleEvent [] :: below →
      Step before .other { before with stack := below, handling := false }

end ConnectorView

namespace ConnectorSystem

variable {system next : ConnectorSystem}

def view (system : ConnectorSystem) : ConnectorView where
  state := system.connector.state
  stack := system.stack
  functors := system.functors
  pushing := system.pushing
  timers := system.timers.length
  phase := system.phase
  activity := system.activity
  handling := system.connector.channel.any Channel.eventHandling

theorem start_view (system : ConnectorSystem) (caller : Caller) :
    system.view.Step .start (system.start caller).view := by
  cases caller with
  | none => exact .start
  | some thread => exact .pushStart

theorem stop_view (system : ConnectorSystem) (caller : Caller) :
    system.view.Step .other (system.stop caller).view := by
  cases caller with
  | none => exact .queueStop
  | some thread => exact .pushStop

/-- What `removeAndResetChannel` leaves, seen through the view. -/
theorem removeAndResetChannel_view (sound : system.Sound) (calm : system.Calm)
    (connecting : system.connector.state = .kConnecting) {before : Connector.States}
    {removing : ConnectorSystem} {sockfd : Nat}
    (ran : (system.setState before).removeAndResetChannel = .ok (removing, sockfd)) :
    removing.view = { system.view with
      state := before
      functors := system.functors.push .resetChannel } := by
  rcases sound.attached connecting calm.disposing with ⟨channel, attached⟩
  have attachedBefore : (system.setState before).Attached channel :=
    ⟨attached.isChannel, attached.connecting, attached.resets⟩
  rcases attachedBefore.removeAndResetChannel with ⟨removed, poller, _, handling, _, eq⟩
  rw [eq, Checked.check_bind_eq_ok_iff] at ran
  rcases ran with ⟨_, ran⟩
  cases ran
  simp [view, setState, queueInLoop, setChannel, attached.isChannel, handling]

theorem enter_view (system : ConnectorSystem) (frame : ConnectorFrame) :
    (system.enter frame).view = { system.view with stack := frame :: system.view.stack } := rfl

theorem setState_view (system : ConnectorSystem) (state : Connector.States) :
    (system.setState state).view = { system.view with state } := rfl

/-- A callback, of which only the attempt that is under way notices anything. -/
theorem callback_view (sound : system.Sound) (calm : system.Calm) {outcome : SocketOutcome}
    {called : Channel.Callback} (ran : system.callback outcome called = .ok next) :
    next.view = system.view ∨
      (system.connector.state = .kConnecting ∧ ∃ sockfd, next.view = { system.view with
        functors := system.functors.push .resetChannel
        stack := .retry sockfd :: system.stack }) ∨
      (called = .write ∧ system.connector.state = .kConnecting ∧
        ∃ sockfd, next.view = { system.view with
          state := .kConnected
          functors := system.functors.push .resetChannel
          stack := .connected sockfd :: system.stack }) := by
  cases called with
  | close | read =>
      cases ran
      exact .inl rfl
  | error =>
      simp only [callback, handleError] at ran
      split at ran
      · rename_i connecting
        rcases Checked.bind_eq_ok_iff.mp ran with ⟨⟨removing, sockfd⟩, removed, result⟩
        cases result
        have view := removeAndResetChannel_view sound calm connecting removed
        refine .inr (.inl ⟨connecting, sockfd, ?_⟩)
        rw [enter_view, view]
        rfl
      · cases ran
        exact .inl rfl
  | write =>
      simp only [callback, handleWrite] at ran
      split at ran
      · rename_i connecting
        rcases Checked.bind_eq_ok_iff.mp ran with ⟨⟨removing, sockfd⟩, removed, result⟩
        have view := removeAndResetChannel_view sound calm connecting removed
        have retried : (removing.enter (.retry sockfd)).view = { system.view with
            functors := system.functors.push .resetChannel
            stack := .retry sockfd :: system.stack } := by
          rw [enter_view, view]
          rfl
        dsimp only at result
        split at result
        · cases result
          exact .inr (.inl ⟨connecting, sockfd, retried⟩)
        · split at result
          · cases result
            exact .inr (.inl ⟨connecting, sockfd, retried⟩)
          · cases result
            refine .inr (.inr ⟨rfl, connecting, sockfd, ?_⟩)
            rw [enter_view, setState_view, view]
            rfl
      · rw [Checked.check_bind_eq_ok_iff] at ran
        cases ran.2
        exact .inl rfl

theorem connect_view (sound : system.Sound) (idle : system.connector.state = .kDisconnected)
    {attempt : ConnectAttempt} (fresh : ∀ sockfd ∈ attempt.sockfd, system.Fresh sockfd)
    (ran : system.connect attempt = .ok next) :
    next.view = system.view ∨
      (∃ sockfd, next.view = { system.view with stack := .retry sockfd :: system.stack }) ∨
      (system.resets = 0 ∧
        next.view = { system.view with state := .kConnecting, handling := false }) := by
  cases isSocket : attempt.sockfd with
  | none =>
      simp only [connect, isSocket] at ran
      cases ran
  | some sockfd =>
      rcases fresh sockfd isSocket with ⟨_, absent, unwatched⟩
      rcases system.connect_cases isSocket with waits | retries | closes
      · rcases (system.createNonblockingOrDie sockfd).connecting_eq attempt.address absent
          unwatched with ⟨channel, poller, _, handling, _, eq⟩
        rw [waits, eq, Checked.check_bind_eq_ok_iff] at ran
        rcases ran with ⟨noChannel, ran⟩
        cases ran
        have noChannel : system.connector.channel = none := noChannel
        have detached := sound.detached (.inl (by rw [idle]; simp))
        refine .inr (.inr ⟨by rw [detached.resets, noChannel]; rfl, ?_⟩)
        simp [view, setState, setChannel, createNonblockingOrDie, handling]
      · rw [retries] at ran
        cases ran
        exact .inr (.inl ⟨sockfd, rfl⟩)
      · rw [closes] at ran
        cases ran
        exact .inl rfl

theorem resume_view {attempt : ConnectAttempt} {outcome : SocketOutcome} (sound : system.Sound)
    (fresh : ∀ sockfd ∈ attempt.sockfd, system.Fresh sockfd)
    (ran : system.resume attempt outcome = .ok next) : system.view.Step .other next.view := by
  unfold resume at ran
  cases stack : system.stack with
  | nil =>
      rw [stack] at ran
      cases ran
      exact .stay
  | cons frame below =>
      rw [stack] at ran
      have calm := sound.calm_below stack
      cases frame with
      | startInLoop =>
          simp only [startInLoop, Checked.check_bind_eq_ok_iff] at ran
          rcases ran with ⟨idle, ran⟩
          split at ran
          · have popped := sound.replace_top stack rfl calm
            rcases connect_view popped idle fresh ran with view | ⟨sockfd, view⟩ | ⟨resets, view⟩
            · rw [view]
              exact .startNothing stack idle
            · rw [view]
              exact .startRetry stack idle
            · rw [view]
              exact .startConnecting stack idle resets
          · cases ran
            exact .startNothing stack idle
      | retry sockfd =>
          cases ran
          unfold retry
          dsimp only
          split
          · simp only [view, close, setState, List.length_append, List.length_singleton]
            exact .retryTimer stack
          · exact .retryNothing stack
      | connected sockfd =>
          cases ran
          have connected := sound.connected sockfd (by rw [stack]; rfl)
          unfold deliver
          split
          · exact .deliver stack connected
          · exact .drop stack connected
      | newConnectionCallback sockfd =>
          cases ran
          exact .leaveCallback stack
      | handleEvent rest =>
          cases rest with
          | nil =>
              simp only [finishEvent] at ran
              split at ran
              · cases ran
              · cases ran
                exact .finishEvent stack
          | cons called rest =>
              have handling : ∀ frame ∈ ConnectorFrame.handleEvent rest :: below,
                  frame.sockfd? = none :=
                List.forall_mem_cons.mpr ⟨rfl, calm⟩
              have replaced := sound.replace_top stack rfl handling
              rcases callback_view replaced handling ran with
                view | ⟨connecting, sockfd, view⟩ | ⟨rfl, connecting, sockfd, view⟩
              · rw [view]
                exact .callbackNothing stack
              · rw [view]
                exact .callbackRetry stack connecting
              · rw [view]
                exact .callbackConnected stack connecting

theorem runFunctor_view {functor : ConnectorFunctor} {rest : FunctorQueue ConnectorFunctor}
    (sound : system.Sound) (taken : system.functors.next = some (functor, rest))
    (noCalls : system.stack = []) (running : system.phase = .runningFunctors)
    (ran : runFunctor { system with functors := rest } functor = .ok next) :
    system.view.Step .other next.view := by
  cases functor with
  | startInLoop =>
      cases ran
      have step : system.view.Step .other
          { system.view with functors := rest, stack := [.startInLoop] } :=
        .takeStart running noCalls taken
      rw [enter_view]
      simp only [view, noCalls] at step ⊢
      exact step
  | stopInLoop =>
      simp only [runFunctor, stopInLoop] at ran
      split at ran
      · rename_i connecting
        have before := sound.take taken (by simp) running
        rcases Checked.bind_eq_ok_iff.mp ran with ⟨⟨removing, sockfd⟩, removed, result⟩
        cases result
        have removedView := removeAndResetChannel_view before (calm_of_stack_nil noCalls)
          connecting removed
        have step : system.view.Step .other { system.view with
            functors := rest.push .resetChannel
            state := .kDisconnected
            stack := [.retry sockfd] } := .takeStop running noCalls taken connecting
        rw [enter_view, removedView]
        simp only [view, noCalls] at step ⊢
        exact step
      · cases ran
        exact .takeQuiet running noCalls taken (.inl rfl)
  | resetChannel =>
      simp only [runFunctor, resetChannel] at ran
      split at ran
      · rename_i noChannel
        have noChannel : system.connector.channel = none := noChannel
        cases ran
        have step : system.view.Step .other
            { system.view with functors := rest, handling := false } :=
          .takeReset running noCalls taken
        simp only [view, noChannel] at step ⊢
        exact step
      · simp only [Checked.check_bind_eq_ok_iff] at ran
        rcases ran with ⟨_, _, _, result⟩
        cases result
        exact .takeReset running noCalls taken
  | other tag =>
      cases ran
      exact .takeQuiet running noCalls taken (.inr ⟨tag, rfl⟩)

theorem callbacks_nodup (revents : PollEvents) : (Channel.callbacks revents).Nodup := by
  unfold Channel.callbacks
  split <;> split <;> split <;> split <;> decide

/-- The kernel reports the channel of an attempt that is under way only. -/
theorem Sound.reported {channel : Channel} {registered : PollEvents × Nat}
    (sound : system.Sound) (isChannel : system.connector.channel = some channel)
    (isRegistered : system.poller.kernel channel.fd = some registered)
    (address : registered.2 = channel.address) :
    system.connector.state = .kConnecting ∧ system.disposing = none := by
  by_contra otherwise
  rw [not_and_or] at otherwise
  have detached := sound.detached otherwise
  exact (detached.removed channel isChannel).kernel registered isRegistered address

def Action.kind : Action → ConnectorView.StepKind
  | .start _ => .start
  | .restart => .restart
  | .fireTimer _ => .fireTimer
  | .queueOther tag => .queueOther tag
  | .stop _ | .push _ | .resume _ _ | .enterLoop | .leaveLoop | .poll _ | .dispatch
  | .swapFunctors | .runFunctor | .finishFunctors | .otherChannel _ _ _
  | .releaseSocket _ => .other

theorem step_view (action : Action) (sound : system.Sound) (allowed : system.Allowed action)
    (ran : system.step action = .ok next) : system.view.Step action.kind next.view := by
  cases action with
  | start caller =>
      cases ran
      exact system.start_view caller
  | stop caller =>
      cases ran
      exact system.stop_view caller
  | restart =>
      cases ran
      exact .restart allowed.2
  | push thread =>
      simp only [step] at ran
      split at ran
      · rename_i entry found
        cases ran
        exact .push (List.mem_of_find?_eq_some found)
      · cases ran
        exact .stay
  | resume attempt outcome => exact resume_view sound allowed.2 ran
  | enterLoop =>
      cases ran
      exact .enterLoop allowed.1 allowed.2
  | leaveLoop =>
      cases ran
      exact .leaveLoop allowed
  | poll reported =>
      cases reported with
      | none =>
          cases ran
          exact .poll allowed (by simp) (by simp)
      | some revents =>
          rcases allowed with ⟨polling, channel, isChannel, registered, isRegistered, address⟩
          have connecting := sound.reported isChannel isRegistered address
          simp only [step, poll, Option.mem_def.mp isChannel,
            Checked.check_bind_eq_ok_iff] at ran
          rcases ran with ⟨_, _, result⟩
          cases result
          have step : system.view.Step .other { system.view with
              phase := .handlingEvents
              activity := .waiting } := .poll polling (by simp) (fun _ => connecting)
          simp only [view, setChannel, Option.mem_def.mp isChannel] at step ⊢
          exact step
  | dispatch =>
      rcases allowed with ⟨handling, noCalls, waiting⟩
      simp only [step, dispatch] at ran
      split at ran
      · cases ran
      · rename_i channel isChannel
        cases ran
        have step : system.view.Step .other { system.view with
            stack := [.handleEvent (Channel.callbacks channel.revents)]
            activity := .taken
            handling := true } := .dispatch handling noCalls waiting (callbacks_nodup _)
        simp only [view, enter, setChannel, noCalls] at step ⊢
        exact step
  | fireTimer delay =>
      cases ran
      rcases allowed with ⟨handling, noCalls, member⟩
      have step : system.view.Step .fireTimer { system.view with
          stack := [.startInLoop]
          timers := (system.timers.erase delay).length } := by
        refine .fireTimer handling noCalls ?_
        have positive := List.length_pos_of_mem member
        simp only [view, List.length_erase_of_mem member]
        omega
      simp only [view, enter, noCalls] at step ⊢
      exact step
  | swapFunctors =>
      cases ran
      exact .swapFunctors allowed.1 allowed.2.1 allowed.2.2
  | runFunctor =>
      simp only [step] at ran
      split at ran
      · rename_i functor rest taken
        exact runFunctor_view sound taken allowed.2.1 allowed.1 ran
      · cases ran
        exact .stay
  | finishFunctors =>
      cases ran
      exact .finishFunctors allowed.1 allowed.2.1 allowed.2.2
  | queueOther tag =>
      cases ran
      exact .queueOther
  | otherChannel fd entry registered | releaseSocket sockfd =>
      cases ran
      exact .stay

end ConnectorSystem

/-! ## Handling the channel's events -/

namespace ConnectorView

variable {before after view : ConnectorView}

/-- The calls of `handleEvent`. -/
def handlers (view : ConnectorView) : List ConnectorFrame :=
  view.stack.filter ConnectorFrame.isHandleEvent

/-- An attempt is under way, and nothing has been taken out of the poller. -/
def Trying (view : ConnectorView) : Prop :=
  view.state = .kConnecting ∧ view.disposing = none

/-- The call of `handleEvent` and the flags that go with it. -/
structure Handling (view : ConnectorView) : Prop where
  single : view.handlers.length ≤ 1
  waiting : view.phase = .handlingEvents → view.activity = .waiting → view.Trying
  current : view.handlers ≠ [] → view.phase = .handlingEvents ∧ view.activity = .taken
  present : view.handlers ≠ [] → view.Trying ∨ 0 < view.resets
  handling : view.handling = true → view.handlers ≠ []
  callbacks : ∀ rest, .handleEvent rest ∈ view.handlers →
    rest.Nodup ∧ (.write ∈ rest → view.state ≠ .kConnected)

theorem handlers_of_stack_nil (noCalls : view.stack = []) : view.handlers = [] := by
  simp [handlers, noCalls]

theorem resets_push (queue : FunctorQueue ConnectorFunctor) (functor : ConnectorFunctor) :
    queue.outstanding.count .resetChannel ≤
      (queue.push functor).outstanding.count .resetChannel := by
  simp

/-- A step that neither enters nor leaves `handleEvent`. -/
theorem Handling.keep (handling : Handling before) (phase : after.phase = before.phase)
    (activity : after.activity = before.activity) (handlers : after.handlers = before.handlers)
    (flag : after.handling = true → before.handling = true)
    (resets : before.resets ≤ after.resets)
    (state : after.state ≠ .kConnected ∨ after.state = before.state)
    (trying : before.Trying → after.Trying) : Handling after where
  single := by
    rw [handlers]
    exact handling.single
  waiting isHandling isWaiting := by
    rw [phase] at isHandling
    rw [activity] at isWaiting
    exact trying (handling.waiting isHandling isWaiting)
  current := by
    rw [handlers, phase, activity]
    exact handling.current
  present called := by
    rw [handlers] at called
    rcases handling.present called with isTrying | pending
    · exact .inl (trying isTrying)
    · exact .inr (Nat.lt_of_lt_of_le pending resets)
  handling isHandling := by
    rw [handlers]
    exact handling.handling (flag isHandling)
  callbacks rest member := by
    rw [handlers] at member
    refine ⟨(handling.callbacks rest member).1, ?_⟩
    intro write
    rcases state with other | same
    · exact other
    · rw [same]
      exact (handling.callbacks rest member).2 write

/-- No call of `handleEvent` is under way. -/
theorem Handling.of_outside (noHandlers : view.handlers = []) (flag : view.handling = false)
    (waiting : view.phase = .handlingEvents → view.activity = .waiting → view.Trying) :
    Handling view where
  single := by simp [noHandlers]
  waiting := waiting
  current called := absurd noHandlers called
  present called := absurd noHandlers called
  handling isHandling := by
    rw [flag] at isHandling
    cases isHandling
  callbacks rest member := by
    rw [noHandlers] at member
    cases member

theorem Handling.flag (handling : Handling view) (noHandlers : view.handlers = []) :
    view.handling = false := by
  cases isHandling : view.handling with
  | false => rfl
  | true => exact absurd noHandlers (handling.handling isHandling)

theorem Handling.outside (handling : Handling view) (phase : view.phase ≠ .handlingEvents) :
    view.handlers = [] := by
  by_contra called
  exact phase (handling.current called).1

theorem handler_mem {rest : List Channel.Callback} {below : List ConnectorFrame}
    (stack : view.stack = .handleEvent rest :: below) : .handleEvent rest ∈ view.handlers := by
  rw [handlers, stack]
  exact List.mem_cons_self

theorem Handling.below {rest : List Channel.Callback} {below : List ConnectorFrame}
    (handling : Handling view) (stack : view.stack = .handleEvent rest :: below) :
    below.filter ConnectorFrame.isHandleEvent = [] := by
  have single := handling.single
  rw [handlers, stack] at single
  exact List.length_eq_zero_iff.mp (Nat.le_zero.mp (Nat.le_of_succ_le_succ single))

/-- The next callback has been taken out of the list. -/
theorem Handling.called {called : Channel.Callback} {rest : List Channel.Callback}
    {below : List ConnectorFrame} (handling : Handling before)
    (stack : before.stack = .handleEvent (called :: rest) :: below)
    (handlers : after.handlers =
      .handleEvent rest :: below.filter ConnectorFrame.isHandleEvent)
    (phase : after.phase = before.phase) (activity : after.activity = before.activity)
    (present : after.Trying ∨ 0 < after.resets)
    (state : .write ∈ rest → after.state ≠ .kConnected) : Handling after := by
  rw [handling.below stack] at handlers
  have isCurrent := handling.current (List.ne_nil_of_mem (handler_mem stack))
  constructor
  case single => simp [handlers]
  case waiting =>
    intro _ isWaiting
    rw [activity, isCurrent.2] at isWaiting
    cases isWaiting
  case current =>
    intro _
    rw [phase, activity]
    exact isCurrent
  case present => exact fun _ => present
  case handling => simp [handlers]
  case callbacks =>
    intro found member
    rw [handlers] at member
    cases List.mem_singleton.mp member
    have callbacks := handling.callbacks (called :: rest) (handler_mem stack)
    exact ⟨(List.nodup_cons.mp callbacks.1).2, state⟩

/-- Outside `handleEvent` the loop goes on to another phase. -/
theorem Handling.phase {functors : FunctorQueue ConnectorFunctor} {phase : LoopPhase}
    {activity : Activity} (handling : Handling before) (outside : before.handlers = [])
    (trying : phase = .handlingEvents → activity = .waiting → before.Trying) :
    Handling { before with functors, phase, activity } :=
  .of_outside outside (handling.flag outside) trying

theorem Handling.dispatch {callbacks : List Channel.Callback} (handling : Handling before)
    (isHandling : before.phase = .handlingEvents) (isWaiting : before.activity = .waiting)
    (nodup : callbacks.Nodup) :
    Handling { before with
      stack := [.handleEvent callbacks]
      activity := .taken
      handling := true } := by
  have trying := handling.waiting isHandling isWaiting
  constructor
  case single => exact Nat.le_refl _
  case waiting =>
    rintro _ ⟨⟩
  case current => exact fun _ => ⟨isHandling, rfl⟩
  case present => exact fun _ => .inl ⟨trying.1, rfl⟩
  case handling => simp [handlers, ConnectorFrame.isHandleEvent]
  case callbacks =>
    intro rest member
    have member : ConnectorFrame.handleEvent rest ∈ [ConnectorFrame.handleEvent _] := member
    cases List.mem_singleton.mp member
    refine ⟨nodup, fun _ => ?_⟩
    change before.state ≠ .kConnected
    rw [trying.1]
    simp

/-- A functor is run. -/
theorem Handling.functor {functors : FunctorQueue ConnectorFunctor} {stack : List ConnectorFrame}
    {state : Connector.States} (handling : Handling before)
    (running : before.phase = .runningFunctors) (noCalls : before.stack = [])
    (outside : stack.filter ConnectorFrame.isHandleEvent = []) :
    Handling { before with functors, stack, state } := by
  refine .of_outside outside (handling.flag (handlers_of_stack_nil noCalls)) ?_
  intro isHandling
  cases running.symm.trans isHandling

/-- A call other than `handleEvent` ends, and may leave another one. -/
theorem Handling.replace {frame : ConnectorFrame} {below stack : List ConnectorFrame}
    {state : Connector.States} {timers : Nat} {flag : Bool} (handling : Handling before)
    (isStack : before.stack = frame :: below) (notHandler : frame.isHandleEvent = false)
    (same : stack.filter ConnectorFrame.isHandleEvent =
      below.filter ConnectorFrame.isHandleEvent)
    (isFlag : flag = true → before.handling = true)
    (isState : state ≠ .kConnected ∨ state = before.state)
    (trying : before.Trying → Trying { before with stack, state, timers, handling := flag }) :
    Handling { before with stack, state, timers, handling := flag } := by
  refine handling.keep rfl rfl ?_ isFlag (Nat.le_refl _) isState trying
  rw [handlers, handlers, isStack, List.filter_cons_of_neg (by simp [notHandler])]
  exact same

theorem disposing_below {frame : ConnectorFrame} {below : List ConnectorFrame}
    (calm : ∀ frame ∈ before.stack.tail, frame.sockfd? = none)
    (stack : before.stack = frame :: below) :
    below.head?.bind ConnectorFrame.sockfd? = none := by
  rw [stack] at calm
  cases below with
  | nil => rfl
  | cons top rest => exact calm top List.mem_cons_self

theorem Handling.step {kind : StepKind} (handling : Handling before)
    (step : Step before kind after)
    (calm : ∀ frame ∈ before.stack.tail, frame.sockfd? = none) : Handling after := by
  cases step with
  | stay => exact handling
  | start =>
      exact handling.keep rfl rfl rfl id (Nat.le_refl _) (.inr rfl)
        (fun trying => ⟨trying.1, rfl⟩)
  | restart connected =>
      exact handling.keep rfl rfl rfl id (Nat.le_refl _) (.inl (by simp))
        (fun trying => absurd (connected.symm.trans trying.1) (by simp))
  | pushStart | pushStop => exact handling.keep rfl rfl rfl id (Nat.le_refl _) (.inr rfl) id
  | queueStop | queueOther | push _ =>
      exact handling.keep rfl rfl rfl id (resets_push _ _) (.inr rfl) id
  | enterLoop _ noCalls | swapFunctors _ noCalls _ | finishFunctors _ noCalls _ =>
      exact handling.phase (handlers_of_stack_nil noCalls) (fun isHandling => by cases isHandling)
  | leaveLoop polling =>
      exact handling.phase (handling.outside (by rw [polling]; simp))
        (fun isHandling => by cases isHandling)
  | poll polling _ trying =>
      exact handling.phase (handling.outside (by rw [polling]; simp)) (fun _ => trying)
  | dispatch isHandling _ isWaiting nodup => exact handling.dispatch isHandling isWaiting nodup
  | fireTimer _ noCalls _ =>
      refine handling.keep rfl rfl ?_ id (Nat.le_refl _) (.inr rfl)
        (fun trying => ⟨trying.1, rfl⟩)
      rw [handlers_of_stack_nil noCalls]
      rfl
  | takeStart running noCalls _ | takeStop running noCalls _ _ =>
      exact handling.functor running noCalls rfl
  | takeQuiet running noCalls _ _ =>
      exact handling.functor running noCalls (handlers_of_stack_nil noCalls)
  | takeReset running noCalls _ =>
      refine .of_outside (handlers_of_stack_nil noCalls) rfl ?_
      intro isHandling
      cases running.symm.trans isHandling
  | startNothing stack idle | startRetry stack idle =>
      exact handling.replace stack rfl rfl id (.inr rfl)
        (fun trying => absurd (idle.symm.trans trying.1) (by simp))
  | startConnecting stack idle _ =>
      exact handling.replace stack rfl rfl (by simp) (.inl (by simp))
        (fun _ => ⟨rfl, disposing_below calm stack⟩)
  | retryTimer stack | retryNothing stack =>
      refine handling.replace stack rfl rfl id (.inl (by simp)) ?_
      exact fun trying => by simp [Trying, disposing, stack, ConnectorFrame.sockfd?] at trying
  | deliver stack connected | drop stack connected =>
      exact handling.replace stack rfl rfl id (.inr rfl)
        (fun trying => absurd (connected.symm.trans trying.1) (by simp))
  | leaveCallback stack =>
      exact handling.replace stack rfl rfl id (.inr rfl)
        (fun trying => ⟨trying.1, disposing_below calm stack⟩)
  | callbackNothing stack =>
      have called := handler_mem stack
      refine handling.called stack rfl rfl rfl ?_ ?_
      · rcases handling.present (List.ne_nil_of_mem called) with trying | pending
        · exact .inl ⟨trying.1, rfl⟩
        · exact .inr pending
      · exact fun write => (handling.callbacks _ called).2 (List.mem_cons_of_mem _ write)
  | callbackRetry stack connecting =>
      refine handling.called stack rfl rfl rfl (.inr (by simp [resets])) ?_
      intro _
      change before.state ≠ .kConnected
      rw [connecting]
      simp
  | callbackConnected stack connecting =>
      refine handling.called stack rfl rfl rfl (.inr (by simp [resets])) ?_
      intro again
      have callbacks := handling.callbacks _ (handler_mem stack)
      exact absurd again (List.nodup_cons.mp callbacks.1).1
  | finishEvent stack =>
      refine .of_outside (handling.below stack) rfl ?_
      intro _ isWaiting
      have isCurrent := handling.current (List.ne_nil_of_mem (handler_mem stack))
      cases isCurrent.2.symm.trans isWaiting

end ConnectorView

/-! ## Which assertions can fail -/

namespace ConnectorSystem

variable {system next : ConnectorSystem}

theorem removeAndResetChannel_succeeds (sound : system.Sound) (calm : system.Calm)
    (connecting : system.connector.state = .kConnecting) (before : Connector.States)
    (mayRemove : system.phase = .handlingEvents →
      system.isCurrent = true ∨ system.activity = .absent) :
    ∃ result, (system.setState before).removeAndResetChannel = .ok result := by
  rcases sound.attached connecting calm.disposing with ⟨channel, attached⟩
  have attachedBefore : (system.setState before).Attached channel :=
    ⟨attached.isChannel, attached.connecting, attached.resets⟩
  rcases attachedBefore.removeAndResetChannel with ⟨removed, poller, _, _, _, eq⟩
  rw [eq, Checked.check_bind_of (by exact mayRemove)]
  exact ⟨_, rfl⟩

theorem callback_succeeds (sound : system.Sound) (calm : system.Calm)
    (isCurrent : system.isCurrent = true) {called : Channel.Callback}
    (state : called = .write → system.connector.state ≠ .kConnected) (outcome : SocketOutcome) :
    ∃ next, system.callback outcome called = .ok next := by
  have removal : system.connector.state = .kConnecting →
      ∃ result, system.removeAndResetChannel = .ok result := fun connecting =>
    removeAndResetChannel_succeeds sound calm connecting system.connector.state
      (fun _ => .inl isCurrent)
  cases called with
  | close | read => exact ⟨system, rfl⟩
  | error =>
      simp only [callback, handleError]
      split
      · rename_i connecting
        rcases removal connecting with ⟨⟨removing, sockfd⟩, removed⟩
        rw [removed]
        exact ⟨_, rfl⟩
      · exact ⟨_, rfl⟩
  | write =>
      simp only [callback, handleWrite]
      split
      · rename_i connecting
        rcases removal connecting with ⟨⟨removing, sockfd⟩, removed⟩
        rw [removed, Checked.ok_bind]
        dsimp only
        split
        · exact ⟨_, rfl⟩
        · split <;> exact ⟨_, rfl⟩
      · rename_i notConnecting
        have idle : system.connector.state = .kDisconnected := by
          cases found : system.connector.state with
          | kDisconnected => rfl
          | kConnecting => exact absurd found notConnecting
          | kConnected => exact absurd found (state rfl)
        rw [Checked.check_bind_of idle]
        exact ⟨_, rfl⟩

theorem startInLoop_succeeds {attempt : ConnectAttempt}
    (idle : system.connector.state = .kDisconnected)
    (noChannel : system.connector.channel = none)
    (fresh : ∀ sockfd ∈ attempt.sockfd, system.Fresh sockfd) (socket : attempt.sockfd ≠ none) :
    ∃ next, system.startInLoop attempt = .ok next := by
  unfold startInLoop
  rw [Checked.check_bind_of idle]
  split
  · rcases Option.ne_none_iff_exists'.mp socket with ⟨sockfd, isSocket⟩
    rcases system.connect_cases isSocket with waits | retries | closes
    · rcases fresh sockfd isSocket with ⟨_, absent, unwatched⟩
      rcases (system.createNonblockingOrDie sockfd).connecting_eq attempt.address absent
        unwatched with ⟨channel, poller, _, _, _, eq⟩
      rw [waits, eq, Checked.check_bind_of (by exact noChannel)]
      exact ⟨_, rfl⟩
    · exact ⟨_, retries⟩
    · exact ⟨_, closes⟩
  · exact ⟨_, rfl⟩

/-- While its events are handled, or while an attempt is under way, there is a channel. -/
theorem Sound.channel_of_present (sound : system.Sound)
    (present : system.view.Trying ∨ 0 < system.resets) :
    ∃ channel, system.connector.channel = some channel := by
  by_cases trying : system.view.Trying
  · rcases sound.attached trying.1 trying.2 with ⟨channel, attached⟩
    exact ⟨channel, attached.isChannel⟩
  · have pending := present.resolve_left trying
    have detached := sound.detached (not_and_or.mp trying)
    rw [detached.resets] at pending
    cases isChannel : system.connector.channel with
    | none => simp [isChannel] at pending
    | some channel => exact ⟨channel, rfl⟩

theorem isCurrent_of_stack {rest : List Channel.Callback} {below : List ConnectorFrame}
    (stack : system.stack = .handleEvent rest :: below) : system.isCurrent = true := by
  simp [isCurrent, stack, ConnectorFrame.isHandleEvent]

theorem resume_succeeds {attempt : ConnectAttempt} (outcome : SocketOutcome)
    (sound : system.Sound) (handling : system.view.Handling)
    (fresh : ∀ sockfd ∈ attempt.sockfd, system.Fresh sockfd)
    (starts : system.stack.head? = some .startInLoop →
      system.connector.state = .kDisconnected ∧ system.connector.channel = none ∧
        attempt.sockfd ≠ none) :
    ∃ next, system.resume attempt outcome = .ok next := by
  unfold resume
  cases stack : system.stack with
  | nil => exact ⟨_, rfl⟩
  | cons frame below =>
      have calm := sound.calm_below stack
      cases frame with
      | startInLoop =>
          rcases starts (by rw [stack]; rfl) with ⟨idle, noChannel, socket⟩
          exact startInLoop_succeeds idle noChannel fresh socket
      | retry sockfd | connected sockfd | newConnectionCallback sockfd => exact ⟨_, rfl⟩
      | handleEvent rest =>
          have viewStack : system.view.stack = .handleEvent rest :: below := stack
          have called := ConnectorView.handler_mem viewStack
          cases rest with
          | nil =>
              have present := handling.present (List.ne_nil_of_mem called)
              rcases sound.channel_of_present present with ⟨channel, isChannel⟩
              simp only [finishEvent, isChannel]
              exact ⟨_, rfl⟩
          | cons callback rest =>
              have handlingFrames : ∀ frame ∈ ConnectorFrame.handleEvent rest :: below,
                  frame.sockfd? = none :=
                List.forall_mem_cons.mpr ⟨rfl, calm⟩
              refine callback_succeeds (sound.replace_top stack rfl handlingFrames)
                handlingFrames (isCurrent_of_stack rfl) ?_ outcome
              rintro rfl
              exact (handling.callbacks _ called).2 List.mem_cons_self

theorem runFunctor_succeeds {functor : ConnectorFunctor} {rest : FunctorQueue ConnectorFunctor}
    (sound : system.Sound) (handling : system.view.Handling)
    (taken : system.functors.next = some (functor, rest)) (noCalls : system.stack = [])
    (running : system.phase = .runningFunctors) :
    ∃ next, runFunctor { system with functors := rest } functor = .ok next := by
  cases functor with
  | startInLoop | other tag => exact ⟨_, rfl⟩
  | stopInLoop =>
      simp only [runFunctor, stopInLoop]
      split
      · rename_i connecting
        have before := sound.take taken (by simp) running
        rcases removeAndResetChannel_succeeds before (calm_of_stack_nil noCalls) connecting
          .kDisconnected (fun isHandling => by cases running.symm.trans isHandling) with
          ⟨⟨removing, sockfd⟩, removed⟩
        rw [removed]
        exact ⟨_, rfl⟩
      · exact ⟨_, rfl⟩
  | resetChannel =>
      have pending := resets_next taken
      have nothing := (calm_of_stack_nil noCalls).disposing
      simp only [if_true] at pending
      have idle : system.connector.state ≠ .kConnecting := by
        intro connecting
        rcases sound.attached connecting nothing with ⟨channel, attached⟩
        rw [attached.resets] at pending
        omega
      have detached := sound.detached (.inl idle)
      simp only [runFunctor, resetChannel]
      split
      · exact ⟨_, rfl⟩
      · rename_i channel isChannel
        have isChannel : system.connector.channel = some channel := isChannel
        have removed := detached.removed channel isChannel
        have notHandling : channel.eventHandling = false := by
          have flag := handling.flag (ConnectorView.handlers_of_stack_nil (by exact noCalls))
          simpa [view, isChannel] using flag
        rw [Checked.check_bind_of notHandling, Checked.check_bind_of removed.addedToLoop,
          Checked.check_bind_of removed.channels]
        exact ⟨_, rfl⟩

/-- An assertion can fail in `startInLoop` only: when it finds another state than
`kDisconnected`, or the channel of the previous attempt. -/
theorem step_succeeds (action : Action) (sound : system.Sound)
    (handling : system.view.Handling) (allowed : system.Allowed action)
    (starts : ∀ attempt outcome, action = .resume attempt outcome →
      system.stack.head? = some .startInLoop →
      system.connector.state = .kDisconnected ∧ system.connector.channel = none ∧
        attempt.sockfd ≠ none) :
    ∃ next, system.step action = .ok next := by
  cases action with
  | start _ | stop _ | restart | enterLoop | leaveLoop | fireTimer _ | swapFunctors
  | finishFunctors | queueOther _ | otherChannel _ _ _ | releaseSocket _ => exact ⟨_, rfl⟩
  | push thread =>
      simp only [step]
      split <;> exact ⟨_, rfl⟩
  | resume attempt outcome =>
      exact resume_succeeds outcome sound handling allowed.2 (starts attempt outcome rfl)
  | poll reported =>
      cases reported with
      | none => exact ⟨_, rfl⟩
      | some revents =>
          rcases allowed with ⟨_, channel, isChannel, registered, isRegistered, address⟩
          rcases sound.reported isChannel isRegistered address with ⟨connecting, nothing⟩
          rcases sound.attached connecting nothing with ⟨found, attached⟩
          have waiting := attached.connecting
          simp only [step, poll, attached.isChannel]
          rw [Checked.check_bind_of (by simp [waiting.channels]),
            Checked.check_bind_of waiting.channels]
          exact ⟨_, rfl⟩
  | dispatch =>
      rcases allowed with ⟨isHandling, _, isWaiting⟩
      have trying := handling.waiting isHandling isWaiting
      rcases sound.channel_of_present (.inl trying) with ⟨channel, isChannel⟩
      simp only [step, dispatch, isChannel]
      exact ⟨_, rfl⟩
  | runFunctor =>
      simp only [step]
      split
      · rename_i functor rest taken
        exact runFunctor_succeeds sound handling taken allowed.2.1 allowed.1
      · exact ⟨_, rfl⟩

end ConnectorSystem

end Ccnet.Net
