import Ccnet.Net.Connection.Control

/-! # Destroying a connection

`connectDestroyed` runs after the server has removed the connection, or from the
server's destructor. It leaves a closed connection that the poller has forgotten,
unless it meets a connection that is only shutting down, reading is started again
behind its back, another thread sets the state after it, or the destructor runs
while the channel's events still wait. -/

namespace Ccnet.Net

namespace Control

variable {before after : Control} {label : Label}

/-- No other thread's `setState(kDisconnecting)` comes after the connection was closed,
reading is not started once it is disconnected, `connectDestroyed` does not meet a
connection that is shutting down, and in the loop thread the server is not destroyed
while the channel's events are those of this iteration, unless they are what is being
handled. -/
def DestroysCleanly (control : Control) : Label → Prop
  | .setDisconnecting | .startRead => control.state ≠ .kDisconnected
  | .connectDestroyed => control.state ≠ .kDisconnecting
  | .destroyServer => control.eventHandling = true →
      control.stack.any Frame.isHandleEvent = true ∨ control.activity = .absent
  | .stopRead | .poll _ | .handleClose | .other => True

instance (control : Control) :
    (label : Label) → Decidable (control.DestroysCleanly label)
  | .setDisconnecting | .startRead | .connectDestroyed => inferInstanceAs (Decidable (_ ≠ _))
  | .destroyServer => inferInstanceAs (Decidable (_ → _))
  | .stopRead | .poll _ | .handleClose | .other => inferInstanceAs (Decidable True)

/-! ## Between the test and the set -/

/-- `connectDestroyed` has found the connection connected, and only other threads have
run since. -/
structure Testing (control : Control) : Prop where
  innermost : .destroyConnected ∉ control.stack.tail
  isOpen : .destroyConnected ∈ control.stack → control.isOpen

theorem Testing.of_not_mem (absent : .destroyConnected ∉ after.stack) : after.Testing where
  innermost member := absent (List.mem_of_mem_tail member)
  isOpen member := absurd member absent

theorem Step.testing (stepped : before.Step label after) (testing : before.Testing) :
    after.Testing := by
  have innermost := testing.innermost
  cases stepped with
  | same => exact testing
  | beginSetting => exact ⟨testing.innermost, testing.isOpen⟩
  | disconnecting | setDisconnecting => exact ⟨testing.innermost, fun _ => .inr rfl⟩
  | enableWriting _ updated | startRead updated | stopRead updated =>
      rcases updated with ⟨index, inKernel, known, removes, deleted, rfl⟩
      exact ⟨testing.innermost, testing.isOpen⟩
  | pollOthers stack | poll _ stack | dispatch stack | endEvents stack | forceClose stack
  | destroyLater stack => exact .of_not_mem (by simp [stack])
  | destroyServer userCode =>
      refine .of_not_mem ?_
      cases stack : before.stack with
      | nil => simp
      | cons frame below =>
          rw [stack] at innermost userCode
          have notTesting : frame ≠ .destroyConnected := by
            rintro rfl
            cases userCode _ rfl
          simpa [notTesting.symm] using innermost
  | connectEstablished stack _ updated =>
      rcases updated with ⟨index, inKernel, known, removes, deleted, rfl⟩
      rw [stack] at innermost
      exact .of_not_mem (by simpa using innermost)
  | finish stack | readNothing stack | readData stack | closeCallback stack
  | connectDestroyedLate stack | channelRemove stack =>
      rw [stack] at innermost
      exact .of_not_mem (by simpa using innermost)
  | @nextCallback callback _ _ stack =>
      rw [stack] at innermost
      refine .of_not_mem ?_
      cases callback <;> simpa [called] using innermost
  | disableWriting stack _ updated =>
      rcases updated with ⟨index, inKernel, known, removes, deleted, rfl⟩
      rw [stack] at innermost
      exact .of_not_mem innermost
  | handleClose stack _ disconnected | destroyConnected stack disconnected =>
      rcases disconnected with ⟨_, ⟨index, inKernel, known, removes, deleted, rfl⟩, rfl⟩
      rw [stack] at innermost
      exact .of_not_mem (by simpa using innermost)
  | connectDestroyed stack connected =>
      rw [stack] at innermost
      exact ⟨innermost, fun _ => .inl connected⟩

/-! ## The callbacks -/

/-- What `connectionCallback_` has been told when the connection is in a state. -/
def callbacksIn : StateE → List Bool
  | .kConnecting => []
  | .kConnected | .kDisconnecting => [true]
  | .kDisconnected => [true, false]

def Told (control : Control) : Prop :=
  control.connectionCallbacks = callbacksIn control.state

theorem Told.updated {events : PollEvents} (told : before.Told)
    (updated : before.Updated after events) : after.Told := by
  rcases updated with ⟨index, inKernel, known, removes, deleted, rfl⟩
  exact told

theorem callbacksIn_of_isOpen (isOpen : before.isOpen) :
    callbacksIn before.state = [true] := by
  rcases isOpen with connected | disconnecting
  · rw [connected]
    rfl
  · rw [disconnecting]
    rfl

theorem Told.disconnected {below : List Frame} (told : before.Told)
    (isOpen : before.isOpen) (disconnected : before.Disconnected after below) :
    after.Told := by
  rcases disconnected with ⟨_, ⟨index, inKernel, known, removes, deleted, rfl⟩, rfl⟩
  unfold Told at told ⊢
  simp only [told, callbacksIn_of_isOpen isOpen]
  rfl

theorem Step.told (stepped : before.Step label after)
    (clean : before.DestroysCleanly label) (registered : before.Registered)
    (testing : before.Testing) (told : before.Told) : after.Told := by
  cases stepped with
  | same | beginSetting | pollOthers | poll | dispatch | endEvents | forceClose | destroyLater
  | destroyServer | finish | readNothing | readData | closeCallback
  | connectDestroyed | connectDestroyedLate | channelRemove => exact told
  | disconnecting isOpen => exact told.trans (callbacksIn_of_isOpen isOpen)
  | setDisconnecting tested =>
      have isOpen := isOpen_of_ne (registered.setting _ tested) clean
      exact told.trans (callbacksIn_of_isOpen isOpen)
  | enableWriting _ updated | startRead updated | stopRead updated => exact told.updated updated
  | connectEstablished _ connecting updated =>
      rcases updated with ⟨index, inKernel, known, removes, deleted, rfl⟩
      unfold Told at told ⊢
      simp only [told, connecting]
      rfl
  | @nextCallback callback => cases callback <;> exact told
  | disableWriting _ _ updated =>
      refine Told.updated ?_ updated
      exact told
  | handleClose _ isOpen disconnected => exact told.disconnected isOpen disconnected
  | destroyConnected stack disconnected =>
      exact told.disconnected (testing.isOpen (by simp [stack])) disconnected

end Control

/-! ## The call stack -/

/-- `connectDestroyed` is under way. -/
def Frame.destroys : Frame → Bool
  | .connectDestroyed | .destroyConnected | .channelRemove => true
  | .connectEstablished | .connectionCallback | .messageCallback | .handleEvent _
  | .handleRead | .handleWrite | .handleClose | .closeCallback => false

/-- `connectDestroyed` is under way only where the loop lets it remove the
channel, and its last line only in a closed connection. -/
structure Removing (stack : List Frame) (state : StateE) (eventHandling : Bool)
    (activity : Activity) : Prop where
  outermost : stack.Pairwise fun upper _ => upper.isHandleEvent = false
  closed : .channelRemove ∈ stack → state = .kDisconnected
  permitted : ∀ frame ∈ stack, frame.destroys = true → eventHandling = true →
    stack.any Frame.isHandleEvent = true ∨ activity = .absent

namespace Removing

variable {frame : Frame} {stack below : List Frame} {state : StateE}
  {eventHandling : Bool} {activity : Activity}

theorem nil : Removing [] state eventHandling activity :=
  ⟨.nil, by simp, by simp⟩

theorem pop (removing : Removing (frame :: below) state eventHandling activity) :
    Removing below state eventHandling activity where
  outermost := (List.pairwise_cons.mp removing.outermost).2
  closed member := removing.closed (List.mem_cons_of_mem _ member)
  permitted other member destroys handling := by
    have notEvent := (List.pairwise_cons.mp removing.outermost).1 other member
    have permitted := removing.permitted other (List.mem_cons_of_mem _ member) destroys handling
    simpa [notEvent] using permitted

theorem push (removing : Removing stack state eventHandling activity)
    (notEvent : frame.isHandleEvent = false)
    (closed : frame = .channelRemove → state = .kDisconnected)
    (permitted : frame.destroys = true →
      eventHandling = true → stack.any Frame.isHandleEvent = true ∨ activity = .absent) :
    Removing (frame :: stack) state eventHandling activity where
  outermost := List.pairwise_cons.mpr ⟨fun _ _ => notEvent, removing.outermost⟩
  closed member := by
    rcases List.mem_cons.mp member with same | member
    · exact closed same.symm
    · exact removing.closed member
  permitted other member destroys handling := by
    simp only [List.any_cons, notEvent, Bool.false_or]
    rcases List.mem_cons.mp member with rfl | member
    · exact permitted destroys handling
    · exact removing.permitted other member destroys handling

theorem setState (next : StateE) (removing : Removing stack state eventHandling activity)
    (stays : state = .kDisconnected → next = .kDisconnected) :
    Removing stack next eventHandling activity :=
  ⟨removing.outermost, fun member => stays (removing.closed member), removing.permitted⟩

theorem nextCallback {callback : Channel.Callback} {rest : List Channel.Callback}
    (removing : Removing (.handleEvent (callback :: rest) :: below) state eventHandling
      activity) :
    Removing (.handleEvent rest :: below) state eventHandling activity where
  outermost := by simpa [Frame.isHandleEvent] using removing.outermost
  closed := by simpa using removing.closed
  permitted _ _ _ _ := .inl rfl

/-- The rest of `connectDestroyed` is permitted where its start was. -/
theorem proceed {later : Frame}
    (removing : Removing (frame :: below) state eventHandling activity)
    (destroys : frame.destroys = true) (notEvent : later.isHandleEvent = false)
    (closed : later = .channelRemove → state = .kDisconnected) :
    Removing (later :: below) state eventHandling activity := by
  refine removing.pop.push notEvent closed (fun _ handling => ?_)
  have permitted := removing.permitted frame List.mem_cons_self destroys handling
  cases frame with
  | connectDestroyed | destroyConnected | channelRemove =>
      simpa [Frame.isHandleEvent] using permitted
  | _ => cases destroys

end Removing

namespace Control

variable {before after : Control} {label : Label}

def removing (control : Control) : Prop :=
  Removing control.stack control.state control.eventHandling control.activity

theorem removing.updated {events : PollEvents} (removing : before.removing)
    (updated : before.Updated after events) : after.removing := by
  rcases updated with ⟨index, inKernel, known, removes, deleted, rfl⟩
  exact removing

theorem Step.removing (stepped : before.Step label after)
    (clean : before.DestroysCleanly label) (registered : before.Registered)
    (removing : before.removing) : after.removing := by
  have started := removing
  unfold Control.removing at started ⊢
  cases stepped with
  | same | beginSetting => exact removing
  | disconnecting isOpen =>
      exact started.setState _ fun closed => absurd closed isOpen.notClosed
  | setDisconnecting =>
      exact started.setState _ fun closed => absurd closed clean
  | enableWriting _ updated | startRead updated | stopRead updated => exact removing.updated updated
  | pollOthers stack | poll revents stack | endEvents stack => simpa only [stack] using Removing.nil
  | dispatch => exact ⟨List.pairwise_singleton _ _, by simp, by simp [Frame.destroys]⟩
  | forceClose => exact Removing.nil.push rfl (by simp) (by simp [Frame.destroys])
  | destroyLater _ idle => exact Removing.nil.push rfl (by simp) (by simp [idle])
  | destroyServer => exact started.push rfl (by simp) (fun _ => clean)
  | connectEstablished stack connecting updated =>
      rcases updated with ⟨index, inKernel, known, removes, deleted, rfl⟩
      rw [stack] at started
      have connected := started.pop.setState .kConnected (by simp [connecting])
      exact connected.push rfl (by simp) (by simp [Frame.destroys])
  | finish stack | closeCallback stack | channelRemove stack =>
      rw [stack] at started
      exact started.pop
  | @nextCallback callback rest below stack =>
      rw [stack] at started
      cases callback with
      | error => exact started.nextCallback
      | close | read | write => 
          exact started.nextCallback.push rfl (by simp) (by simp [Frame.destroys])
  | readNothing stack | readData stack =>
      rw [stack] at started
      exact started.pop.push rfl (by simp) (by simp [Frame.destroys])
  | disableWriting stack _ updated =>
      rw [stack] at started
      refine Control.removing.updated ?_ updated
      exact started.pop
  | handleClose stack _ disconnected =>
      rcases disconnected with ⟨_, ⟨index, inKernel, known, removes, deleted, rfl⟩, rfl⟩
      rw [stack] at started
      have closed := started.pop.setState .kDisconnected (fun _ => rfl)
      have calling : Removing (.closeCallback :: _) _ _ _ :=
        closed.push rfl (by simp) (by simp [Frame.destroys])
      exact calling.push rfl (by simp) (by simp [Frame.destroys])
  | connectDestroyed stack =>
      rw [stack] at started
      exact started.proceed rfl rfl (by simp)
  | destroyConnected stack disconnected =>
      rcases disconnected with ⟨_, ⟨index, inKernel, known, removes, deleted, rfl⟩, rfl⟩
      rw [stack] at started
      have closed := started.setState .kDisconnected (fun _ => rfl)
      exact (closed.proceed rfl rfl fun _ => rfl).push rfl (by simp) (by simp [Frame.destroys])
  | connectDestroyedLate stack notConnected =>
      rw [stack] at started
      refine started.proceed rfl rfl fun _ => ?_
      cases state : before.state with
      | kDisconnected => rfl
      | kConnecting => exact absurd state (registered.notConnecting (by simp [stack]))
      | kConnected => exact absurd state notConnected
      | kDisconnecting => exact absurd state clean

structure Destroys (control : Control) : Prop where
  registered : control.Registered
  quiet : control.Quiet
  testing : control.Testing
  told : control.Told
  removing : control.removing

theorem Step.destroys (stepped : before.Step label after)
    (clean : before.DestroysCleanly label) (destroys : before.Destroys) :
    after.Destroys where
  registered := stepped.registered destroys.registered
  quiet := by
    refine stepped.quiet ?_ destroys.quiet
    rintro rfl
    exact clean
  testing := stepped.testing destroys.testing
  told := stepped.told clean destroys.registered destroys.testing destroys.told
  removing := stepped.removing clean destroys.registered destroys.removing

end Control

/-! ## Runs -/

namespace ConnectionSystem

variable {system : ConnectionSystem}

def DestroysCleanly (system : ConnectionSystem) (action : Action) : Prop :=
  system.control.DestroysCleanly (system.label action)

instance (system : ConnectionSystem) (action : Action) :
    Decidable (system.DestroysCleanly action) :=
  inferInstanceAs (Decidable (system.control.DestroysCleanly _))

/-- The connection as `connectDestroyed` is meant to leave it. -/
structure Destroyed (system : ConnectionSystem) : Prop where
  state : system.connection.state = .kDisconnected
  channels : system.poller.channels system.connection.channel.fd = none
  kernel : system.poller.kernel system.connection.channel.fd = none
  callbacks : system.history.connectionCallbacks = [true, false]

theorem Initial.destroys (initial : system.Initial) : system.control.Destroys := by
  rw [initial.control]
  exact {
    registered := ⟨by simp, by simp, by simp, by simp⟩
    quiet := by simp [Control.Quiet]
    testing := .of_not_mem (by simp)
    told := rfl
    removing := Removing.nil.push rfl (by simp) (by simp [Frame.destroys]) }

theorem destroys_of_reachable
    (reachable : (machine.restrict DestroysCleanly).Reachable system) :
    system.control.Destroys := by
  refine reachable.invariant (fun system => system.control.Destroys)
    (fun _ => Initial.destroys) ?_
  rintro before action after destroys ⟨allowed, clean⟩ stepped
  exact (step_control allowed stepped).destroys clean destroys

/-- A connection that is established can be disconnected. -/
theorem disconnect_of (registered : system.control.Registered)
    (established : system.connection.state ≠ .kConnecting)
    (running : system.removed = false) (below : List Frame) :
    ∃ next, system.disconnect below = .ok next := by
  have known := registered.known established running
  have recorded : system.poller.channels system.connection.channel.fd =
      some system.connection.channel.address := of_decide_eq_true known.2
  have updates : ∃ result,
      system.connection.channel.disableAll system.poller = .ok result :=
    Channel.update_of recorded known.1
  rcases updates with ⟨⟨channel, poller⟩, updated⟩
  unfold disconnect withChannel
  simp only [setState, updated]
  exact ⟨_, rfl⟩

theorem destroyConnected_of (destroys : system.control.Destroys)
    (running : system.removed = false)
    (head : system.stack.head? = some .destroyConnected) :
    ∃ next, system.step .destroyConnected = .ok next := by
  have stack : system.control.stack ≠ [.connectEstablished] := by
    intro connecting
    have stack : system.stack = [.connectEstablished] := connecting
    simp [stack] at head
  exact disconnect_of destroys.registered (destroys.registered.notConnecting stack) running _

/-- `EventLoop::removeChannel` where the loop permits it. -/
theorem removeChannel_of
    (permitted : system.eventHandling = true →
      system.isCurrent = true ∨ system.activity = .absent)
    (recorded : system.poller.channels system.connection.channel.fd =
      some system.connection.channel.address)
    (noInterest : system.connection.channel.isNoneEvent = true)
    (known : system.connection.channel.index ≠ .kNew)
    (deleted : system.connection.channel.index = .kDeleted →
      system.poller.kernel system.connection.channel.fd = none) :
    ∃ next, system.removeChannel = .ok next ∧
      next.connection.state = system.connection.state ∧ next.history = system.history ∧
      next.poller.channels next.connection.channel.fd = none ∧
      next.poller.kernel next.connection.channel.fd = none := by
  have index : system.connection.channel.index = .kAdded ∨
      system.connection.channel.index = .kDeleted := by
    cases index : system.connection.channel.index with
    | kNew => exact absurd index known
    | kAdded => exact .inl rfl
    | kDeleted => exact .inr rfl
  rcases EPollPoller.removeChannel_of recorded noInterest index deleted with
    ⟨poller, removed, channels, kernel⟩
  unfold removeChannel
  rw [Checked.check_bind_of permitted, removed]
  exact ⟨_, rfl, rfl, rfl, channels, kernel⟩

/-- The last line of `connectDestroyed` finds the channel as it must be. -/
theorem channelRemove_of (destroys : system.control.Destroys)
    (running : system.removed = false)
    (head : system.stack.head? = some .channelRemove) :
    ∃ next, system.step .channelRemove = .ok next ∧ next.Destroyed := by
  have removing := destroys.removing
  have member : .channelRemove ∈ system.control.stack := List.mem_of_mem_head? head
  have closed : system.control.state = .kDisconnected := removing.closed member
  have told := destroys.told
  rw [Control.Told, closed] at told
  have noInterest : system.connection.channel.isNoneEvent = true :=
    decide_eq_true (destroys.quiet closed)
  have known := destroys.registered.known (by simp [closed]) running
  have deleted : system.connection.channel.index = .kDeleted →
      system.poller.kernel system.connection.channel.fd = none := by
    intro deleted
    simpa [control] using (destroys.registered.deleted deleted).2
  -- The frame that is being left is not one in which events are handled.
  have permitted : system.eventHandling = true →
      system.stack.tail.any Frame.isHandleEvent = true ∨ system.activity = .absent := by
    intro handling
    have permitted := removing.permitted _ member rfl handling
    rwa [show system.control.stack = .channelRemove :: system.stack.tail from
      cons_of_head? head] at permitted
  let leaving : ConnectionSystem := { system with
    connection := { system.connection with
      channel := { system.connection.channel with addedToLoop := false } }
    stack := system.stack.tail }
  have removal : ∃ next, leaving.removeChannel = .ok next ∧ _ :=
    removeChannel_of permitted (of_decide_eq_true known.2) noInterest known.1 deleted
  rcases removal with ⟨next, removed, state, history, channels, kernel⟩
  refine ⟨{ next with removed := true }, ?_, ?_⟩
  · simp only [step, channelRemove]
    rw [Checked.check_bind_of noInterest]
    exact Checked.bind_eq_ok_iff.mpr ⟨next, removed, rfl⟩
  · exact {
      state := state.trans closed
      channels := channels
      kernel := kernel
      callbacks := (congrArg ConnectionHistory.connectionCallbacks history).trans told }

/-- In every run that destroys cleanly, `connectDestroyed` runs to its end and
leaves the connection closed, forgotten by the poller and its user told of both
the beginning and the end. -/
theorem connectDestroyed_completes
    (reachable : (machine.restrict DestroysCleanly).Reachable system)
    (running : system.removed = false) :
    (system.stack.head? = some .connectDestroyed →
      ∃ next, system.step .connectDestroyed = .ok next) ∧
    (system.stack.head? = some .destroyConnected →
      ∃ next, system.step .destroyConnected = .ok next) ∧
    (system.stack.head? = some .channelRemove →
      ∃ next, system.step .channelRemove = .ok next ∧ next.Destroyed) :=
  ⟨fun _ => ⟨_, rfl⟩, destroyConnected_of (destroys_of_reachable reachable) running,
    channelRemove_of (destroys_of_reachable reachable) running⟩

/-- The server is destroyed while the connection is connected. -/
theorem connectDestroyed_completes_server :
    ∃ system, (machine.restrict DestroysCleanly).Reachable system ∧
      (system.removed = false ∧ system.stack.head? = some .channelRemove) ∧
      ∃ next, system.step .channelRemove = .ok next ∧ next.Destroyed := by
  have run := Machine.exists_reachable (machine.restrict DestroysCleanly)
    (fun system => system.removed = false ∧ system.stack.head? = some .channelRemove)
    lone_initial
    [.connectEstablished, .returnCallback, .destroyServer false, .swapFunctors,
      .runFunctor (.wrote 0), .connectDestroyed, .destroyConnected, .returnCallback]
    (by decide +kernel)
  rcases run with ⟨system, reachable, running, head⟩
  exact ⟨system, reachable, ⟨running, head⟩,
    (connectDestroyed_completes reachable running).2.2 head⟩

/-- The server is destroyed after `shutdown`: `connectDestroyed` skips the branch
for a connected connection and removes a channel that is still reading. -/
theorem channelRemove_while_disconnecting :
    ∃ system, machine.Reachable system ∧ system.stack.head? = some .channelRemove ∧
      system.connection.state = .kDisconnecting ∧
      system.connection.channel.isNoneEvent = false ∧
      (system.step .channelRemove).toOption.isNone = true :=
  Machine.exists_reachable machine
    (fun system => system.stack.head? = some .channelRemove ∧
      system.connection.state = .kDisconnecting ∧
      system.connection.channel.isNoneEvent = false ∧
      (system.step .channelRemove).toOption.isNone = true)
    lone_initial
    [.connectEstablished, .returnCallback, .call none .shutdown (.wrote 0),
      .destroyServer false, .swapFunctors, .runFunctor (.wrote 0), .connectDestroyed]
    (by decide +kernel)

end ConnectionSystem

end Ccnet.Net
