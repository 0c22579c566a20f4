import Ccnet.Net.Connection.Stream

/-! # Sending, in every run

Each step keeps the byte stream and the order of the messages. -/

namespace Ccnet.Net

theorem ConnectionFunctor.silent_or_message (functor : ConnectionFunctor) :
    functor.Silent ∨ ∃ sender message, functor = .sendInLoop sender message := by
  cases functor with
  | sendInLoop sender message => exact .inr ⟨sender, message, rfl⟩
  | shutdownInLoop | forceCloseInLoop | startReadInLoop | stopReadInLoop | connectDestroyed
  | writeCompleteCallback | highWaterMarkCallback size => exact .inl fun _ => rfl

/-- Only functors without a message were queued. -/
def OrderView.Notified (before after : OrderView) : Prop :=
  ∃ notes : List ConnectionFunctor, (∀ note ∈ notes, note.Silent) ∧
    after = { before with outstanding := before.outstanding ++ notes }

theorem OrderView.Notified.refl (view : OrderView) : view.Notified view :=
  ⟨[], by simp, by simp⟩

theorem OrderView.Notified.trans {first second third : OrderView}
    (left : first.Notified second) (right : second.Notified third) :
    first.Notified third := by
  rcases left with ⟨notes, silent, rfl⟩
  rcases right with ⟨more, moreSilent, rfl⟩
  refine ⟨notes ++ more, ?_, by simp⟩
  intro note member
  rcases List.mem_append.mp member with early | late
  · exact silent note early
  · exact moreSilent note late

theorem ProgramOrder.notified {before after : OrderView} (ordered : ProgramOrder before)
    (notified : before.Notified after) : ProgramOrder after := by
  rcases notified with ⟨notes, silent, rfl⟩
  exact ordered.append_silent silent

namespace ConnectionSystem

variable {unraced : Prop} {system next : ConnectionSystem}

def orderView (system : ConnectionSystem) : OrderView where
  outstanding := system.functors.outstanding
  pushing := system.pushing
  setting := system.setting
  sends := system.history.sends
  issued := system.history.issued

structure Streaming (unraced : Prop) (system : ConnectionSystem) : Prop where
  bytes : ByteStream unraced system.streamView
  order : ProgramOrder system.orderView

/-! ## The order of one step -/

theorem withChannel_orderView
    {operation : Channel → EPollPoller → Checked (Channel × EPollPoller)}
    (ran : system.withChannel operation = .ok next) :
    next.orderView = system.orderView := by
  rcases withChannel_ok ran with ⟨channel, poller, _, result⟩
  subst result
  rfl

theorem pushIf_notified {functor : ConnectionFunctor} (silent : functor.Silent)
    (due : Bool) :
    system.orderView.Notified (system.pushIf due functor).orderView := by
  cases due with
  | false => exact .refl _
  | true =>
      refine ⟨[functor], by simpa using silent, ?_⟩
      simp [orderView, pushIf, push]

theorem bufferRemaining_notified {remaining : List UInt8}
    (ran : system.bufferRemaining remaining = .ok next) :
    system.orderView.Notified next.orderView := by
  unfold bufferRemaining at ran
  rcases Checked.bind_eq_ok_iff.mp ran with ⟨outputBuffer, _, result⟩
  dsimp only at result
  split at result
  · cases result
    exact pushIf_notified (fun _ => rfl) _
  · rw [withChannel_orderView result]
    exact pushIf_notified (fun _ => rfl) _

theorem finishSend_notified {faultError : Bool} {remaining : List UInt8}
    (ran : system.finishSend faultError remaining = .ok next) :
    system.orderView.Notified next.orderView := by
  unfold finishSend at ran
  split at ran
  · exact bufferRemaining_notified ran
  · cases ran
    exact .refl _

/-- `sendInLoop` records its message and queues at most user callbacks. -/
theorem sendInLoop_orderView {sender : Caller} {data : List UInt8}
    {result : WriteResult} (ran : system.sendInLoop sender data result = .ok next) :
    ∃ fate, OrderView.Notified
      { system.orderView with
        sends := system.history.sends ++ [⟨sender, data, fate⟩] } next.orderView := by
  unfold sendInLoop at ran
  split at ran
  · cases ran
    exact ⟨.gaveUp, .refl _⟩
  · rw [Checked.check_bind_of (by simp)] at ran
    rcases Checked.bind_eq_ok_iff.mp ran with ⟨finished, finishedRan, recorded⟩
    cases recorded
    generalize (if (writesDirectly system.connection && result.isFault) = true then
      SendFate.faulted else SendFate.taken) = fate
    refine ⟨fate, ?_⟩
    have notified := (pushIf_notified (fun _ => rfl) _).trans
      (finishSend_notified finishedRan)
    rcases notified with ⟨notes, silent, view⟩
    refine ⟨notes, silent, ?_⟩
    simp only [orderView, OrderView.mk.injEq] at view
    simp only [orderView, recordSend, view]
    rfl

theorem handleWrite_notified {below : List Frame} {result : WriteResult}
    (ran : system.handleWrite below result = .ok next) :
    system.orderView.Notified next.orderView := by
  unfold handleWrite at ran
  split at ran
  · rcases Checked.bind_eq_ok_iff.mp ran with ⟨outputBuffer, _, afterRetrieve⟩
    dsimp only at afterRetrieve
    split at afterRetrieve
    · rcases Checked.bind_eq_ok_iff.mp afterRetrieve with ⟨drained, disabled, result⟩
      have same := withChannel_orderView disabled
      have notified : system.orderView.Notified (drained.pushIf
          drained.connection.writeCompleteCallback .writeCompleteCallback).orderView := by
        have view : system.orderView = drained.orderView := same.symm
        rw [view]
        exact pushIf_notified (fun _ => rfl) _
      split at result
      · cases result
        unfold shutdownInLoop
        split
        · exact notified
        · exact notified
      · cases result
        exact notified
    · cases afterRetrieve
      exact .refl _
  · cases ran
    exact .refl _

/-! ## One step -/

theorem setState_streaming (streaming : system.Streaming unraced) {state : StateE}
    (closed : unraced → system.connection.state = .kDisconnected → state = .kDisconnected) :
    (system.setState state).Streaming unraced :=
  ⟨streaming.bytes.setState closed, streaming.order⟩

theorem queueInLoop_streaming (streaming : system.Streaming unraced) {caller : Caller}
    {functor : ConnectionFunctor} (mayCall : system.MayCall caller)
    (silent : functor.Silent) : (system.queueInLoop caller functor).Streaming unraced := by
  cases caller with
  | none =>
      refine ⟨streaming.bytes, ?_⟩
      refine streaming.order.notified ⟨[functor], by simpa using silent, ?_⟩
      simp [orderView, queueInLoop, push]
  | some thread =>
      refine ⟨streaming.bytes, ?_⟩
      have entered := streaming.order.begin_silent mayCall.1
        (show ∀ queued ∈ some functor, queued.Silent from
          fun _ queued => Option.some.inj queued ▸ silent)
      rwa [show Function.update system.orderView.setting thread none =
        system.setting from Function.update_eq_self_iff.mpr mayCall.2.symm] at entered

theorem sendInLoop_streaming (bytes : ByteStream unraced system.streamView) {sender : Caller}
    {data : List UInt8} {result : WriteResult}
    (order : ∀ fate, ProgramOrder { system.orderView with
      sends := system.history.sends ++ [⟨sender, data, fate⟩] })
    (ran : system.sendInLoop sender data result = .ok next) : next.Streaming unraced := by
  rcases sendInLoop_orderView ran with ⟨fate, notified⟩
  exact ⟨sendInLoop_bytes bytes ran, (order fate).notified notified⟩

theorem withChannel_streaming (streaming : system.Streaming unraced)
    {operation : Channel → EPollPoller → Checked (Channel × EPollPoller)}
    (ran : system.withChannel operation = .ok next)
    (view : next.streamView = system.streamView) : next.Streaming unraced := by
  refine ⟨?_, ?_⟩
  · rw [view]
    exact streaming.bytes
  · rw [withChannel_orderView ran]
    exact streaming.order

theorem startReadInLoop_streaming (streaming : system.Streaming unraced)
    (ran : system.startReadInLoop = .ok next) : next.Streaming unraced := by
  unfold startReadInLoop at ran
  split at ran
  · rcases Checked.bind_eq_ok_iff.mp ran with ⟨enabled, enabledRan, result⟩
    cases result
    have kept := withChannel_streaming streaming enabledRan
      (enableReading_streamView enabledRan)
    exact ⟨kept.bytes, kept.order⟩
  · cases ran
    exact streaming

theorem stopReadInLoop_streaming (streaming : system.Streaming unraced)
    (ran : system.stopReadInLoop = .ok next) : next.Streaming unraced := by
  unfold stopReadInLoop at ran
  split at ran
  · rcases Checked.bind_eq_ok_iff.mp ran with ⟨disabled, disabledRan, result⟩
    cases result
    have kept := withChannel_streaming streaming disabledRan
      (disableReading_streamView disabledRan)
    exact ⟨kept.bytes, kept.order⟩
  · cases ran
    exact streaming

/-- The functors other than `sendInLoop`. -/
theorem runFunctor_silent_streaming (streaming : system.Streaming unraced)
    {functor : ConnectionFunctor} {result : WriteResult} (silent : functor.Silent)
    (ran : system.runFunctor functor result = .ok next) : next.Streaming unraced := by
  cases functor with
  | sendInLoop sender message =>
      have carried := silent sender
      simp [ConnectionFunctor.messageOf] at carried
  | shutdownInLoop =>
      cases ran
      refine ⟨shutdownInLoop_bytes streaming.bytes, ?_⟩
      unfold shutdownInLoop
      split
      · exact streaming.order
      · exact streaming.order
  | forceCloseInLoop =>
      cases ran
      unfold forceCloseInLoop
      split
      · exact ⟨streaming.bytes, streaming.order⟩
      · exact streaming
  | startReadInLoop => exact startReadInLoop_streaming streaming ran
  | stopReadInLoop => exact stopReadInLoop_streaming streaming ran
  | connectDestroyed =>
      cases ran
      exact ⟨streaming.bytes, streaming.order⟩
  | writeCompleteCallback | highWaterMarkCallback size =>
      cases ran
      exact streaming

theorem runInLoop_silent_streaming (streaming : system.Streaming unraced) {caller : Caller}
    {functor : ConnectionFunctor} {result : WriteResult}
    (mayCall : system.MayCall caller) (silent : functor.Silent)
    (ran : system.runInLoop caller functor result = .ok next) : next.Streaming unraced := by
  cases caller with
  | none => exact runFunctor_silent_streaming streaming silent ran
  | some thread =>
      cases ran
      exact queueInLoop_streaming streaming mayCall silent

theorem send_streaming (streaming : system.Streaming unraced) {caller : Caller}
    {message : List UInt8} {result : WriteResult} (mayCall : system.MayCall caller)
    (ran : system.send caller message result = .ok next) : next.Streaming unraced := by
  unfold send at ran
  split at ran
  · cases caller with
    | none =>
        refine sendInLoop_streaming ?_ ?_ ran
        · exact streaming.bytes
        · exact fun fate => streaming.order.send_direct message fate
    | some thread =>
        cases ran
        exact ⟨streaming.bytes, streaming.order.begin_message mayCall.1 mayCall.2 message⟩
  · cases ran
    exact streaming

theorem isOpen.notClosed (isOpen : system.isOpen) :
    system.connection.state ≠ .kDisconnected := by
  intro closed
  rcases isOpen with connected | disconnecting
  · rw [connected] at closed
    cases closed
  · rw [disconnecting] at closed
    cases closed

theorem disconnecting_streaming (streaming : system.Streaming unraced)
    (notClosed : unraced → system.connection.state ≠ .kDisconnected) :
    (system.setState .kDisconnecting).Streaming unraced :=
  setState_streaming streaming fun only closed => absurd closed (notClosed only)

theorem beginSetting_streaming (streaming : system.Streaming unraced) {thread : ThreadId}
    {functor : Option ConnectionFunctor} (mayCall : system.MayCall (some thread))
    (silent : ∀ queued ∈ functor, queued.Silent) :
    (system.beginSetting thread functor).Streaming unraced :=
  ⟨streaming.bytes, streaming.order.begin_setting mayCall.1 silent⟩

theorem setDisconnecting_streaming (streaming : system.Streaming unraced) {thread : ThreadId}
    (notClosed : unraced → system.connection.state ≠ .kDisconnected) :
    (system.setDisconnecting thread).Streaming unraced := by
  unfold setDisconnecting
  split
  · rename_i functor setting
    rcases streaming.order.ownSet thread functor setting with ⟨free, silent⟩
    exact ⟨(disconnecting_streaming streaming notClosed).bytes,
      streaming.order.begin_silent free silent⟩
  · exact streaming

theorem call_streaming (streaming : system.Streaming unraced) {caller : Caller} {call : Call}
    {result : WriteResult} (mayCall : system.MayCall caller)
    (ran : system.step (.call caller call result) = .ok next) : next.Streaming unraced := by
  cases call with
  | send message => exact send_streaming streaming mayCall ran
  | shutdown =>
      simp only [step, shutdown] at ran
      split at ran
      · rename_i connected
        cases caller with
        | none =>
            have disconnecting := disconnecting_streaming streaming
              fun _ => isOpen.notClosed (.inl connected)
            exact runInLoop_silent_streaming disconnecting (show MayCall _ none from mayCall)
              (fun _ => rfl) ran
        | some thread =>
            cases ran
            refine beginSetting_streaming streaming mayCall ?_
            rintro _ ⟨⟩ _
            rfl
      · cases ran
        exact streaming
  | forceClose =>
      cases ran
      unfold forceClose
      split
      · rename_i isOpen
        cases caller with
        | none =>
            have disconnecting := disconnecting_streaming streaming fun _ => isOpen.notClosed
            exact queueInLoop_streaming disconnecting (show MayCall _ none from mayCall)
              fun _ => rfl
        | some thread =>
            refine beginSetting_streaming streaming mayCall ?_
            rintro _ ⟨⟩ _
            rfl
      · exact streaming
  | forceCloseWithDelay =>
      cases ran
      unfold forceCloseWithDelay
      split
      · rename_i isOpen
        cases caller with
        | none => exact disconnecting_streaming streaming fun _ => isOpen.notClosed
        | some thread => exact beginSetting_streaming streaming mayCall (by rintro _ ⟨⟩)
      · exact streaming
  | startRead | stopRead => exact runInLoop_silent_streaming streaming mayCall (fun _ => rfl) ran

/-- Taking the next functor out of the batch and running it. -/
theorem runFunctor_streaming (streaming : system.Streaming unraced) {result : WriteResult}
    (ran : system.step (.runFunctor result) = .ok next) : next.Streaming unraced := by
  simp only [step] at ran
  split at ran
  · rename_i functor rest taken
    have first : system.orderView.outstanding = functor :: rest.outstanding :=
      FunctorQueue.outstanding_next taken
    rcases functor.silent_or_message with silent | ⟨sender, message, equal⟩
    · refine runFunctor_silent_streaming ?_ silent ran
      exact ⟨streaming.bytes, streaming.order.take_silent first silent⟩
    · subst equal
      refine sendInLoop_streaming ?_ ?_ ran
      · exact streaming.bytes
      · exact fun fate => streaming.order.take_message first fate
  · cases ran
    exact streaming

theorem disconnect_streaming (streaming : system.Streaming unraced) {below : List Frame}
    (ran : system.disconnect below = .ok next) : next.Streaming unraced := by
  rcases Checked.bind_eq_ok_iff.mp ran with ⟨disabled, disabledRan, result⟩
  cases result
  have bytes : ByteStream unraced disabled.streamView := by
    rw [disableAll_streamView disabledRan]
    exact streaming.bytes.close
  have order : ProgramOrder disabled.orderView := by
    rw [withChannel_orderView disabledRan]
    exact streaming.order
  exact ⟨bytes, order⟩

theorem connectEstablished_streaming (streaming : system.Streaming unraced) {below : List Frame}
    (ran : system.connectEstablished below = .ok next) : next.Streaming unraced := by
  rcases Checked.check_bind_eq_ok_iff.mp ran with ⟨connecting, rest⟩
  rcases Checked.bind_eq_ok_iff.mp rest with ⟨enabled, enabledRan, result⟩
  cases result
  have connected : (system.setState .kConnected).Streaming unraced :=
    setState_streaming streaming fun _ closed => by
      rw [connecting] at closed
      cases closed
  have poppedStreaming : ConnectionSystem.Streaming unraced
      { system.setState .kConnected with stack := below } :=
    ⟨connected.bytes, connected.order⟩
  have kept := withChannel_streaming poppedStreaming enabledRan
    (enableReading_streamView enabledRan)
  exact ⟨kept.bytes, kept.order⟩

theorem channelRemove_views {below : List Frame} (ran : system.channelRemove below = .ok next) :
    next.streamView = system.streamView ∧ next.orderView = system.orderView := by
  rcases Checked.check_bind_eq_ok_iff.mp ran with ⟨_, rest⟩
  rcases Checked.bind_eq_ok_iff.mp rest with ⟨removed, removedRan, result⟩
  cases result
  rcases Checked.check_bind_eq_ok_iff.mp removedRan with ⟨_, polled⟩
  rcases Checked.bind_eq_ok_iff.mp polled with ⟨⟨channel, poller⟩, channelRan, removal⟩
  cases removal
  have sameChannel := EPollPoller.removeChannel_channel channelRan
  refine ⟨?_, rfl⟩
  simp [streamView, sameChannel, Channel.isWriting]

/-- The actions that send, queue and close nothing. -/
def Action.keepsMessages : Action → Bool
  | .retrieveInput _ | .poll _ | .dispatch | .endEvents | .swapFunctors | .returnCallback
  | .nextCallback | .finishEvent | .handleRead _ | .closeCallback | .connectDestroyed
  | .channelRemove => true
  | _ => false

theorem step_views {action : Action} (keeps : action.keepsMessages = true)
    (allowed : system.Allowed action) (ran : system.step action = .ok next) :
    next.streamView = system.streamView ∧ next.orderView = system.orderView := by
  cases action with
  | retrieveInput len =>
      rcases Checked.bind_eq_ok_iff.mp ran with ⟨inputBuffer, _, result⟩
      cases result
      exact ⟨rfl, rfl⟩
  | poll reported =>
      cases reported with
      | none =>
          cases ran
          exact ⟨rfl, rfl⟩
      | some revents =>
          rcases Checked.check_bind_eq_ok_iff.mp ran with ⟨_, rest⟩
          rcases Checked.check_bind_eq_ok_iff.mp rest with ⟨_, result⟩
          cases result
          exact ⟨rfl, rfl⟩
  | dispatch | endEvents | returnCallback | finishEvent =>
      cases ran
      exact ⟨rfl, rfl⟩
  | swapFunctors =>
      cases ran
      have same : system.functors.swap.outstanding = system.functors.outstanding :=
        FunctorQueue.outstanding_swap allowed.2.2
      refine ⟨rfl, ?_⟩
      simp [orderView, same]
  | nextCallback =>
      simp only [step] at ran
      split at ran
      · rename_i callback rest _
        cases ran
        cases callback <;> exact ⟨rfl, rfl⟩
      · cases ran
        exact ⟨rfl, rfl⟩
  | handleRead result =>
      simp only [step, handleRead] at ran
      split at ran
      · cases ran
        exact ⟨rfl, rfl⟩
      · rcases Checked.bind_eq_ok_iff.mp ran with ⟨inputBuffer, _, result⟩
        cases result
        exact ⟨rfl, rfl⟩
      · cases ran
        exact ⟨rfl, rfl⟩
  | closeCallback =>
      simp only [step, closeCallback] at ran
      split at ran
      · cases ran
        exact ⟨rfl, rfl⟩
      · cases ran
  | connectDestroyed =>
      cases ran
      unfold connectDestroyed
      split <;> exact ⟨rfl, rfl⟩
  | channelRemove => exact channelRemove_views ran
  | call _ _ _ | setDisconnecting _ | push _ | runFunctor _ | connectEstablished | handleWrite _
  | handleClose | destroyConnected | removeConnectionInLoop | destroyServer _ => cases keeps

/-- Another thread's `setState(kDisconnecting)` does not come after the connection was closed. -/
def Unraced (system : ConnectionSystem) : Action → Prop
  | .setDisconnecting _ => system.connection.state ≠ .kDisconnected
  | _ => True

theorem unraced_of_ne (notClosed : system.connection.state ≠ .kDisconnected) {action : Action} :
    system.Unraced action := by
  cases action with
  | setDisconnecting thread => exact notClosed
  | _ => trivial

theorem step_streaming (action : Action) (streaming : system.Streaming unraced)
    (allowed : system.Allowed action) (unracedStep : unraced → system.Unraced action)
    (ran : system.step action = .ok next) :
    next.Streaming unraced := by
  cases action with
  | call caller call result => exact call_streaming streaming allowed.2.1 ran
  | setDisconnecting thread =>
      cases ran
      exact setDisconnecting_streaming streaming unracedStep
  | push thread =>
      simp only [step] at ran
      split at ran
      · rename_i functor pushing
        cases ran
        refine ⟨streaming.bytes, ?_⟩
        have pushed := streaming.order.push pushing
        simpa [orderView, push] using pushed
      · cases ran
        exact streaming
  | runFunctor result => exact runFunctor_streaming streaming ran
  | connectEstablished => exact connectEstablished_streaming streaming ran
  | handleWrite result =>
      exact ⟨handleWrite_bytes streaming.bytes allowed.2.2 ran,
        streaming.order.notified (handleWrite_notified ran)⟩
  | handleClose =>
      exact disconnect_streaming streaming (Checked.check_bind_eq_ok_iff.mp ran).2
  | destroyConnected => exact disconnect_streaming streaming ran
  | removeConnectionInLoop =>
      cases ran
      refine ⟨streaming.bytes, streaming.order.notified ⟨[.connectDestroyed], ?_, ?_⟩⟩
      · simp [ConnectionFunctor.Silent, ConnectionFunctor.messageOf]
      · simp [orderView, removeConnectionInLoop, push]
  | destroyServer inLoopThread =>
      cases ran
      unfold destroyServer
      split
      · split
        · exact ⟨streaming.bytes, streaming.order⟩
        · refine ⟨streaming.bytes, streaming.order.notified ⟨[.connectDestroyed], ?_, ?_⟩⟩
          · simp [ConnectionFunctor.Silent, ConnectionFunctor.messageOf]
          · simp [orderView, push]
      · exact ⟨streaming.bytes, streaming.order⟩
  | retrieveInput _ | poll _ | dispatch | endEvents | swapFunctors | returnCallback
  | nextCallback | finishEvent | handleRead _ | closeCallback | connectDestroyed
  | channelRemove =>
      rcases step_views rfl allowed ran with ⟨stream, order⟩
      exact ⟨stream ▸ streaming.bytes, order ▸ streaming.order⟩

/-! ## Every run -/

theorem initial_streaming (initial : system.Initial) : system.Streaming unraced := by
  rcases initial with ⟨_, _, _, _, _, buffer, _, created, _, _, rfl⟩
  rcases Buffer.create_wellFormed created with ⟨wellFormed, empty⟩
  constructor
  · constructor
    · exact wellFormed
    · simpa [streamView, create, takenBytes] using empty
    · intro _ _
      simp [streamView, create, Channel.create, Channel.isWriting,
        PollEvents.kNoneEvent, empty]
    · simp [streamView, create]
  · constructor
    · intro caller
      cases caller <;> simp [orderView, create, OrderView.dealtWith, OrderView.queued,
        OrderView.entering, OrderView.issuedBy]
    · simp [orderView, create]
    · simp [orderView, create]
    · simp [orderView, create]

theorem streaming_of_reachable {system : ConnectionSystem}
    (reachable : machine.Reachable system) : system.Streaming False := by
  refine reachable.invariant (Streaming False) ?_ ?_
  · intro first initial
    exact initial_streaming initial
  · intro current action after streaming allowed ran
    exact step_streaming action streaming allowed False.elim ran

theorem streaming_of_unraced {system : ConnectionSystem}
    (reachable : (machine.restrict Unraced).Reachable system) : system.Streaming True := by
  refine reachable.invariant (Streaming True) ?_ ?_
  · intro first initial
    exact initial_streaming initial
  · intro current action after streaming allowed ran
    exact step_streaming action streaming allowed.1 (fun _ => allowed.2) ran

instance (system : ConnectionSystem) : (action : Action) → Decidable (system.Unraced action)
  | .setDisconnecting _ => inferInstanceAs (Decidable (_ ≠ _))
  | .call _ _ _ | .push _ | .retrieveInput _ | .poll _ | .dispatch | .endEvents
  | .swapFunctors | .runFunctor _ | .connectEstablished | .returnCallback | .nextCallback
  | .finishEvent | .handleRead _ | .handleWrite _ | .handleClose | .closeCallback
  | .connectDestroyed | .destroyConnected | .channelRemove | .removeConnectionInLoop
  | .destroyServer _ => inferInstanceAs (Decidable True)

/-- The bytes and the order of the messages hold whatever the threads do. -/
theorem messages_in_order {system : ConnectionSystem}
    (reachable : machine.Reachable system) :
    system.history.accepted ++ system.connection.outputBuffer.content =
      takenBytes system.history.sends ∧
    (∀ caller, system.orderView.dealtWith caller ++ system.orderView.queued caller ++
      system.orderView.entering caller = system.orderView.issuedBy caller) ∧
    ((machine.restrict Unraced).Reachable system →
      (system.isOpen → (system.connection.channel.isWriting = true ↔
        system.connection.outputBuffer.content ≠ [])) ∧
      ∀ record ∈ system.history.shutdownWrites,
        record.1 = .kConnected ∨ record.1 = .kDisconnecting → record.2 = 0) := by
  have streaming := streaming_of_reachable reachable
  refine ⟨streaming.bytes.stream, streaming.order.order, ?_⟩
  intro unraced
  have bytes := (streaming_of_unraced unraced).bytes
  refine ⟨fun isOpen => bytes.interest trivial isOpen.notClosed, ?_⟩
  rintro record member (connected | disconnecting)
  · exact bytes.shutdowns trivial record member (by simp [connected])
  · exact bytes.shutdowns trivial record member (by simp [disconnecting])

/-- The loop thread's message is written in part, another thread's waits behind
it, and a third one shuts the connection down before the rest is drained. -/
theorem messages_in_order_partial :
    ∃ system, (machine.restrict Unraced).Reachable system ∧
      (system.history.accepted = [1, 2, 3, 4] ∧
        system.connection.state = .kDisconnecting ∧
        system.history.shutdownWrites = [(.kDisconnecting, 0)]) ∧
      system.history.accepted ++ system.connection.outputBuffer.content =
        takenBytes system.history.sends ∧
      (system.isOpen → (system.connection.channel.isWriting = true ↔
        system.connection.outputBuffer.content ≠ [])) := by
  have run := Machine.exists_reachable (machine.restrict Unraced)
    (fun system => system.history.accepted = [1, 2, 3, 4] ∧
      system.connection.state = .kDisconnecting ∧
      system.history.shutdownWrites = [(.kDisconnecting, 0)])
    lone_initial
    [.connectEstablished, .call none (.send [1, 2]) (.wrote 1), .returnCallback,
      .call (some 9) (.send [3, 4]) (.wrote 0), .push 9, .swapFunctors,
      .runFunctor (.wrote 0), .call (some 8) .shutdown (.wrote 0),
      .poll (some { PollEvents.kNoneEvent with pollOut := true }), .dispatch,
      .nextCallback, .handleWrite (.wrote 2), .finishEvent, .endEvents, .setDisconnecting 8,
      .poll (some { PollEvents.kNoneEvent with pollOut := true }), .dispatch,
      .nextCallback, .handleWrite (.wrote 1)]
    (by decide +kernel)
  rcases run with ⟨system, reachable, reached⟩
  have ordered := messages_in_order reachable.of_restrict
  exact ⟨system, reachable, reached, ordered.1, (ordered.2.2 reachable).1⟩

/-- A thread has found `kConnected` in `shutdown()`. The peer's close then comes while a byte is
buffered, and only after it does the thread set `kDisconnecting` and queue `shutdownInLoop`. -/
theorem shutdown_revives_closed :
    ∃ system, machine.Reachable system ∧ system.isOpen ∧
      system.connection.outputBuffer.content = [2] ∧
      system.connection.channel.isWriting = false ∧
      system.history.shutdownWrites = [(.kDisconnecting, 1)] :=
  Machine.exists_reachable machine
    (fun system => system.isOpen ∧ system.connection.outputBuffer.content = [2] ∧
      system.connection.channel.isWriting = false ∧
      system.history.shutdownWrites = [(.kDisconnecting, 1)])
    lone_initial
    [.connectEstablished, .call none (.send [1, 2]) (.wrote 1), .returnCallback,
      .call (some 9) .shutdown (.wrote 0),
      .poll (some { PollEvents.kNoneEvent with pollIn := true }), .dispatch, .nextCallback,
      .handleRead (.ok []), .handleClose, .returnCallback, .closeCallback, .finishEvent,
      .endEvents, .setDisconnecting 9, .push 9, .swapFunctors, .runFunctor (.wrote 0)]
    (by decide +kernel)

end ConnectionSystem

end Ccnet.Net
