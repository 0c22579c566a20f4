import Ccnet.Net.Connection.Control
import Ccnet.Net.Connection.Sending

/-! # Flow control of a connection

When `sendInLoop` and `handleWrite` queue the user's `writeCompleteCallback_` and
`highWaterMarkCallback_`. -/

namespace Ccnet.Net

namespace ConnectionSystem

/-! ## Runs of the two functions -/

inductive FlowAction
  | sendInLoop (sender : Caller) (message : List UInt8) (result : WriteResult)
  | handleWrite (result : WriteResult)
  /-- `shutdown` or `forceClose` was called. -/
  | disconnecting
  deriving DecidableEq, Repr

def flowStep (system : ConnectionSystem) : FlowAction → Checked ConnectionSystem
  | .sendInLoop sender message result => system.sendInLoop sender message result
  | .handleWrite result => system.handleWrite system.stack result
  | .disconnecting => return system.setState .kDisconnecting

/-- Messages are not empty, and the kernel takes no more than it was offered. -/
def FlowAllowed (system : ConnectionSystem) : FlowAction → Prop
  | .sendInLoop _ message result => message ≠ [] ∧ result.count ≤ message.length
  | .handleWrite result => result.count ≤ system.connection.outputBuffer.readableBytes
  | .disconnecting => True

/-- What the two functions leave as it is. -/
def settings (system : ConnectionSystem) : Bool × Nat × Bool × Bool :=
  (system.removed, system.connection.highWaterMark, system.connection.writeCompleteCallback,
    system.connection.highWaterMarkCallback)

/-- A connection with both callbacks and a mark, at any moment at which it is open. -/
structure Monitored (system : ConnectionSystem) : Prop where
  reachable : machine.Reachable system
  isOpen : system.isOpen
  settings : ∃ mark, 0 < mark ∧ system.settings = (false, mark, true, true)

def flowMachine : Machine ConnectionSystem FlowAction where
  initial := Monitored
  allowed := FlowAllowed
  step := flowStep

/-! ## Due notifications -/

def highWaterMark (system : ConnectionSystem) : Nat := system.connection.highWaterMark

/-- The readable length of `outputBuffer_`. -/
def level (system : ConnectionSystem) : Nat := system.connection.outputBuffer.readableBytes

/-- Between the two states the kernel was handed a byte, and every byte that was accepted
has been handed over. -/
def Completes (system next : ConnectionSystem) : Prop :=
  system.history.accepted.length < next.history.accepted.length ∧
    next.history.accepted = takenBytes next.history.sends

instance (system next : ConnectionSystem) : Decidable (system.Completes next) :=
  inferInstanceAs (Decidable (_ ∧ _))

/-- The level goes from below the mark to the mark or above. -/
def Crosses (system next : ConnectionSystem) : Prop :=
  system.level < system.highWaterMark ∧ system.highWaterMark ≤ next.level

instance (system next : ConnectionSystem) : Decidable (system.Crosses next) :=
  inferInstanceAs (Decidable (_ ∧ _))

/-- What is to be queued by a step from the one state to the other. -/
def dueNotifications (system next : ConnectionSystem) : List ConnectionFunctor :=
  (if system.Completes next then [.writeCompleteCallback] else []) ++
  (if system.Crosses next then [.highWaterMarkCallback next.level] else [])

end ConnectionSystem

def FunctorQueue.pushAll {Functor : Type u} (queue : FunctorQueue Functor)
    (functors : List Functor) : FunctorQueue Functor :=
  { queue with pendingFunctors := queue.pendingFunctors ++ functors }

namespace ConnectionSystem

variable {system next : ConnectionSystem}

/-! ## Effects -/

/-- What a step handed to the kernel, what it left in the buffer and what it queued. -/
structure Effect (system next : ConnectionSystem) (handed content : List UInt8)
    (notes : List ConnectionFunctor) : Prop where
  settings : next.settings = system.settings
  accepted : next.history.accepted = system.history.accepted ++ handed
  content : next.connection.outputBuffer.content = content
  functors : next.functors = system.functors.pushAll notes

theorem pushAll_nil (queue : FunctorQueue ConnectionFunctor) : queue.pushAll [] = queue := by
  rw [FunctorQueue.pushAll, List.append_nil]

/-- A channel that the poller knows can be updated. -/
theorem withChannel_of {events : PollEvents}
    {operation : Channel → EPollPoller → Checked (Channel × EPollPoller)}
    (registered : system.control.Registered) (isOpen : system.isOpen)
    (running : system.removed = false)
    (updates : operation system.connection.channel system.poller =
      { system.connection.channel with events }.update system.poller) :
    ∃ channel poller, system.withChannel operation =
      .ok { system with connection := { system.connection with channel }, poller } := by
  have established : system.control.state ≠ .kConnecting := by
    rcases isOpen with connected | disconnecting
    · exact ne_of_eq_of_ne connected (by decide)
    · exact ne_of_eq_of_ne disconnecting (by decide)
  have known := registered.known established running
  have updatable : ∃ result,
      { system.connection.channel with events }.update system.poller = .ok result :=
    Channel.update_of (of_decide_eq_true known.2) known.1
  rcases updatable with ⟨⟨channel, poller⟩, updated⟩
  refine ⟨channel, poller, ?_⟩
  rw [withChannel, updates, updated]
  rfl

theorem pushIf_functors (due : Bool) (functor : ConnectionFunctor) :
    (system.pushIf due functor).functors =
      system.functors.pushAll (if due then [functor] else []) := by
  cases due with
  | false => exact (pushAll_nil _).symm
  | true => rfl

@[simp] theorem pushIf_removed (due : Bool) (functor : ConnectionFunctor) :
    (system.pushIf due functor).removed = system.removed := by
  cases due <;> rfl

/-- What the two functions rely on. -/
structure Flowing (system : ConnectionSystem) : Prop where
  bytes : ByteStream False system.streamView
  registered : system.control.Registered
  isOpen : system.isOpen
  settings : ∃ mark, 0 < mark ∧ system.settings = (false, mark, true, true)

namespace Flowing

theorem running (flowing : system.Flowing) : system.removed = false := by
  rcases flowing.settings with ⟨mark, -, same⟩
  exact congrArg Prod.fst same

theorem writeCompleteCallback (flowing : system.Flowing) :
    system.connection.writeCompleteCallback = true := by
  rcases flowing.settings with ⟨mark, -, same⟩
  exact congrArg (·.2.2.1) same

theorem highWaterMarkCallback (flowing : system.Flowing) :
    system.connection.highWaterMarkCallback = true := by
  rcases flowing.settings with ⟨mark, -, same⟩
  exact congrArg (·.2.2.2) same

theorem level_eq (flowing : system.Flowing) :
    system.level = system.connection.outputBuffer.content.length :=
  flowing.bytes.wellFormed.content_length.symm

end Flowing

theorem Effect.trans {last : ConnectionSystem} {first second middle content : List UInt8}
    {notes more : List ConnectionFunctor} (before : system.Effect next first middle notes)
    (after : next.Effect last second content more) :
    system.Effect last (first ++ second) content (notes ++ more) where
  settings := after.settings.trans before.settings
  accepted := by rw [after.accepted, before.accepted, List.append_assoc]
  content := after.content
  functors := by
    rw [after.functors, before.functors, FunctorQueue.pushAll, FunctorQueue.pushAll,
      FunctorQueue.pushAll, List.append_assoc]

theorem Effect.pushIf (system : ConnectionSystem) (due : Bool) (functor : ConnectionFunctor) :
    system.Effect (system.pushIf due functor) [] system.connection.outputBuffer.content
      (if due then [functor] else []) where
  settings := by simp [ConnectionSystem.settings]
  accepted := by rw [pushIf_history, List.append_nil]
  content := by rw [pushIf_connection]
  functors := pushIf_functors due functor

theorem Effect.accept (system : ConnectionSystem) (handed : List UInt8) :
    system.Effect (system.accept handed) handed system.connection.outputBuffer.content [] :=
  ⟨rfl, rfl, rfl, (pushAll_nil _).symm⟩

theorem Effect.recordSend {handed content : List UInt8} {notes : List ConnectionFunctor}
    (effect : system.Effect next handed content notes) (sender : Caller)
    (message : List UInt8) (fate : SendFate) :
    system.Effect (next.recordSend sender message fate) handed content notes :=
  ⟨effect.settings, effect.accepted, effect.content, effect.functors⟩

theorem Effect.shutdownInLoop {handed content : List UInt8} {notes : List ConnectionFunctor}
    (effect : system.Effect next handed content notes) :
    system.Effect next.shutdownInLoop handed content notes := by
  unfold ConnectionSystem.shutdownInLoop
  split
  · exact effect
  · exact ⟨effect.settings, effect.accepted, effect.content, effect.functors⟩

/-- An update of the channel. -/
theorem withChannel_effect {events : PollEvents}
    {operation : Channel → EPollPoller → Checked (Channel × EPollPoller)}
    (registered : system.control.Registered) (isOpen : system.isOpen)
    (running : system.removed = false)
    (updates : operation system.connection.channel system.poller =
      { system.connection.channel with events }.update system.poller) :
    ∃ next, system.withChannel operation = .ok next ∧
      system.Effect next [] system.connection.outputBuffer.content [] := by
  rcases withChannel_of registered isOpen running updates with ⟨channel, poller, ran⟩
  exact ⟨_, ran, rfl, (List.append_nil _).symm, rfl, (pushAll_nil _).symm⟩

theorem enableWriting_effect (system : ConnectionSystem) (registered : system.control.Registered)
    (isOpen : system.isOpen) (running : system.removed = false) :
    ∃ next, system.withChannel Channel.enableWriting = .ok next ∧
      system.Effect next [] system.connection.outputBuffer.content [] :=
  withChannel_effect registered isOpen running rfl

theorem disableWriting_effect (system : ConnectionSystem)
    (registered : system.control.Registered) (isOpen : system.isOpen)
    (running : system.removed = false) :
    ∃ next, system.withChannel Channel.disableWriting = .ok next ∧
      system.Effect next [] system.connection.outputBuffer.content [] :=
  withChannel_effect registered isOpen running rfl

/-- The part of a message that is buffered: the level rises by it, and if it crosses the
mark the callback is queued with the new level. -/
theorem bufferRemaining_effect (system : ConnectionSystem)
    (wellFormed : system.connection.outputBuffer.WellFormed)
    (registered : system.control.Registered) (isOpen : system.isOpen)
    (running : system.removed = false)
    (callback : system.connection.highWaterMarkCallback = true) (remaining : List UInt8) :
    ∃ next, system.bufferRemaining remaining = .ok next ∧
      system.Effect next [] (system.connection.outputBuffer.content ++ remaining)
        (if system.level < system.highWaterMark ∧
            system.highWaterMark ≤ system.level + remaining.length then
          [.highWaterMarkCallback (system.level + remaining.length)] else []) := by
  rcases Buffer.append_ok wellFormed remaining with ⟨outputBuffer, appended, -, content⟩
  unfold bufferRemaining
  dsimp only
  generalize dueEq : (decide (system.connection.highWaterMark ≤
    system.connection.outputBuffer.readableBytes + remaining.length) &&
    decide (system.connection.outputBuffer.readableBytes < system.connection.highWaterMark) &&
    system.connection.highWaterMarkCallback) = due
  have notes : (if system.level < system.highWaterMark ∧
      system.highWaterMark ≤ system.level + remaining.length then
        [ConnectionFunctor.highWaterMarkCallback (system.level + remaining.length)] else []) =
      if due then [.highWaterMarkCallback (system.level + remaining.length)] else [] := by
    simp [← dueEq, callback, level, highWaterMark, and_comm]
  generalize notifiedEq : system.pushIf due (.highWaterMarkCallback
    (system.connection.outputBuffer.readableBytes + remaining.length)) = notified
  have pushed := Effect.pushIf system due (.highWaterMarkCallback
    (system.connection.outputBuffer.readableBytes + remaining.length))
  have connection : notified.connection = system.connection := by
    rw [← notifiedEq, pushIf_connection]
  have control : notified.control = system.control := by
    rw [← notifiedEq, pushIf_control]
  have removed : notified.removed = system.removed := by
    rw [← notifiedEq, pushIf_removed]
  rw [notifiedEq] at pushed
  rw [← connection] at appended
  rw [notes, appended, Checked.ok_bind]
  have filled : notified.Effect
      { notified with connection := { notified.connection with outputBuffer } } []
      (system.connection.outputBuffer.content ++ remaining) [] :=
    ⟨rfl, (List.append_nil _).symm, content, (pushAll_nil _).symm⟩
  split
  · have all := pushed.trans filled
    rw [List.append_nil, List.append_nil] at all
    exact ⟨_, rfl, all⟩
  · have stillOpen : notified.isOpen := by
      rwa [ConnectionSystem.isOpen, connection]
    rcases enableWriting_effect
      { notified with connection := { notified.connection with outputBuffer } }
      (control ▸ registered) stillOpen (removed ▸ running) with ⟨next, ran, enabled⟩
    have all := (pushed.trans filled).trans enabled
    simp only [List.append_nil, content] at all
    exact ⟨next, ran, all⟩

/-- The notifications that are due after a step with the given effect. -/
theorem Effect.dueNotifications_eq {handed content : List UInt8}
    {notes : List ConnectionFunctor} (effect : system.Effect next handed content notes)
    (bytes : ByteStream False next.streamView) :
    system.dueNotifications next =
      (if handed ≠ [] ∧ content = [] then [.writeCompleteCallback] else []) ++
      (if system.level < system.highWaterMark ∧ system.highWaterMark ≤ content.length then
        [.highWaterMarkCallback content.length] else []) := by
  have stream : next.history.accepted ++ content = takenBytes next.history.sends := by
    rw [← effect.content]
    exact bytes.stream
  have level : next.level = content.length := by
    rw [← effect.content]
    exact bytes.wellFormed.content_length.symm
  have completes : system.Completes next ↔ handed ≠ [] ∧ content = [] := by
    have grows : system.history.accepted.length <
        system.history.accepted.length + handed.length ↔ handed ≠ [] := by
      rw [← List.length_pos_iff]
      omega
    rw [Completes, ← stream, effect.accepted, List.length_append, List.self_eq_append_right,
      grows]
  simp only [dueNotifications, completes, Crosses, level]

/-- The rest of a message goes to the buffer, after the kernel has taken a first part. -/
theorem finishSend_effect (flowing : system.Flowing) (handed : List UInt8) {rest : List UInt8}
    (remains : rest ≠ []) :
    ∃ next, (system.accept handed).finishSend false rest = .ok next ∧
      system.Effect next handed (system.connection.outputBuffer.content ++ rest)
        (if system.level < system.highWaterMark ∧
            system.highWaterMark ≤ system.level + rest.length then
          [.highWaterMarkCallback (system.level + rest.length)] else []) := by
  rcases bufferRemaining_effect (system.accept handed) flowing.bytes.wellFormed
    flowing.registered flowing.isOpen flowing.running flowing.highWaterMarkCallback rest with
    ⟨next, ran, effect⟩
  have all := (Effect.accept system handed).trans effect
  rw [List.append_nil, List.nil_append] at all
  refine ⟨next, ?_, all⟩
  rw [finishSend, if_pos ⟨rfl, remains⟩, ran]

/-- A message is dropped, or handed over as a whole, or its rest is buffered. -/
theorem sendInLoop_effect (flowing : system.Flowing) (sender : Caller) {message : List UInt8}
    {result : WriteResult} (nonempty : message ≠ []) :
    ∃ next, system.sendInLoop sender message result = .ok next ∧
      (system.Effect next [] system.connection.outputBuffer.content [] ∨
      (system.connection.outputBuffer.content = [] ∧
        system.Effect next message [] [.writeCompleteCallback]) ∨
      ∃ handed rest, rest ≠ [] ∧
        system.Effect next handed (system.connection.outputBuffer.content ++ rest)
          (if system.level < system.highWaterMark ∧
              system.highWaterMark ≤ system.level + rest.length then
            [.highWaterMarkCallback (system.level + rest.length)] else [])) := by
  rw [sendInLoop, if_neg flowing.isOpen.notClosed]
  dsimp only
  rw [Checked.check_bind_of (by simp)]
  cases direct : writesDirectly system.connection with
  | false =>
      rcases finishSend_effect flowing [] nonempty with ⟨next, ran, effect⟩
      refine ⟨next.recordSend sender message .taken, ?_, .inr (.inr ⟨[], message, nonempty,
        effect.recordSend sender message .taken⟩)⟩
      simp only [Bool.false_and, Bool.false_eq_true, if_false, List.take_zero, List.drop_zero,
        pushIf]
      rw [ran]
      rfl
  | true =>
      have empty := content_of_writesDirectly flowing.bytes direct
      cases fault : result.isFault with
      | true =>
          have nothing := WriteResult.count_of_isFault fault
          have failed : result.succeeded = false := by
            cases result with
            | wrote count => cases fault
            | failed errno => rfl
          refine ⟨_, ?_, .inl ((Effect.accept system []).recordSend sender message .faulted)⟩
          simp only [nothing, failed, Bool.and_true, Bool.and_false, Bool.false_and, if_true,
            List.take_zero, pushIf, finishSend, Bool.true_eq_false, false_and, if_false,
            Bool.false_eq_true]
          rfl
      | false =>
          by_cases whole : message.drop result.count = []
          · have all : message.take result.count = message := by
              have parts := List.take_append_drop result.count message
              rwa [whole, List.append_nil] at parts
            have succeeded : result.succeeded = true := by
              cases result with
              | wrote count => rfl
              | failed errno => exact absurd whole nonempty
            have effect := (Effect.accept system message).trans
              (Effect.pushIf (system.accept message) true .writeCompleteCallback)
            rw [List.append_nil] at effect
            refine ⟨_, ?_, .inr (.inl ⟨empty,
              empty ▸ effect.recordSend sender message .taken⟩)⟩
            simp only [all, whole, succeeded, finishSend, flowing.writeCompleteCallback, if_true,
              List.isEmpty_nil, Bool.and_self, ne_eq, not_true_eq_false, and_false, if_false]
            rfl
          · rcases finishSend_effect flowing (message.take result.count) whole with
              ⟨next, ran, effect⟩
            refine ⟨_, ?_, .inr (.inr ⟨_, _, whole, effect.recordSend sender message .taken⟩)⟩
            have notEmpty : (message.drop result.count).isEmpty = false := by
              simpa using whole
            simp only [notEmpty, Bool.and_false, Bool.false_and, pushIf, if_true, ran,
              Bool.false_eq_true, if_false]
            rfl

/-- Nothing is written, or the front of the buffer is; `shutdownInLoop` only shuts down the
socket. -/
theorem handleWrite_effect (flowing : system.Flowing) {result : WriteResult}
    (bounded : result.count ≤ system.connection.outputBuffer.readableBytes) :
    ∃ next, system.handleWrite system.stack result = .ok next ∧
      (system.Effect next [] system.connection.outputBuffer.content [] ∨
      ∃ handed rest, handed ≠ [] ∧
        system.connection.outputBuffer.content = handed ++ rest ∧
        system.Effect next handed rest
          (if rest = [] then [.writeCompleteCallback] else [])) := by
  unfold handleWrite
  dsimp only
  by_cases writes : system.connection.channel.isWriting = true ∧ 0 < result.count
  · rw [if_pos writes]
    rcases Buffer.retrieve_ok flowing.bytes.wellFormed bounded with
      ⟨outputBuffer, retrieved, wellFormed, content⟩
    have length : system.connection.outputBuffer.content.length =
        system.connection.outputBuffer.readableBytes := flowing.bytes.wellFormed.content_length
    have handed : system.connection.outputBuffer.content.take result.count ≠ [] := by
      rw [← List.length_pos_iff, List.length_take]
      omega
    have parts := (List.take_append_drop result.count
      system.connection.outputBuffer.content).symm
    have rest : outputBuffer.content =
      system.connection.outputBuffer.content.drop result.count := content
    rw [← rest] at parts
    have drained : system.Effect
        { system.accept (system.connection.outputBuffer.content.take result.count) with
          connection := { system.connection with outputBuffer } }
        (system.connection.outputBuffer.content.take result.count) outputBuffer.content [] :=
      ⟨rfl, rfl, rfl, (pushAll_nil _).symm⟩
    by_cases empty : outputBuffer.readableBytes = 0
    · have nothing := (Buffer.content_eq_nil_iff wellFormed).mpr empty
      rcases disableWriting_effect
        { system.accept (system.connection.outputBuffer.content.take result.count) with
          connection := { system.connection with outputBuffer } }
        flowing.registered flowing.isOpen flowing.running with ⟨disabled, ran, unwatched⟩
      have before := drained.trans unwatched
      have callback : disabled.connection.writeCompleteCallback = true :=
        (congrArg (·.2.2.1) before.settings).trans flowing.writeCompleteCallback
      have notified := before.trans (Effect.pushIf disabled true .writeCompleteCallback)
      simp only [List.append_nil, List.nil_append, before.content, if_true] at notified
      have all : ∃ next, (if (disabled.pushIf disabled.connection.writeCompleteCallback
            .writeCompleteCallback).connection.state = .kDisconnecting then
          (pure (disabled.pushIf disabled.connection.writeCompleteCallback
            .writeCompleteCallback).shutdownInLoop : Checked ConnectionSystem)
          else pure (disabled.pushIf disabled.connection.writeCompleteCallback
            .writeCompleteCallback)) = .ok next ∧
          system.Effect next (system.connection.outputBuffer.content.take result.count)
            outputBuffer.content [.writeCompleteCallback] := by
        rw [callback]
        split
        · exact ⟨_, rfl, notified.shutdownInLoop⟩
        · exact ⟨_, rfl, notified⟩
      rcases all with ⟨next, finished, effect⟩
      refine ⟨next, Checked.bind_eq_ok_iff.mpr ⟨outputBuffer, retrieved, ?_⟩,
        .inr ⟨_, _, handed, parts, ?_⟩⟩
      · rw [if_pos empty]
        exact Checked.bind_eq_ok_iff.mpr ⟨disabled, ran, finished⟩
      · rwa [if_pos nothing]
    · have remains : outputBuffer.content ≠ [] :=
        fun nothing => empty ((Buffer.content_eq_nil_iff wellFormed).mp nothing)
      refine ⟨_, Checked.bind_eq_ok_iff.mpr ⟨outputBuffer, retrieved, if_neg empty⟩,
        .inr ⟨_, _, handed, parts, ?_⟩⟩
      rw [if_neg remains]
      exact drained
  · rw [if_neg writes]
    exact ⟨_, rfl, .inl ⟨rfl, (List.append_nil _).symm, rfl, (pushAll_nil _).symm⟩⟩

/-! ## One step -/

/-- What a function that at most updates the channel's interest keeps. -/
theorem Flowing.keep (flowing : system.Flowing) {handed content : List UInt8}
    {notes : List ConnectionFunctor} (effect : system.Effect next handed content notes)
    (bytes : ByteStream False next.streamView)
    (control : next.control = system.control ∨
      ∃ events, system.control.Updated next.control events) : next.Flowing := by
  have kept : next.control.Registered ∧ next.control.isOpen := by
    rcases control with same | ⟨events, updated⟩
    · rw [same]
      exact ⟨flowing.registered, flowing.isOpen⟩
    · refine ⟨flowing.registered.updated updated, ?_⟩
      rcases updated with ⟨index, inKernel, -, -, -, after⟩
      rw [after]
      exact flowing.isOpen
  rcases flowing.settings with ⟨mark, positive, settings⟩
  exact ⟨bytes, kept.1, kept.2, mark, positive, effect.settings.trans settings⟩

theorem sendInLoop_exact (flowing : system.Flowing) (sender : Caller) {message : List UInt8}
    {result : WriteResult} (nonempty : message ≠ []) :
    ∃ next, system.sendInLoop sender message result = .ok next ∧ next.Flowing ∧
      next.settings = system.settings ∧
      next.functors = system.functors.pushAll (system.dueNotifications next) := by
  rcases sendInLoop_effect flowing sender nonempty with ⟨next, ran, effects⟩
  have bytes := sendInLoop_bytes flowing.bytes ran
  have control : next.control = system.control ∨
      ∃ events, system.control.Updated next.control events := by
    rcases sendInLoop_control ran with same | ⟨-, updated⟩
    · exact .inl same
    · exact .inr ⟨_, updated⟩
  refine ⟨next, ran, ?_⟩
  rcases effects with dropped | ⟨empty, whole⟩ | ⟨handed, rest, remains, buffered⟩
  · refine ⟨flowing.keep dropped bytes control, dropped.settings, ?_⟩
    rw [dropped.dueNotifications_eq bytes, dropped.functors, ← flowing.level_eq,
      if_neg (by simp), if_neg (by omega)]
    rfl
  · refine ⟨flowing.keep whole bytes control, whole.settings, ?_⟩
    have level := flowing.level_eq
    rw [empty, List.length_nil] at level
    rw [whole.dueNotifications_eq bytes, whole.functors, if_pos ⟨nonempty, rfl⟩, if_neg (by
      rw [List.length_nil]
      omega)]
    rfl
  · refine ⟨flowing.keep buffered bytes control, buffered.settings, ?_⟩
    have incomplete : ¬(handed ≠ [] ∧
        system.connection.outputBuffer.content ++ rest = []) := by
      rintro ⟨-, nothing⟩
      exact remains (List.append_eq_nil_iff.mp nothing).2
    rw [buffered.dueNotifications_eq bytes, if_neg incomplete, List.nil_append,
      buffered.functors, List.length_append, ← flowing.level_eq]

theorem handleWrite_exact (flowing : system.Flowing) {result : WriteResult}
    (bounded : result.count ≤ system.connection.outputBuffer.readableBytes) :
    ∃ next, system.handleWrite system.stack result = .ok next ∧ next.Flowing ∧
      next.settings = system.settings ∧
      next.functors = system.functors.pushAll (system.dueNotifications next) := by
  rcases handleWrite_effect flowing bounded with ⟨next, ran, effects⟩
  have bytes := handleWrite_bytes flowing.bytes bounded ran
  have control : next.control = system.control ∨
      ∃ events, system.control.Updated next.control events := by
    rcases handleWrite_control ran with same | ⟨-, updated⟩
    · exact .inl same
    · exact .inr ⟨_, updated⟩
  refine ⟨next, ran, ?_⟩
  rcases effects with nothing | ⟨handed, rest, some, parts, drained⟩
  · refine ⟨flowing.keep nothing bytes control, nothing.settings, ?_⟩
    rw [nothing.dueNotifications_eq bytes, nothing.functors, ← flowing.level_eq,
      if_neg (by simp), if_neg (by omega)]
    rfl
  · refine ⟨flowing.keep drained bytes control, drained.settings, ?_⟩
    have level := flowing.level_eq
    rw [parts, List.length_append] at level
    have falls : ¬(system.level < system.highWaterMark ∧
        system.highWaterMark ≤ rest.length) := by omega
    rw [drained.dueNotifications_eq bytes, if_neg falls, List.append_nil, drained.functors]
    simp only [some, ne_eq, not_false_eq_true, true_and]

theorem flowStep_exact (flowing : system.Flowing) {action : FlowAction}
    (allowed : system.FlowAllowed action) :
    ∃ next, system.flowStep action = .ok next ∧ next.Flowing ∧
      next.settings = system.settings ∧
      next.functors = system.functors.pushAll (system.dueNotifications next) := by
  cases action with
  | sendInLoop sender message result => exact sendInLoop_exact flowing sender allowed.1
  | handleWrite result => exact handleWrite_exact flowing allowed
  | disconnecting =>
      have established : system.control.state ≠ .kConnecting :=
        Control.isOpen.established flowing.isOpen
      have bytes : ByteStream False (system.setState .kDisconnecting).streamView :=
        flowing.bytes.setState False.elim
      have effect : system.Effect (system.setState .kDisconnecting) []
          system.connection.outputBuffer.content [] :=
        ⟨rfl, (List.append_nil _).symm, rfl, (pushAll_nil _).symm⟩
      have registered := flowing.registered.setState established
        (show StateE.kDisconnecting ≠ .kConnecting by decide)
      refine ⟨_, rfl, ⟨bytes, registered, .inr rfl, flowing.settings⟩, rfl, ?_⟩
      rw [effect.dueNotifications_eq bytes, effect.functors, ← flowing.level_eq,
        if_neg (by simp), if_neg (by omega)]
      rfl

/-! ## Every run -/

theorem registered_of_reachable (reachable : machine.Reachable system) :
    system.control.Registered := by
  refine reachable.invariant (fun system => system.control.Registered) ?_ ?_
  · intro first initial
    rw [initial.control]
    exact ⟨by simp, by simp, by simp, by simp⟩
  · intro before action after registered allowed stepped
    exact (step_control allowed stepped).registered registered

theorem Monitored.flowing (monitored : system.Monitored) : system.Flowing where
  bytes := (streaming_of_reachable monitored.reachable).bytes
  registered := registered_of_reachable monitored.reachable
  isOpen := monitored.isOpen
  settings := monitored.settings

theorem flowing_of_reachable (reachable : flowMachine.Reachable system) : system.Flowing := by
  refine (Machine.safe_of_invariant Flowing (fun _ => Monitored.flowing) ?_).2 system reachable
  intro current action flowing allowed
  rcases flowStep_exact flowing allowed with ⟨next, ran, kept, -, -⟩
  exact ⟨next, ran, kept⟩

theorem flowStep_eq (flowing : system.Flowing) {action : FlowAction}
    (allowed : system.FlowAllowed action) (ran : system.flowStep action = .ok next) :
    next.Flowing ∧ next.highWaterMark = system.highWaterMark ∧
      next.functors = system.functors.pushAll (system.dueNotifications next) := by
  rcases flowStep_exact flowing allowed with ⟨found, foundRan, kept, settings, functors⟩
  rw [foundRan] at ran
  cases ran
  exact ⟨kept, congrArg (·.2.1) settings, functors⟩

theorem highWaterMark_startingAt {first : ConnectionSystem} (flowing : first.Flowing)
    (reachable : (flowMachine.startingAt first).Reachable system) :
    system.Flowing ∧ system.highWaterMark = first.highWaterMark := by
  induction reachable with
  | initial start =>
      cases start
      exact ⟨flowing, rfl⟩
  | step before allowed ran induction =>
      rcases flowStep_eq induction.1 allowed ran with ⟨kept, same, -⟩
      exact ⟨kept, same.trans induction.2⟩

/-- A step that queued the high-water callback crossed the mark. -/
theorem crosses_of_mem {notes : List ConnectionFunctor} {size : Nat}
    (due : next.functors = system.functors.pushAll (system.dueNotifications next))
    (queued : next.functors = system.functors.pushAll notes)
    (member : .highWaterMarkCallback size ∈ notes) : system.Crosses next := by
  have same : notes = system.dueNotifications next := by
    rw [queued, FunctorQueue.pushAll, FunctorQueue.pushAll, FunctorQueue.mk.injEq] at due
    exact List.append_cancel_left due.2
  rw [same, dueNotifications] at member
  by_contra low
  rw [if_neg low, List.append_nil] at member
  split at member
  · simp at member
  · cases member

/-- Exactly the notifications that are due are queued, and between two high-water
notifications the level has fallen below the mark. -/
theorem notifications_exact (reachable : flowMachine.Reachable system) :
    (∀ action, system.FlowAllowed action → ∃ next, system.flowStep action = .ok next ∧
      next.isOpen ∧ next.highWaterMark = system.highWaterMark ∧
      next.functors = system.functors.pushAll (system.dueNotifications next)) ∧
    ∀ action next notes size, system.FlowAllowed action → system.flowStep action = .ok next →
      next.functors = system.functors.pushAll notes → .highWaterMarkCallback size ∈ notes →
      ∀ later, (flowMachine.startingAt next).Reachable later →
      ∀ action last notes size, later.FlowAllowed action → later.flowStep action = .ok last →
        last.functors = later.functors.pushAll notes → .highWaterMarkCallback size ∈ notes →
        system.highWaterMark ≤ next.level ∧ later.level < system.highWaterMark := by
  have flowing := flowing_of_reachable reachable
  refine ⟨?_, ?_⟩
  · intro action allowed
    rcases flowStep_exact flowing allowed with ⟨next, ran, kept, settings, functors⟩
    exact ⟨next, ran, kept.isOpen, congrArg (·.2.1) settings, functors⟩
  · intro action next notes size allowed ran queued member later run again last more newSize
      againAllowed againRan againQueued againMember
    rcases flowStep_eq flowing allowed ran with ⟨nextFlowing, mark, due⟩
    rcases highWaterMark_startingAt nextFlowing run with ⟨laterFlowing, laterMark⟩
    rcases flowStep_eq laterFlowing againAllowed againRan with ⟨-, -, againDue⟩
    have first := crosses_of_mem due queued member
    have second := crosses_of_mem againDue againQueued againMember
    refine ⟨first.2, ?_⟩
    rw [← mark, ← laterMark]
    exact second.1

/-- Five bytes that the kernel does not take cross a mark of four. -/
theorem notifications_exact_crossing :
    ∃ system next, flowMachine.Reachable system ∧
      system.flowStep (.sendInLoop none [1, 2, 3, 4, 5] (.failed .ewouldblock)) = .ok next ∧
      next.functors = system.functors.pushAll [.highWaterMarkCallback 5] := by
  have initial : Initial (create 1 7 4 true true lone.connection.inputBuffer lone.poller) :=
    ⟨_, _, _, _, _, _, _, Buffer.create_eq_ok _, rfl, rfl, rfl⟩
  have run := Machine.exists_reachable machine
    (fun system => system.isOpen ∧ system.settings = (false, 4, true, true) ∧
      (system.flowStep (.sendInLoop none [1, 2, 3, 4, 5] (.failed .ewouldblock))).toOption.any
        (fun next => system.dueNotifications next = [.highWaterMarkCallback 5]) = true)
    initial [.connectEstablished, .returnCallback] (by decide +kernel)
  rcases run with ⟨system, reachable, isOpen, settings, due⟩
  have monitored : flowMachine.Reachable system :=
    .initial ⟨reachable, isOpen, 4, by decide, settings⟩
  rcases (notifications_exact monitored).1
    (.sendInLoop none [1, 2, 3, 4, 5] (.failed .ewouldblock)) ⟨by decide, by decide⟩ with
    ⟨next, ran, -, -, queued⟩
  rw [ran] at due
  have notes : system.dueNotifications next = [.highWaterMarkCallback 5] :=
    of_decide_eq_true due
  exact ⟨system, next, monitored, ran, notes ▸ queued⟩

end ConnectionSystem

end Ccnet.Net
