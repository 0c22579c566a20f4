import Ccnet.Net.Connection.Sending

/-! # Shutting down the write side

`shutdownWrite` must wait for what was sent before `shutdown` was called. A message
sent by another thread waits in two places: in the functor queue, and then in the
output buffer. -/

namespace Ccnet.Net

/-- A functor that neither carries a message nor shuts down the write side. -/
def ConnectionFunctor.Unrelated (functor : ConnectionFunctor) : Prop :=
  functor.Silent ∧ functor ≠ .shutdownInLoop

def ConnectionFunctor.carriesMessage : ConnectionFunctor → Bool
  | .sendInLoop _ _ => true
  | .shutdownInLoop | .forceCloseInLoop | .startReadInLoop | .stopReadInLoop
  | .connectDestroyed | .writeCompleteCallback | .highWaterMarkCallback _ => false

theorem ConnectionFunctor.silent_of_carriesMessage {functor : ConnectionFunctor}
    (nothing : functor.carriesMessage = false) : functor.Silent := by
  intro caller
  cases functor <;> first | rfl | cases nothing

/-- What the delivery of messages depends on. -/
structure SendingView extends OrderView where
  state : StateE
  accepted : List UInt8
  shutdownWrites : List (StateE × Nat)

namespace SendingView

/-- Everything that a step can do to the messages while the connection is not closed.
`graceful` is what makes the two dangerous steps wait. -/
inductive Step (graceful : Prop) (before : SendingView) : SendingView → Prop
  | notify {notes : List ConnectionFunctor} : (∀ note ∈ notes, note.Unrelated) →
      Step graceful before { before with outstanding := before.outstanding ++ notes }
  | establish : before.state = .kConnecting →
      Step graceful before { before with state := .kConnected }
  | enter {thread : ThreadId} {functor : ConnectionFunctor} : before.pushing thread = none →
      functor.Unrelated → Step graceful before { before with
        pushing := Function.update before.pushing thread (some functor) }
  | enterMessage {thread : ThreadId} {message : List UInt8} : before.state = .kConnected →
      before.pushing thread = none → Step graceful before { before with
        issued := before.issued ++ [(some thread, message)]
        pushing := Function.update before.pushing thread
          (some (.sendInLoop (some thread) message)) }
  | push {thread : ThreadId} {functor : ConnectionFunctor} :
      before.pushing thread = some functor → Step graceful before { before with
        outstanding := before.outstanding ++ [functor]
        pushing := Function.update before.pushing thread none }
  | sendDirect {message taken : List UInt8} {fate : SendFate}
      {notes : List ConnectionFunctor} : before.state = .kConnected →
      (before.shutdownWrites = [] → fate = .taken) → (∀ note ∈ notes, note.Unrelated) →
      Step graceful before { before with
        issued := before.issued ++ [(none, message)]
        sends := before.sends ++ [⟨none, message, fate⟩]
        accepted := before.accepted ++ taken
        outstanding := before.outstanding ++ notes }
  | takeMessage {sender : Caller} {message taken : List UInt8} {fate : SendFate}
      {rest notes : List ConnectionFunctor} :
      before.outstanding = .sendInLoop sender message :: rest →
      (before.shutdownWrites = [] → fate = .taken) → (∀ note ∈ notes, note.Unrelated) →
      Step graceful before { before with
        sends := before.sends ++ [⟨sender, message, fate⟩]
        accepted := before.accepted ++ taken
        outstanding := rest ++ notes }
  | takeOther {functor : ConnectionFunctor} {rest : List ConnectionFunctor} :
      before.outstanding = functor :: rest → functor.Silent →
      Step graceful before { before with outstanding := rest }
  | takeShutdown {record : StateE × Nat} {rest : List ConnectionFunctor} :
      before.outstanding = .shutdownInLoop :: rest →
      before.accepted = takenBytes before.sends →
      Step graceful before { before with
        outstanding := rest
        shutdownWrites := before.shutdownWrites ++ [record] }
  | drain {taken : List UInt8} {notes : List ConnectionFunctor} :
      (∀ note ∈ notes, note.Unrelated) → Step graceful before { before with
        accepted := before.accepted ++ taken
        outstanding := before.outstanding ++ notes }
  | drainShutdown {taken : List UInt8} {record : StateE × Nat}
      {notes : List ConnectionFunctor} : (∀ note ∈ notes, note.Unrelated) →
      before.state = .kDisconnecting → before.accepted ++ taken = takenBytes before.sends →
      (graceful → ∀ functor ∈ before.outstanding, functor.Silent) →
      Step graceful before { before with
        accepted := before.accepted ++ taken
        outstanding := before.outstanding ++ notes
        shutdownWrites := before.shutdownWrites ++ [record] }
  | shutdown : before.state = .kConnected →
      Step graceful before { before with state := .kDisconnecting }
  | shutdownWrite {record : StateE × Nat} : before.state = .kConnected →
      before.accepted = takenBytes before.sends →
      (graceful → ∀ functor ∈ before.outstanding, functor.Silent) →
      Step graceful before { before with
        state := .kDisconnecting
        shutdownWrites := before.shutdownWrites ++ [record] }
  | beginSetting (thread : ThreadId) (functor : Option ConnectionFunctor) :
      Step graceful before { before with
        setting := Function.update before.setting thread (some functor) }
  | setDisconnecting (thread : ThreadId) (functor : Option ConnectionFunctor) :
      Step graceful before { before with
        state := .kDisconnecting
        setting := Function.update before.setting thread none
        pushing := Function.update before.pushing thread functor }

theorem Step.same {graceful : Prop} (view : SendingView) : Step graceful view view := by
  have unchanged : Step graceful view { view with outstanding := view.outstanding ++ [] } :=
    .notify (by simp)
  simpa using unchanged

/-- Only functors that have nothing to do with the messages were queued. -/
def Notified (before after : SendingView) : Prop :=
  ∃ notes : List ConnectionFunctor, (∀ note ∈ notes, note.Unrelated) ∧
    after = { before with outstanding := before.outstanding ++ notes }

theorem Notified.refl (view : SendingView) : view.Notified view :=
  ⟨[], by simp, by simp⟩

theorem Notified.trans {first second third : SendingView} (left : first.Notified second)
    (right : second.Notified third) : first.Notified third := by
  rcases left with ⟨notes, unrelated, rfl⟩
  rcases right with ⟨more, moreUnrelated, rfl⟩
  refine ⟨notes ++ more, ?_, by simp⟩
  intro note member
  rcases List.mem_append.mp member with early | late
  · exact unrelated note early
  · exact moreUnrelated note late

end SendingView

namespace ConnectionSystem

variable {system next : ConnectionSystem}

def sendingView (system : ConnectionSystem) : SendingView where
  toOrderView := system.orderView
  state := system.connection.state
  accepted := system.history.accepted
  shutdownWrites := system.history.shutdownWrites

/-- The connection is neither closed nor destroyed, and no write fails before the write
side is shut down. -/
def StaysOpen (system : ConnectionSystem) : Action → Prop
  | .call _ .forceClose _ | .call _ .forceCloseWithDelay _ | .handleClose
  | .connectDestroyed | .destroyConnected => False
  | .call _ _ result | .runFunctor result | .handleWrite result =>
      system.history.shutdownWrites = [] → result.isFault = false
  | _ => True

/-- The loop thread does not shut down the write side at once, in `shutdown` or when it
has emptied the output buffer, while messages wait in the functor queue. -/
def Graceful (system : ConnectionSystem) : Action → Prop
  | .call none .shutdown _ => system.connection.channel.isWriting = true ∨
      ∀ functor ∈ system.functors.outstanding, functor.carriesMessage = false
  | .handleWrite result => system.connection.state = .kDisconnecting →
      result.count = system.connection.outputBuffer.readableBytes →
      ∀ functor ∈ system.functors.outstanding, functor.carriesMessage = false
  | _ => True

/-! ## What each step does -/

theorem withChannel_sendingView
    {operation : Channel → EPollPoller → Checked (Channel × EPollPoller)}
    (ran : system.withChannel operation = .ok next) :
    next.sendingView = system.sendingView := by
  rcases withChannel_ok ran with ⟨channel, poller, _, result⟩
  subst result
  rfl

theorem pushIf_sendingView {functor : ConnectionFunctor} (unrelated : functor.Unrelated)
    (due : Bool) : system.sendingView.Notified (system.pushIf due functor).sendingView := by
  cases due with
  | false => exact .refl _
  | true =>
      refine ⟨[functor], by simpa using unrelated, ?_⟩
      simp [sendingView, orderView, pushIf, push]

theorem push_sending {graceful : Prop} (functor : ConnectionFunctor)
    (unrelated : functor.Unrelated) :
    SendingView.Step graceful system.sendingView (system.push functor).sendingView := by
  have notified : SendingView.Step graceful system.sendingView { system.sendingView with
      outstanding := system.functors.outstanding ++ [functor] } :=
    .notify (by simpa using unrelated)
  simpa [sendingView, orderView, push] using notified

theorem bufferRemaining_sendingView {remaining : List UInt8}
    (ran : system.bufferRemaining remaining = .ok next) :
    system.sendingView.Notified next.sendingView := by
  unfold bufferRemaining at ran
  rcases Checked.bind_eq_ok_iff.mp ran with ⟨outputBuffer, _, result⟩
  dsimp only at result
  split at result
  · cases result
    exact pushIf_sendingView ⟨fun _ => rfl, by simp⟩ _
  · rw [withChannel_sendingView result]
    exact pushIf_sendingView ⟨fun _ => rfl, by simp⟩ _

theorem finishSend_sendingView {faultError : Bool} {remaining : List UInt8}
    (ran : system.finishSend faultError remaining = .ok next) :
    system.sendingView.Notified next.sendingView := by
  unfold finishSend at ran
  split at ran
  · exact bufferRemaining_sendingView ran
  · cases ran
    exact .refl _

theorem sendInLoop_sendingView {sender : Caller} {data : List UInt8} {result : WriteResult}
    (isOpen : system.connection.state ≠ .kDisconnected)
    (ran : system.sendInLoop sender data result = .ok next) :
    ∃ fate taken notes, (result.isFault = false → fate = SendFate.taken) ∧
      (∀ note ∈ notes, ConnectionFunctor.Unrelated note) ∧
      next.sendingView = { system.sendingView with
        sends := system.history.sends ++ [⟨sender, data, fate⟩]
        accepted := system.history.accepted ++ taken
        outstanding := system.functors.outstanding ++ notes } := by
  unfold sendInLoop at ran
  rw [if_neg isOpen] at ran
  rw [Checked.check_bind_of (by simp)] at ran
  rcases Checked.bind_eq_ok_iff.mp ran with ⟨finished, finishedRan, recorded⟩
  cases recorded
  rcases (pushIf_sendingView ⟨fun _ => rfl, by simp⟩ _).trans
    (finishSend_sendingView finishedRan) with ⟨notes, unrelated, view⟩
  refine ⟨if writesDirectly system.connection && result.isFault then .faulted else .taken,
    data.take (if writesDirectly system.connection then result.count else 0), notes, ?_,
    unrelated, ?_⟩
  · intro noFault
    simp [noFault]
  · have recorded : ∀ fate, (finished.recordSend sender data fate).sendingView =
        { finished.sendingView with
          sends := finished.sendingView.sends ++ [⟨sender, data, fate⟩] } := fun _ => rfl
    rw [recorded, view]
    rfl

theorem shutdownInLoop_sendingView (bytes : ByteStream True system.streamView)
    (isOpen : system.connection.state ≠ .kDisconnected) :
    system.shutdownInLoop.sendingView = system.sendingView ∨
      system.connection.channel.isWriting = false ∧
        system.history.accepted = takenBytes system.history.sends ∧
        ∃ record, system.shutdownInLoop.sendingView = { system.sendingView with
          shutdownWrites := system.history.shutdownWrites ++ [record] } := by
  unfold shutdownInLoop
  split
  · exact .inl rfl
  · rename_i notWriting
    have empty : system.connection.outputBuffer.content = [] := by
      by_contra filled
      exact notWriting ((bytes.interest trivial isOpen).mpr filled)
    have stream := bytes.stream
    simp only [streamView, empty, List.append_nil] at stream
    exact .inr ⟨by simpa using notWriting, stream, _, rfl⟩

/-- The functors that leave the messages alone. -/
theorem runFunctor_unrelated {functor : ConnectionFunctor} {result : WriteResult}
    (unrelated : functor.Unrelated) (ran : system.runFunctor functor result = .ok next) :
    next.sendingView = system.sendingView := by
  cases functor with
  | sendInLoop sender message =>
      have carried := unrelated.1 sender
      simp [ConnectionFunctor.messageOf] at carried
  | shutdownInLoop => exact absurd rfl unrelated.2
  | forceCloseInLoop =>
      cases ran
      unfold forceCloseInLoop
      split <;> rfl
  | startReadInLoop =>
      simp only [runFunctor, startReadInLoop] at ran
      split at ran
      · rcases Checked.bind_eq_ok_iff.mp ran with ⟨enabled, enabledRan, result⟩
        cases result
        have kept := withChannel_sendingView enabledRan
        exact kept
      · cases ran
        rfl
  | stopReadInLoop =>
      simp only [runFunctor, stopReadInLoop] at ran
      split at ran
      · rcases Checked.bind_eq_ok_iff.mp ran with ⟨disabled, disabledRan, result⟩
        cases result
        have kept := withChannel_sendingView disabledRan
        exact kept
      · cases ran
        rfl
  | connectDestroyed | writeCompleteCallback | highWaterMarkCallback size =>
      cases ran
      rfl

theorem runInLoop_unrelated {caller : Caller} {functor : ConnectionFunctor}
    {result : WriteResult} {graceful : Prop} (mayCall : system.MayCall caller)
    (unrelated : functor.Unrelated)
    (ran : system.runInLoop caller functor result = .ok next) :
    SendingView.Step graceful system.sendingView next.sendingView := by
  cases caller with
  | none =>
      rw [runFunctor_unrelated unrelated ran]
      exact .same _
  | some thread =>
      cases ran
      exact .enter mayCall.1 unrelated

theorem handleWrite_sending (bytes : ByteStream True system.streamView) {below : List Frame}
    {result : WriteResult}
    (bounded : result.count ≤ system.connection.outputBuffer.readableBytes)
    (ran : system.handleWrite below result = .ok next) :
    SendingView.Step (system.Graceful (.handleWrite result)) system.sendingView
      next.sendingView := by
  unfold handleWrite at ran
  split at ran
  · rcases Buffer.retrieve_ok bytes.wellFormed bounded with
      ⟨outputBuffer, retrieved, wellFormed, content⟩
    simp only [streamView] at retrieved
    rw [retrieved] at ran
    simp only [Checked.ok_bind] at ran
    split at ran
    · rename_i drained
      rcases Checked.bind_eq_ok_iff.mp ran with ⟨disabled, disabledRan, finished⟩
      have drainedView : disabled.sendingView = { system.sendingView with
          accepted := system.history.accepted ++
            system.connection.outputBuffer.content.take result.count } :=
        withChannel_sendingView disabledRan
      have length : system.connection.outputBuffer.content.length =
          system.connection.outputBuffer.readableBytes :=
        Buffer.WellFormed.content_length bytes.wellFormed
      have whole : result.count = system.connection.outputBuffer.readableBytes := by
        have nothing := (Buffer.content_eq_nil_iff wellFormed).mpr drained
        simp only [streamView] at content
        rw [content, List.drop_eq_nil_iff] at nothing
        omega
      have complete : system.history.accepted ++
          system.connection.outputBuffer.content.take result.count =
            takenBytes system.history.sends := by
        rw [whole, ← length, List.take_length]
        exact bytes.stream
      have notified : disabled.sendingView.Notified (disabled.pushIf
          disabled.connection.writeCompleteCallback .writeCompleteCallback).sendingView :=
        pushIf_sendingView ⟨fun _ => rfl, by simp⟩ _
      generalize disabled.pushIf disabled.connection.writeCompleteCallback
        .writeCompleteCallback = last at finished notified
      rcases notified with ⟨notes, unrelated, lastView⟩
      rw [drainedView] at lastView
      split at finished
      · rename_i lastDisconnecting
        cases finished
        have disconnecting : system.connection.state = .kDisconnecting := by
          have sameState := congrArg SendingView.state lastView
          exact sameState.symm.trans lastDisconnecting
        unfold shutdownInLoop
        split
        · rw [lastView]
          exact .drain unrelated
        · have shutView : ∀ record, ConnectionSystem.sendingView { last with
              history := { last.history with
                shutdownWrites := last.history.shutdownWrites ++ [record] } } =
              { last.sendingView with
                shutdownWrites := last.sendingView.shutdownWrites ++ [record] } := fun _ => rfl
          rw [shutView, lastView]
          refine .drainShutdown unrelated disconnecting complete ?_
          intro graceful functor member
          exact ConnectionFunctor.silent_of_carriesMessage
            (graceful disconnecting whole functor member)
      · cases finished
        rw [lastView]
        exact .drain unrelated
    · cases ran
      have drained : SendingView.Step (system.Graceful (.handleWrite result)) system.sendingView
          { system.sendingView with
            accepted := system.history.accepted ++
              system.connection.outputBuffer.content.take result.count
            outstanding := system.functors.outstanding ++ [] } := .drain (by simp)
      simpa [sendingView, orderView, accept] using drained
  · cases ran
    exact .same _

theorem send_sending {caller : Caller} {message : List UInt8} {result : WriteResult}
    {graceful : Prop} (mayCall : system.MayCall caller)
    (succeeds : system.history.shutdownWrites = [] → result.isFault = false)
    (ran : system.send caller message result = .ok next) :
    SendingView.Step graceful system.sendingView next.sendingView := by
  unfold send at ran
  split at ran
  · rename_i connected
    cases caller with
    | none =>
        have isOpen : system.connection.state ≠ .kDisconnected := by
          rw [connected]
          decide
        rcases sendInLoop_sendingView (by exact isOpen) ran with
          ⟨fate, taken, notes, isTaken, unrelated, view⟩
        rw [view]
        exact .sendDirect connected (fun shut => isTaken (succeeds shut)) unrelated
    | some thread =>
        cases ran
        exact .enterMessage connected mayCall.1
  · cases ran
    exact .same _

theorem shutdown_sending (bytes : ByteStream True system.streamView) {caller : Caller}
    {result : WriteResult} (ran : system.shutdown caller result = .ok next) :
    SendingView.Step (system.Graceful (.call caller .shutdown result)) system.sendingView
      next.sendingView := by
  unfold shutdown at ran
  split at ran
  · rename_i connected
    cases caller with
    | none =>
        have disconnecting : ByteStream True (system.setState .kDisconnecting).streamView :=
          bytes.setState fun _ closed => absurd closed (isOpen.notClosed (.inl connected))
        cases ran
        rcases shutdownInLoop_sendingView disconnecting (by simp [setState]) with
          view | ⟨notWriting, complete, record, view⟩
        · rw [view]
          exact .shutdown connected
        · rw [view]
          refine .shutdownWrite connected complete ?_
          rintro (writing | quiet) functor member
          · have stillWriting : (system.setState .kDisconnecting).connection.channel.isWriting =
              true := writing
            rw [notWriting] at stillWriting
            cases stillWriting
          · exact ConnectionFunctor.silent_of_carriesMessage (quiet functor member)
    | some thread =>
        cases ran
        exact .beginSetting thread _
  · cases ran
    exact .same _

/-- Taking the next functor out of the batch and running it. -/
theorem runFunctor_sending (bytes : ByteStream True system.streamView) {result : WriteResult}
    {graceful : Prop} (isOpen : system.connection.state ≠ .kDisconnected)
    (succeeds : system.history.shutdownWrites = [] → result.isFault = false)
    (ran : system.step (.runFunctor result) = .ok next) :
    SendingView.Step graceful system.sendingView next.sendingView := by
  simp only [step] at ran
  split at ran
  · rename_i functor rest taken
    have first : system.sendingView.outstanding = functor :: rest.outstanding :=
      FunctorQueue.outstanding_next taken
    have restView : ConnectionSystem.sendingView { system with functors := rest } =
        { system.sendingView with outstanding := rest.outstanding } := rfl
    rcases functor.silent_or_message with silent | ⟨sender, message, isMessage⟩
    · by_cases shuts : functor = .shutdownInLoop
      · subst shuts
        cases ran
        have restBytes : ByteStream True
            (ConnectionSystem.streamView { system with functors := rest }) := bytes
        rcases shutdownInLoop_sendingView restBytes (by exact isOpen) with
          view | ⟨_, complete, record, view⟩
        · rw [view, restView]
          exact .takeOther first silent
        · rw [view, restView]
          exact .takeShutdown first complete
      · rw [runFunctor_unrelated ⟨silent, shuts⟩ ran, restView]
        exact .takeOther first silent
    · subst isMessage
      rcases sendInLoop_sendingView (by exact isOpen) ran with
        ⟨fate, taken, notes, isTaken, unrelated, view⟩
      rw [view]
      exact .takeMessage first (fun shut => isTaken (succeeds shut)) unrelated
  · cases ran
    exact .same _

theorem sendingView_eq (stream : next.streamView = system.streamView)
    (order : next.orderView = system.orderView) : next.sendingView = system.sendingView := by
  have state : next.connection.state = system.connection.state :=
    congrArg StreamView.state stream
  have accepted : next.history.accepted = system.history.accepted :=
    congrArg StreamView.accepted stream
  have shutdownWrites : next.history.shutdownWrites = system.history.shutdownWrites :=
    congrArg StreamView.shutdownWrites stream
  rw [sendingView, sendingView, order, state, accepted, shutdownWrites]

/-- While the connection stays open, each step is one that the view knows. -/
theorem step_sending (action : Action) (bytes : ByteStream True system.streamView)
    (isOpen : system.connection.state ≠ .kDisconnected) (allowed : system.Allowed action)
    (stays : system.StaysOpen action) (ran : system.step action = .ok next) :
    SendingView.Step (system.Graceful action) system.sendingView next.sendingView := by
  cases action with
  | call caller call result =>
      have mayCall := allowed.2.1
      cases call with
      | send message => exact send_sending mayCall stays ran
      | shutdown => exact shutdown_sending bytes ran
      | forceClose | forceCloseWithDelay => exact absurd stays id
      | startRead | stopRead => exact runInLoop_unrelated mayCall ⟨fun _ => rfl, by simp⟩ ran
  | setDisconnecting thread =>
      cases ran
      unfold setDisconnecting
      split
      · rename_i functor _
        exact .setDisconnecting thread functor
      · exact .same _
  | push thread =>
      simp only [step] at ran
      split at ran
      · rename_i functor pushing
        cases ran
        have pushed : SendingView.Step (system.Graceful (.push thread)) system.sendingView
            { system.sendingView with
              outstanding := system.functors.outstanding ++ [functor]
              pushing := Function.update system.pushing thread none } := .push pushing
        simpa [sendingView, orderView, push] using pushed
      · cases ran
        exact .same _
  | runFunctor result => exact runFunctor_sending bytes isOpen stays ran
  | connectEstablished =>
      rcases Checked.check_bind_eq_ok_iff.mp ran with ⟨connecting, rest⟩
      rcases Checked.bind_eq_ok_iff.mp rest with ⟨enabled, enabledRan, result⟩
      cases result
      have view : enabled.sendingView = { system.sendingView with state := .kConnected } :=
        withChannel_sendingView enabledRan
      have called : enabled.callConnectionCallback.sendingView = enabled.sendingView := rfl
      rw [called, view]
      exact .establish connecting
  | handleWrite result => exact handleWrite_sending bytes allowed.2.2 ran
  | handleClose | connectDestroyed | destroyConnected => exact absurd stays id
  | removeConnectionInLoop =>
      cases ran
      exact push_sending .connectDestroyed ⟨fun _ => rfl, by simp⟩
  | destroyServer inLoopThread =>
      cases ran
      unfold destroyServer
      split
      · split
        · exact .same _
        · exact push_sending .connectDestroyed ⟨fun _ => rfl, by simp⟩
      · exact .same _
  | retrieveInput _ | poll _ | dispatch | endEvents | swapFunctors | returnCallback
  | nextCallback | finishEvent | handleRead _ | closeCallback | channelRemove =>
      rcases step_views rfl allowed ran with ⟨stream, order⟩
      rw [sendingView_eq stream order]
      exact .same _

end ConnectionSystem

/-! ## Messages on their way -/

/-- The caller's messages among the functors, in their order. -/
def messagesOf (functors : List ConnectionFunctor) (caller : Caller) : List (List UInt8) :=
  functors.filterMap fun functor => functor.messageOf caller

theorem messagesOf_append (left right : List ConnectionFunctor) (caller : Caller) :
    messagesOf (left ++ right) caller = messagesOf left caller ++ messagesOf right caller :=
  List.filterMap_append

theorem messagesOf_cons_silent {functor : ConnectionFunctor} (silent : functor.Silent)
    (rest : List ConnectionFunctor) (caller : Caller) :
    messagesOf (functor :: rest) caller = messagesOf rest caller := by
  simp [messagesOf, silent caller]

theorem messagesOf_silent {functors : List ConnectionFunctor}
    (silent : ∀ functor ∈ functors, functor.Silent) (caller : Caller) :
    messagesOf functors caller = [] := by
  rw [messagesOf, List.filterMap_eq_nil_iff]
  exact fun functor member => silent functor member caller

/-- The caller's messages that were neither given up nor dropped. -/
def takenBy (sends : List SendRecord) (caller : Caller) : List (List UInt8) :=
  (sends.filter fun record => record.sender = caller ∧ record.fate = .taken).map
    fun record => record.message

namespace SendingView

variable {view before after : SendingView} {promised : Caller → List (List UInt8)}

def AllTaken (view : SendingView) : Prop := ∀ record ∈ view.sends, record.fate = .taken

theorem AllTaken.takenBy_eq (allTaken : view.AllTaken) (caller : Caller) :
    takenBy view.sends caller = view.dealtWith caller := by
  unfold takenBy OrderView.dealtWith
  congr 1
  apply List.filter_congr
  intro record member
  simp [allTaken record member]

theorem AllTaken.append (allTaken : view.AllTaken) {record : SendRecord}
    (taken : record.fate = .taken) :
    ∀ other ∈ view.sends ++ [record], other.fate = .taken := by
  intro other member
  rcases List.mem_append.mp member with old | new
  · exact allTaken other old
  · rw [List.mem_singleton.mp new]
    exact taken

/-- The kernel has all bytes of the promised messages. -/
def Delivered (promised : Caller → List (List UInt8)) (view : SendingView) : Prop :=
  ∃ done rest, view.sends = done ++ rest ∧ takenBytes done <+: view.accepted ∧
    ∀ caller, promised caller <+: takenBy done caller

theorem Delivered.grow (delivered : Delivered promised view) (sends : view.sends <+: after.sends)
    (accepted : view.accepted <+: after.accepted) : Delivered promised after := by
  rcases delivered with ⟨done, rest, split, taken, messages⟩
  rcases sends with ⟨more, sends⟩
  refine ⟨done, rest ++ more, ?_, taken.trans accepted, messages⟩
  rw [← sends, split, List.append_assoc]

/-- Before `shutdown` nothing shuts down the write side, and no message is lost. -/
structure Early (view : SendingView) : Prop where
  isOpen : view.state ≠ .kDisconnected
  writes : view.state = .kConnecting ∨ view.state = .kConnected → view.shutdownWrites = []
  queued : view.state = .kConnecting ∨ view.state = .kConnected →
    ∀ functor ∈ view.outstanding, functor ≠ .shutdownInLoop
  pushing : view.state = .kConnecting ∨ view.state = .kConnected →
    ∀ thread functor, view.pushing thread = some functor → functor ≠ .shutdownInLoop
  taken : view.shutdownWrites = [] → view.AllTaken

/-- The promised messages are dealt with or queued, and ahead of a queued
`shutdownInLoop`. -/
structure Pending (promised : Caller → List (List UInt8)) (view : SendingView) : Prop where
  writes : view.shutdownWrites = []
  taken : view.AllTaken
  queued : ∀ caller, promised caller <+:
    view.dealtWith caller ++ messagesOf view.outstanding caller
  ahead : ∀ ahead behind, view.outstanding = ahead ++ .shutdownInLoop :: behind →
    ∀ caller, promised caller <+: view.dealtWith caller ++ messagesOf ahead caller

theorem split_append {left notes ahead behind : List ConnectionFunctor}
    {functor : ConnectionFunctor} (split : left ++ notes = ahead ++ functor :: behind) :
    (∃ rest, left = ahead ++ functor :: rest) ∨ ∃ gap, ahead = left ++ gap := by
  rcases List.append_eq_append_iff.mp split with ⟨gap, isAhead, _⟩ | ⟨common, isLeft, rest⟩
  · exact .inr ⟨gap, isAhead⟩
  · cases common with
    | nil => exact .inr ⟨[], by rw [isLeft]; simp⟩
    | cons head tail =>
        cases rest
        exact .inl ⟨tail, isLeft⟩

theorem Pending.append (pending : Pending promised view) (notes : List ConnectionFunctor) :
    Pending promised { view with outstanding := view.outstanding ++ notes } where
  writes := pending.writes
  taken := pending.taken
  queued caller := by
    rw [messagesOf_append, ← List.append_assoc]
    exact (pending.queued caller).trans (List.prefix_append _ _)
  ahead ahead behind split caller := by
    rcases split_append split with ⟨rest, within⟩ | ⟨gap, beyond⟩
    · exact pending.ahead ahead rest within caller
    · rw [beyond, messagesOf_append, ← List.append_assoc]
      exact (pending.queued caller).trans (List.prefix_append _ _)

theorem Pending.take_silent (pending : Pending promised view) {functor : ConnectionFunctor}
    {rest : List ConnectionFunctor} (first : view.outstanding = functor :: rest)
    (silent : functor.Silent) : Pending promised { view with outstanding := rest } where
  writes := pending.writes
  taken := pending.taken
  queued caller := by
    have queued := pending.queued caller
    rw [first, messagesOf_cons_silent silent] at queued
    exact queued
  ahead ahead behind split caller := by
    have queued := pending.ahead (functor :: ahead) behind (by rw [first]; exact congrArg _ split)
      caller
    rw [messagesOf_cons_silent silent] at queued
    exact queued

theorem Pending.take_message (pending : Pending promised view) {sender : Caller}
    {message : List UInt8} {rest : List ConnectionFunctor}
    (first : view.outstanding = .sendInLoop sender message :: rest) :
    Pending promised { view with
      outstanding := rest
      sends := view.sends ++ [⟨sender, message, .taken⟩] } := by
  have moved : ∀ functors caller,
      view.dealtWith caller ++ messagesOf (.sendInLoop sender message :: functors) caller =
        OrderView.dealtWith { view.toOrderView with
          sends := view.sends ++ [⟨sender, message, .taken⟩] } caller ++
        messagesOf functors caller := by
    intro functors caller
    by_cases same : sender = caller
    · simp [OrderView.dealtWith, messagesOf, ConnectionFunctor.messageOf, same]
    · simp [OrderView.dealtWith, messagesOf, ConnectionFunctor.messageOf, same]
  refine ⟨pending.writes, pending.taken.append rfl, ?_, ?_⟩
  · intro caller
    have queued := pending.queued caller
    rw [first, moved] at queued
    exact queued
  · intro ahead behind split caller
    have queued := pending.ahead (.sendInLoop sender message :: ahead) behind
      (by rw [first]; exact congrArg _ split) caller
    rw [moved] at queued
    exact queued

/-- Nothing promised is queued any more, and the kernel has what was dealt with. -/
theorem Pending.delivered (pending : Pending promised view)
    (nothing : ∀ caller, promised caller <+: view.dealtWith caller)
    (sends : after.sends = view.sends) (complete : after.accepted = takenBytes view.sends) :
    Delivered promised after := by
  refine ⟨view.sends, [], by rw [sends, List.append_nil], ?_, ?_⟩
  · rw [complete]
  · intro caller
    rw [pending.taken.takenBy_eq]
    exact nothing caller

theorem Pending.nothing_queued (pending : Pending promised view)
    (quiet : ∀ functor ∈ view.outstanding, functor.Silent) (caller : Caller) :
    promised caller <+: view.dealtWith caller := by
  have queued := pending.queued caller
  rwa [messagesOf_silent quiet, List.append_nil] at queued

/-! ## Steps of the view -/

theorem Early.queued_append (early : Early view) {notes : List ConnectionFunctor}
    (unrelated : ∀ note ∈ notes, note.Unrelated)
    (up : view.state = .kConnecting ∨ view.state = .kConnected) :
    ∀ functor ∈ view.outstanding ++ notes, functor ≠ .shutdownInLoop := by
  intro functor member
  rcases List.mem_append.mp member with old | new
  · exact early.queued up functor old
  · exact (unrelated functor new).2

theorem Early.pushing_update (early : Early view) (thread : ThreadId)
    {value : Option ConnectionFunctor} (isOther : ∀ functor ∈ value, functor ≠ .shutdownInLoop)
    (up : view.state = .kConnecting ∨ view.state = .kConnected) :
    ∀ other functor, Function.update view.pushing thread value other = some functor →
      functor ≠ .shutdownInLoop := by
  intro other functor pushing
  by_cases same : other = thread
  · rw [same, Function.update_self] at pushing
    exact isOther functor pushing
  · rw [Function.update_of_ne same] at pushing
    exact early.pushing up other functor pushing

/-- The write side is shut down only once the state says so. -/
theorem Early.shutdownWrite (early : Early view)
    (notUp : ¬(view.state = .kConnecting ∨ view.state = .kConnected)) {accepted : List UInt8}
    {outstanding : List ConnectionFunctor} {record : StateE × Nat} :
    Early { view with
      accepted, outstanding, shutdownWrites := view.shutdownWrites ++ [record] } where
  isOpen := early.isOpen
  writes up := absurd up notUp
  queued up := absurd up notUp
  pushing := early.pushing
  taken shut := by simp at shut

theorem Early.step {graceful : Prop} (early : Early before)
    (step : Step graceful before after) : Early after := by
  cases step with
  | notify unrelated | drain unrelated =>
      exact { early with queued := early.queued_append unrelated }
  | establish connecting =>
      exact {
        isOpen := by simp
        writes := fun _ => early.writes (.inl connecting)
        queued := fun _ => early.queued (.inl connecting)
        pushing := fun _ => early.pushing (.inl connecting)
        taken := early.taken }
  | enter free unrelated =>
      refine { early with pushing := early.pushing_update _ ?_ }
      rintro functor ⟨⟩
      exact unrelated.2
  | enterMessage connected free =>
      refine { early with pushing := early.pushing_update _ ?_ }
      rintro functor ⟨⟩
      simp
  | push pushing =>
      refine { early with queued := ?_, pushing := early.pushing_update _ (by simp) }
      intro up functor member
      rcases List.mem_append.mp member with old | new
      · exact early.queued up functor old
      · rw [List.mem_singleton.mp new]
        exact early.pushing up _ _ pushing
  | sendDirect connected taken unrelated =>
      refine { early with queued := early.queued_append unrelated, taken := ?_ }
      exact fun shut => (early.taken shut).append (taken shut)
  | takeMessage first taken unrelated =>
      refine { early with queued := ?_, taken := ?_ }
      · intro up functor member
        refine early.queued_append unrelated up functor ?_
        rw [first]
        exact List.mem_cons_of_mem _ member
      · exact fun shut => (early.taken shut).append (taken shut)
  | takeOther first silent =>
      refine { early with queued := ?_ }
      exact fun up functor member => early.queued up functor (by rw [first]; simp [member])
  | takeShutdown first complete =>
      refine early.shutdownWrite ?_
      exact fun up => early.queued up .shutdownInLoop (by rw [first]; simp) rfl
  | drainShutdown unrelated disconnecting complete quiet =>
      refine early.shutdownWrite ?_
      simp [disconnecting]
  | beginSetting => exact { early with }
  | shutdown | setDisconnecting => exact ⟨by simp, by simp, by simp, by simp, early.taken⟩
  | shutdownWrite connected complete quiet =>
      exact ⟨by simp, by simp, by simp, by simp, by simp⟩

/-- What holds from the call of `shutdown` on. -/
structure Awaiting (promised : Caller → List (List UInt8)) (view : SendingView) : Prop where
  isOpen : view.state = .kConnected ∨ view.state = .kDisconnecting
  outcome : Delivered promised view ∨ Pending promised view

/-- The loop thread's messages pass the queue by, and it has none there. -/
theorem Pending.send_direct (pending : Pending promised view)
    (notLoop : ∀ functor ∈ view.outstanding, functor.messageOf none = none)
    {message : List UInt8} {issued : List (Caller × List UInt8)} {accepted : List UInt8} :
    Pending promised { view with
      issued := issued
      accepted := accepted
      sends := view.sends ++ [⟨none, message, .taken⟩] } := by
  have moved : ∀ functors : List ConnectionFunctor,
      (∀ functor ∈ functors, functor ∈ view.outstanding) → ∀ caller,
      promised caller <+: view.dealtWith caller ++ messagesOf functors caller →
      promised caller <+: OrderView.dealtWith { view.toOrderView with
        sends := view.sends ++ [⟨none, message, .taken⟩] } caller ++
          messagesOf functors caller := by
    intro functors among caller queued
    cases caller with
    | none =>
        have nothing : messagesOf functors none = [] :=
          List.filterMap_eq_nil_iff.mpr fun functor member => notLoop functor (among functor member)
        rw [nothing, List.append_nil] at queued ⊢
        refine queued.trans ?_
        simp [OrderView.dealtWith]
    | some thread => simpa [OrderView.dealtWith] using queued
  refine ⟨pending.writes, pending.taken.append rfl, ?_, ?_⟩
  · exact fun caller => moved _ (fun _ => id) caller (pending.queued caller)
  · intro ahead behind split caller
    refine moved ahead (fun functor member => ?_) caller (pending.ahead ahead behind split caller)
    have whole : view.outstanding = ahead ++ .shutdownInLoop :: behind := split
    simp [whole, member]

theorem Step.grows {graceful : Prop} (step : Step graceful before after) :
    before.sends <+: after.sends ∧ before.accepted <+: after.accepted := by
  cases step with
  | sendDirect | takeMessage => exact ⟨List.prefix_append _ _, List.prefix_append _ _⟩
  | drain | drainShutdown => exact ⟨List.prefix_rfl, List.prefix_append _ _⟩
  | notify | establish | enter | enterMessage | push | takeOther | takeShutdown | shutdown
  | shutdownWrite | beginSetting | setDisconnecting => exact ⟨List.prefix_rfl, List.prefix_rfl⟩

theorem Step.isOpen {graceful : Prop} (step : Step graceful before after)
    (isOpen : before.state = .kConnected ∨ before.state = .kDisconnecting) :
    after.state = .kConnected ∨ after.state = .kDisconnecting := by
  cases step with
  | establish => exact .inl rfl
  | shutdown | shutdownWrite | setDisconnecting => exact .inr rfl
  | notify | enter | enterMessage | push | sendDirect | takeMessage | takeOther | takeShutdown
  | drain | drainShutdown | beginSetting => exact isOpen

theorem Pending.step (pending : Pending promised before)
    (order : ProgramOrder before.toOrderView) (step : Step True before after) :
    Delivered promised after ∨ Pending promised after := by
  cases step with
  | establish | enter | enterMessage | shutdown | beginSetting | setDisconnecting =>
      exact .inr { pending with }
  | notify unrelated => exact .inr (pending.append _)
  | @push thread functor pushing =>
      have appended := pending.append [functor]
      exact .inr { appended with }
  | @sendDirect _ _ _ notes connected taken unrelated =>
      have isTaken := taken pending.writes
      subst isTaken
      exact .inr ((pending.send_direct order.notLoop).append notes)
  | @takeMessage _ _ _ _ _ notes first taken unrelated =>
      have isTaken := taken pending.writes
      subst isTaken
      have appended := (pending.take_message first).append notes
      exact .inr { appended with }
  | takeOther first silent => exact .inr (pending.take_silent first silent)
  | takeShutdown first complete =>
      refine .inl (pending.delivered ?_ rfl complete)
      intro caller
      simpa [messagesOf] using pending.ahead [] _ first caller
  | @drain _ notes unrelated =>
      have appended := pending.append notes
      exact .inr { appended with }
  | drainShutdown unrelated _ complete quiet =>
      exact .inl (pending.delivered (pending.nothing_queued (quiet trivial)) rfl complete)
  | shutdownWrite _ complete quiet =>
      exact .inl (pending.delivered (pending.nothing_queued (quiet trivial)) rfl complete)

theorem Awaiting.step (awaiting : Awaiting promised before)
    (order : ProgramOrder before.toOrderView) (step : Step True before after) :
    Awaiting promised after := by
  refine ⟨step.isOpen awaiting.isOpen, ?_⟩
  rcases awaiting.outcome with delivered | pending
  · exact .inl (delivered.grow step.grows.1 step.grows.2)
  · exact pending.step order step

/-- When `shutdown` is called, what the callers are promised is dealt with or queued. -/
theorem Early.awaiting (early : Early view) (connected : view.state = .kConnected) :
    Awaiting (fun caller => view.dealtWith caller ++ view.queued caller) view := by
  have writes := early.writes (.inr connected)
  refine ⟨.inl connected, .inr ⟨writes, early.taken writes, fun _ => List.prefix_rfl, ?_⟩⟩
  intro ahead behind split
  exact absurd rfl (early.queued (.inr connected) .shutdownInLoop (by rw [split]; simp))

end SendingView

/-! ## Graceful shutdown -/

namespace ConnectionSystem

variable {system next : ConnectionSystem}

/-- The caller's messages whose `send` found the connection connected and has returned. -/
def returnedBy (system : ConnectionSystem) (caller : Caller) : List (List UInt8) :=
  let issued := system.orderView.issuedBy caller
  issued.take (issued.length - (system.orderView.entering caller).length)

theorem returnedBy_eq (ordered : ProgramOrder system.orderView) (caller : Caller) :
    system.returnedBy caller =
      system.orderView.dealtWith caller ++ system.orderView.queued caller := by
  unfold returnedBy
  rw [← ordered.order caller]
  simp only [List.length_append, Nat.add_sub_cancel]
  exact List.take_left' (List.length_append)

/-- Runs in which the connection stays open. -/
def openMachine : Machine ConnectionSystem Action := machine.restrict StaysOpen

/-- Of those, the runs in which no step shuts down the write side past the queue. -/
def gracefulMachine : Machine ConnectionSystem Action := openMachine.restrict Graceful

instance (system : ConnectionSystem) : (action : Action) → Decidable (system.StaysOpen action)
  | .call _ .forceClose _ | .call _ .forceCloseWithDelay _ | .handleClose
  | .connectDestroyed | .destroyConnected => .isFalse id
  | .call _ (.send _) _ | .call _ .shutdown _ | .call _ .startRead _ | .call _ .stopRead _
  | .runFunctor _ | .handleWrite _ => inferInstanceAs (Decidable (_ → _))
  | .setDisconnecting _ | .push _ | .retrieveInput _ | .poll _ | .dispatch | .endEvents
  | .swapFunctors | .connectEstablished | .returnCallback | .nextCallback | .finishEvent
  | .handleRead _ | .closeCallback | .channelRemove | .removeConnectionInLoop
  | .destroyServer _ => .isTrue trivial

instance (system : ConnectionSystem) : (action : Action) → Decidable (system.Graceful action)
  | .call none .shutdown _ => inferInstanceAs (Decidable (_ ∨ _))
  | .handleWrite _ => inferInstanceAs (Decidable (_ → _))
  | .call (some _) .shutdown _
  | .call none .forceClose _ | .call (some _) .forceClose _
  | .call none .forceCloseWithDelay _ | .call (some _) .forceCloseWithDelay _
  | .call none (.send _) _ | .call (some _) (.send _) _
  | .call none .startRead _ | .call (some _) .startRead _
  | .call none .stopRead _ | .call (some _) .stopRead _ | .runFunctor _
  | .push _ | .retrieveInput _ | .poll _ | .dispatch | .endEvents | .swapFunctors
  | .connectEstablished | .returnCallback | .nextCallback | .finishEvent | .handleRead _
  | .closeCallback | .channelRemove | .removeConnectionInLoop | .destroyServer _
  | .setDisconnecting _ | .handleClose | .connectDestroyed | .destroyConnected => .isTrue trivial

instance (system : ConnectionSystem) (action : Action) :
    Decidable (openMachine.allowed system action) :=
  inferInstanceAs (Decidable ((machine.restrict StaysOpen).allowed system action))

instance (system : ConnectionSystem) (action : Action) :
    Decidable (gracefulMachine.allowed system action) :=
  inferInstanceAs (Decidable ((openMachine.restrict Graceful).allowed system action))

theorem open_early (reachable : openMachine.Reachable system) :
    system.Streaming True ∧ system.sendingView.Early := by
  refine reachable.invariant
    (fun system => system.Streaming True ∧ system.sendingView.Early) ?_ ?_
  · intro first initial
    refine ⟨initial_streaming initial, ?_⟩
    rcases initial with ⟨_, _, _, _, _, _, _, _, _, _, rfl⟩
    constructor <;> simp [sendingView, orderView, create, SendingView.AllTaken]
  · rintro current action after ⟨streaming, early⟩ ⟨allowed, stays⟩ ran
    exact ⟨step_streaming action streaming allowed (fun _ => unraced_of_ne early.isOpen) ran,
      early.step (step_sending action streaming.bytes early.isOpen allowed stays ran)⟩

/-- A graceful step of a run that awaits the end of the output. -/
theorem step_awaiting {promised : Caller → List (List UInt8)} {action : Action}
    (streaming : system.Streaming True) (awaiting : system.sendingView.Awaiting promised)
    (allowed : gracefulMachine.allowed system action) (ran : system.step action = .ok next) :
    next.Streaming True ∧ next.sendingView.Awaiting promised := by
  rcases allowed with ⟨⟨allowed, stays⟩, graceful⟩
  have notClosed : system.connection.state ≠ .kDisconnected :=
    isOpen.notClosed awaiting.isOpen
  have step := step_sending action streaming.bytes notClosed allowed stays ran
  rw [eq_true graceful] at step
  exact ⟨step_streaming action streaming allowed (fun _ => unraced_of_ne notClosed) ran,
    awaiting.step streaming.order step⟩

theorem graceful_awaiting {promised : Caller → List (List UInt8)} {first : ConnectionSystem}
    (streaming : first.Streaming True) (awaiting : first.sendingView.Awaiting promised)
    (later : (gracefulMachine.startingAt first).Reachable system) :
    system.Streaming True ∧ system.sendingView.Awaiting promised := by
  refine later.invariant
    (fun system => system.Streaming True ∧ system.sendingView.Awaiting promised) ?_ ?_
  · rintro _ rfl
    exact ⟨streaming, awaiting⟩
  · rintro current action after ⟨streaming, awaiting⟩ allowed ran
    exact step_awaiting streaming awaiting allowed ran

theorem graceful_shutdown {before called : ConnectionSystem} {caller : Caller}
    {result : WriteResult} (reachable : openMachine.Reachable before)
    (connected : before.connection.state = .kConnected)
    (allowed : gracefulMachine.allowed before (.call caller .shutdown result))
    (ran : before.step (.call caller .shutdown result) = .ok called)
    (later : (gracefulMachine.startingAt called).Reachable system)
    (shut : system.history.shutdownWrites ≠ []) :
    system.sendingView.Delivered before.returnedBy := by
  rcases open_early reachable with ⟨streaming, early⟩
  have promised : before.returnedBy = fun caller =>
      before.sendingView.dealtWith caller ++ before.sendingView.queued caller := by
    funext caller
    exact returnedBy_eq streaming.order caller
  have awaiting := early.awaiting connected
  rw [← promised] at awaiting
  rcases step_awaiting streaming awaiting allowed ran with ⟨streaming, awaiting⟩
  cases (graceful_awaiting streaming awaiting later).2.outcome with
  | inl delivered => exact delivered
  | inr pending => exact absurd pending.writes shut

/-- Another thread's message waits in the queue, and then the shutdown of a third thread;
the write side is shut down when both have been run. -/
theorem graceful_shutdown_queued :
    ∃ before called system, openMachine.Reachable before ∧
      before.returnedBy (some 9) = [[1, 2]] ∧
      before.step (.call (some 8) .shutdown (.wrote 0)) = .ok called ∧
      (gracefulMachine.startingAt called).Reachable system ∧
      system.history.shutdownWrites = [(.kDisconnecting, 0)] ∧
      system.sendingView.Delivered before.returnedBy := by
  have run := Machine.exists_reachable openMachine
    (fun before => before.connection.state = .kConnected ∧
      before.returnedBy (some 9) = [[1, 2]] ∧
      gracefulMachine.allowed before (.call (some 8) .shutdown (.wrote 0)) ∧
      ∃ called ∈ (before.step (.call (some 8) .shutdown (.wrote 0))).toOption,
        ∃ system ∈ (gracefulMachine.startingAt called).execute called
          [.setDisconnecting 8, .push 8, .swapFunctors, .runFunctor (.wrote 2),
            .runFunctor (.wrote 0)],
          system.history.shutdownWrites = [(.kDisconnecting, 0)])
    lone_initial
    [.connectEstablished, .returnCallback, .call (some 9) (.send [1, 2]) (.wrote 0), .push 9]
    (by decide +kernel)
  rcases run with ⟨before, reachable, connected, returned, allowed, called, isCalled, system,
    executed, shut⟩
  have ran := Checked.eq_ok_of_mem_toOption isCalled
  have later := (Machine.Reachable.initial rfl).execute executed
  exact ⟨before, called, system, reachable, returned, ran, later, shut,
    graceful_shutdown reachable connected allowed ran later (by rw [shut]; simp)⟩

/-- Another thread's `send` has returned and its message is queued. A `shutdown` in the
loop thread shuts down the write side before the message is written. -/
theorem queued_message_lost :
    ∃ before called, openMachine.Reachable before ∧
      before.connection.state = .kConnected ∧
      openMachine.allowed before (.call none .shutdown (.wrote 0)) ∧
      before.step (.call none .shutdown (.wrote 0)) = .ok called ∧
      called.history.shutdownWrites ≠ [] ∧
      ¬called.sendingView.Delivered before.returnedBy := by
  have run := Machine.exists_reachable openMachine
    (fun before => before.connection.state = .kConnected ∧
      before.returnedBy (some 9) = [[1]] ∧
      openMachine.allowed before (.call none .shutdown (.wrote 0)) ∧
      ∃ called ∈ (before.step (.call none .shutdown (.wrote 0))).toOption,
        called.history.shutdownWrites ≠ [] ∧ called.history.sends = [])
    lone_initial
    [.connectEstablished, .returnCallback, .call (some 9) (.send [1]) (.wrote 0), .push 9]
    (by decide +kernel)
  rcases run with ⟨before, reachable, connected, returned, allowed, called, isCalled, shut,
    nothing⟩
  refine ⟨before, called, reachable, connected, allowed, Checked.eq_ok_of_mem_toOption isCalled,
    shut, ?_⟩
  rintro ⟨done, rest, sends, _, promised⟩
  have noSends : done ++ rest = [] := sends.symm.trans nothing
  have unsent := promised (some 9)
  rw [returned, (List.append_eq_nil_iff.mp noSends).1] at unsent
  simp [takenBy] at unsent

end ConnectionSystem

end Ccnet.Net
