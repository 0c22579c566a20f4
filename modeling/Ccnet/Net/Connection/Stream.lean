import Ccnet.Net.Connection.TcpConnection

/-! # The byte stream of a connection

Whatever the kernel takes of each write, the bytes it has accepted and those in
the output buffer are the messages sent, in order. -/

namespace Ccnet.Net

namespace ConnectionSystem

variable {system next : ConnectionSystem}

theorem withChannel_ok
    {operation : Channel → EPollPoller → Checked (Channel × EPollPoller)}
    (ran : system.withChannel operation = .ok next) :
    ∃ channel poller,
      operation system.connection.channel system.poller = .ok (channel, poller) ∧
      next = { system with connection := { system.connection with channel }, poller } := by
  rcases Checked.bind_eq_ok_iff.mp ran with ⟨⟨channel, poller⟩, operated, result⟩
  cases result
  exact ⟨channel, poller, operated, rfl⟩

end ConnectionSystem

/-! ## Bytes -/

/-- What the byte stream depends on. -/
structure StreamView where
  state : StateE
  writing : Bool
  outputBuffer : Buffer
  accepted : List UInt8
  sends : List SendRecord
  shutdownWrites : List (StateE × Nat)

/-- The messages that were neither given up nor dropped, one after the other. -/
def takenBytes (sends : List SendRecord) : List UInt8 :=
  ((sends.filter fun record => record.fate = .taken).map fun record =>
    record.message).flatten

theorem takenBytes_append_taken (sends : List SendRecord) (sender : Caller)
    (message : List UInt8) :
    takenBytes (sends ++ [⟨sender, message, .taken⟩]) = takenBytes sends ++ message := by
  simp [takenBytes]

theorem takenBytes_append_other (sends : List SendRecord) (sender : Caller)
    (message : List UInt8) {fate : SendFate} (different : fate ≠ .taken) :
    takenBytes (sends ++ [⟨sender, message, fate⟩]) = takenBytes sends := by
  simp [takenBytes, different]

/-- `unraced` is that no thread has set the state of a connection that was closed. -/
structure ByteStream (unraced : Prop) (view : StreamView) : Prop where
  wellFormed : view.outputBuffer.WellFormed
  stream : view.accepted ++ view.outputBuffer.content = takenBytes view.sends
  interest : unraced → view.state ≠ .kDisconnected →
    (view.writing = true ↔ view.outputBuffer.content ≠ [])
  shutdowns : unraced → ∀ record ∈ view.shutdownWrites, record.1 ≠ .kDisconnected →
    record.2 = 0

namespace ByteStream

variable {unraced : Prop} {view : StreamView}

theorem setState (bytes : ByteStream unraced view) {state : StateE}
    (closed : unraced → view.state = .kDisconnected → state = .kDisconnected) :
    ByteStream unraced { view with state } where
  wellFormed := bytes.wellFormed
  stream := bytes.stream
  interest only isOpen := bytes.interest only fun wasClosed => isOpen (closed only wasClosed)
  shutdowns := bytes.shutdowns

theorem close (bytes : ByteStream unraced view) :
    ByteStream unraced { view with state := .kDisconnected, writing := false } where
  wellFormed := bytes.wellFormed
  stream := bytes.stream
  interest _ isOpen := absurd rfl isOpen
  shutdowns := bytes.shutdowns

/-- A message that neither the kernel nor the buffer got anything of. -/
theorem drop (bytes : ByteStream unraced view) (sender : Caller) (message : List UInt8)
    {fate : SendFate} (different : fate ≠ .taken) :
    ByteStream unraced { view with sends := view.sends ++ [⟨sender, message, fate⟩] } where
  wellFormed := bytes.wellFormed
  stream := by
    rw [takenBytes_append_other _ _ _ different]
    exact bytes.stream
  interest := bytes.interest
  shutdowns := bytes.shutdowns

/-- A message of which a first part went to the kernel and the rest to the
buffer, which is only possible when the buffer was empty or the first part is. -/
theorem take (bytes : ByteStream unraced view) (sender : Caller) {first rest : List UInt8}
    {outputBuffer : Buffer} {writing : Bool}
    (inOrder : view.outputBuffer.content = [] ∨ first = [])
    (wellFormed : outputBuffer.WellFormed)
    (content : outputBuffer.content = view.outputBuffer.content ++ rest)
    (interest : unraced → (writing = true ↔ outputBuffer.content ≠ [])) :
    ByteStream unraced { view with
      accepted := view.accepted ++ first
      outputBuffer
      writing
      sends := view.sends ++ [⟨sender, first ++ rest, .taken⟩] } where
  wellFormed := wellFormed
  stream := by
    rw [takenBytes_append_taken, ← bytes.stream, content]
    rcases inOrder with empty | empty
    · simp [empty]
    · simp [empty]
  interest only _ := interest only
  shutdowns := bytes.shutdowns

/-- The kernel takes bytes from the front of the buffer. -/
theorem drain (bytes : ByteStream unraced view) {count : Nat} {outputBuffer : Buffer}
    {writing : Bool} (wellFormed : outputBuffer.WellFormed)
    (content : outputBuffer.content = view.outputBuffer.content.drop count)
    (interest : writing = true ↔ outputBuffer.content ≠ []) :
    ByteStream unraced { view with
      accepted := view.accepted ++ view.outputBuffer.content.take count
      outputBuffer
      writing } where
  wellFormed := wellFormed
  stream := by
    rw [List.append_assoc, content, List.take_append_drop]
    exact bytes.stream
  interest _ _ := interest
  shutdowns := bytes.shutdowns

theorem shutdownWrite (bytes : ByteStream unraced view) (notWriting : view.writing = false) :
    ByteStream unraced { view with shutdownWrites :=
      view.shutdownWrites ++ [(view.state, view.outputBuffer.readableBytes)] } where
  wellFormed := bytes.wellFormed
  stream := bytes.stream
  interest := bytes.interest
  shutdowns only record member isOpen := by
    rcases List.mem_append.mp member with old | new
    · exact bytes.shutdowns only record old isOpen
    · rw [List.mem_singleton.mp new] at isOpen ⊢
      have empty : view.outputBuffer.content = [] := by
        by_contra filled
        have writing := (bytes.interest only isOpen).mpr filled
        rw [notWriting] at writing
        cases writing
      exact (Buffer.content_eq_nil_iff bytes.wellFormed).mp empty

end ByteStream

namespace ConnectionSystem

variable {unraced : Prop} {system next : ConnectionSystem}

def streamView (system : ConnectionSystem) : StreamView where
  state := system.connection.state
  writing := system.connection.channel.isWriting
  outputBuffer := system.connection.outputBuffer
  accepted := system.history.accepted
  sends := system.history.sends
  shutdownWrites := system.history.shutdownWrites

theorem withChannel_streamView
    {operation : Channel → EPollPoller → Checked (Channel × EPollPoller)}
    {writing : Bool}
    (updates : ∀ channel poller, operation system.connection.channel system.poller =
      .ok (channel, poller) → channel.isWriting = writing)
    (ran : system.withChannel operation = .ok next) :
    next.streamView = { system.streamView with writing } := by
  rcases withChannel_ok ran with ⟨channel, poller, operated, result⟩
  subst result
  simp [streamView, updates channel poller operated]

theorem enableReading_streamView (ran : system.withChannel Channel.enableReading = .ok next) :
    next.streamView = system.streamView := by
  refine withChannel_streamView ?_ ran
  intro channel poller enabled
  simp [Channel.isWriting, (Channel.update_updated enabled).events, PollEvents.union,
    PollEvents.kReadEvent, PollEvents.kNoneEvent]

theorem disableReading_streamView
    (ran : system.withChannel Channel.disableReading = .ok next) :
    next.streamView = system.streamView := by
  refine withChannel_streamView ?_ ran
  intro channel poller disabled
  simp [Channel.isWriting, (Channel.update_updated disabled).events, PollEvents.without,
    PollEvents.kReadEvent, PollEvents.kNoneEvent]

theorem enableWriting_streamView (ran : system.withChannel Channel.enableWriting = .ok next) :
    next.streamView = { system.streamView with writing := true } := by
  refine withChannel_streamView ?_ ran
  intro channel poller enabled
  simp [Channel.isWriting, (Channel.update_updated enabled).events, PollEvents.union,
    PollEvents.kWriteEvent]

theorem disableWriting_streamView
    (ran : system.withChannel Channel.disableWriting = .ok next) :
    next.streamView = { system.streamView with writing := false } := by
  refine withChannel_streamView ?_ ran
  intro channel poller disabled
  simp [Channel.isWriting, (Channel.update_updated disabled).events, PollEvents.without,
    PollEvents.kWriteEvent]

theorem disableAll_streamView (ran : system.withChannel Channel.disableAll = .ok next) :
    next.streamView = { system.streamView with writing := false } := by
  refine withChannel_streamView ?_ ran
  intro channel poller disabled
  simp [Channel.isWriting, (Channel.update_updated disabled).events,
    PollEvents.kNoneEvent]

@[simp] theorem pushIf_connection (due : Bool) (functor : ConnectionFunctor) :
    (system.pushIf due functor).connection = system.connection := by
  cases due <;> rfl

@[simp] theorem pushIf_history (due : Bool) (functor : ConnectionFunctor) :
    (system.pushIf due functor).history = system.history := by
  cases due <;> rfl

theorem bufferRemaining_streamView (wellFormed : system.connection.outputBuffer.WellFormed)
    {remaining : List UInt8} (ran : system.bufferRemaining remaining = .ok next) :
    ∃ outputBuffer : Buffer, outputBuffer.WellFormed ∧
      outputBuffer.content = system.connection.outputBuffer.content ++ remaining ∧
      next.streamView = { system.streamView with outputBuffer, writing := true } := by
  rcases Buffer.append_ok wellFormed remaining with ⟨outputBuffer, appended, kept, content⟩
  refine ⟨outputBuffer, kept, content, ?_⟩
  unfold bufferRemaining at ran
  simp only [pushIf_connection, appended, Checked.ok_bind] at ran
  split at ran
  · rename_i writing
    cases ran
    simpa [streamView] using writing
  · rw [enableWriting_streamView ran]
    simp [streamView]

/-- A direct write happens only when nothing is buffered. -/
theorem content_of_writesDirectly (bytes : ByteStream unraced system.streamView)
    (direct : writesDirectly system.connection = true) :
    system.connection.outputBuffer.content = [] := by
  simp only [writesDirectly, Bool.and_eq_true, decide_eq_true_eq] at direct
  exact (Buffer.content_eq_nil_iff bytes.wellFormed).mpr direct.2

theorem recordSend_streamView (sender : Caller) (message : List UInt8)
    (fate : SendFate) : (system.recordSend sender message fate).streamView =
      { system.streamView with
        sends := system.streamView.sends ++ [⟨sender, message, fate⟩] } := rfl

theorem sendInLoop_bytes (bytes : ByteStream unraced system.streamView) {sender : Caller}
    {data : List UInt8} {result : WriteResult}
    (ran : system.sendInLoop sender data result = .ok next) :
    ByteStream unraced next.streamView := by
  unfold sendInLoop at ran
  split at ran
  · cases ran
    exact bytes.drop sender data (by simp)
  · rename_i isOpen
    rw [Checked.check_bind_of (by simp)] at ran
    rcases Checked.bind_eq_ok_iff.mp ran with ⟨finished, finishedRan, recorded⟩
    cases recorded
    rw [recordSend_streamView]
    generalize nwroteEq :
      (if writesDirectly system.connection then result.count else 0) = nwrote at finishedRan
    have inOrder : system.connection.outputBuffer.content = [] ∨ data.take nwrote = [] := by
      split at nwroteEq
      · rename_i direct
        exact .inl (content_of_writesDirectly bytes direct)
      · simp [← nwroteEq]
    unfold finishSend at finishedRan
    split at finishedRan
    · rename_i remains
      rcases bufferRemaining_streamView
          (by rw [pushIf_connection]; exact bytes.wellFormed) finishedRan with
        ⟨outputBuffer, wellFormed, content, view⟩
      simp only [pushIf_connection] at content
      have taken := bytes.take sender inOrder wellFormed content
        (fun _ => show (true = true) ↔ _ by simp [content, remains.2])
      rw [List.take_append_drop] at taken
      rw [view, remains.1]
      simpa [streamView, accept] using taken
    · rename_i complete
      cases finishedRan
      cases fault : writesDirectly system.connection && result.isFault with
      | true =>
          rw [Bool.and_eq_true] at fault
          have nothing : nwrote = 0 := by
            rw [← nwroteEq, if_pos fault.1, WriteResult.count_of_isFault fault.2]
          have dropped := bytes.drop sender data (show SendFate.faulted ≠ .taken by simp)
          simpa [streamView, accept, nothing] using dropped
      | false =>
          have all : data.drop nwrote = [] := by
            by_contra remains
            exact complete ⟨fault, remains⟩
          have whole := List.take_append_drop nwrote data
          rw [all, List.append_nil] at whole
          rw [whole] at inOrder
          have taken := bytes.take sender inOrder bytes.wellFormed
            (List.append_nil _).symm fun only => bytes.interest only isOpen
          simpa [streamView, accept, whole] using taken

theorem shutdownInLoop_bytes (bytes : ByteStream unraced system.streamView) :
    ByteStream unraced system.shutdownInLoop.streamView := by
  unfold shutdownInLoop
  split
  · exact bytes
  · rename_i notWriting
    exact bytes.shutdownWrite (by simpa [streamView] using notWriting)

theorem handleWrite_bytes (bytes : ByteStream unraced system.streamView) {below : List Frame}
    {result : WriteResult}
    (bounded : result.count ≤ system.connection.outputBuffer.readableBytes)
    (ran : system.handleWrite below result = .ok next) : ByteStream unraced next.streamView := by
  unfold handleWrite at ran
  split at ran
  · rename_i writing
    rcases Buffer.retrieve_ok bytes.wellFormed bounded with
      ⟨outputBuffer, retrieved, wellFormed, content⟩
    have empty := Buffer.content_eq_nil_iff wellFormed
    simp only [streamView] at retrieved content
    rw [retrieved] at ran
    simp only [Checked.ok_bind] at ran
    split at ran
    · rename_i drained
      rcases Checked.bind_eq_ok_iff.mp ran with ⟨disabled, disabledRan, result⟩
      have interest : (false = true) ↔ outputBuffer.content ≠ [] := by
        simp [empty.mpr drained]
      have drainedBytes : ByteStream unraced disabled.streamView := by
        rw [disableWriting_streamView disabledRan]
        exact bytes.drain wellFormed content interest
      have notifiedBytes : ByteStream unraced (disabled.pushIf
          disabled.connection.writeCompleteCallback .writeCompleteCallback).streamView := by
        simpa [streamView] using drainedBytes
      split at result
      · cases result
        exact shutdownInLoop_bytes notifiedBytes
      · cases result
        exact notifiedBytes
    · rename_i remains
      cases ran
      have interest : system.connection.channel.isWriting = true ↔
          outputBuffer.content ≠ [] := by
        simp [writing.1, empty, remains]
      exact bytes.drain wellFormed content interest
  · cases ran
    exact bytes

end ConnectionSystem

/-! ## Program order -/

/-- The message the functor carries for the caller, if it is one of theirs. -/
def ConnectionFunctor.messageOf (caller : Caller) :
    ConnectionFunctor → Option (List UInt8)
  | .sendInLoop sender message => if sender = caller then some message else none
  | .shutdownInLoop | .forceCloseInLoop | .startReadInLoop | .stopReadInLoop
  | .connectDestroyed | .writeCompleteCallback | .highWaterMarkCallback _ => none

/-- A functor that carries no message. -/
def ConnectionFunctor.Silent (functor : ConnectionFunctor) : Prop :=
  ∀ caller, functor.messageOf caller = none

/-- What the order of messages depends on. -/
structure OrderView where
  outstanding : List ConnectionFunctor
  pushing : ThreadId → Option ConnectionFunctor
  setting : ThreadId → Option (Option ConnectionFunctor)
  sends : List SendRecord
  issued : List (Caller × List UInt8)

namespace OrderView

/-- The caller's messages that `sendInLoop` has dealt with, in its order. -/
def dealtWith (view : OrderView) (caller : Caller) : List (List UInt8) :=
  (view.sends.filter fun record => record.sender = caller).map fun record =>
    record.message

/-- The caller's messages in the functor queue. -/
def queued (view : OrderView) (caller : Caller) : List (List UInt8) :=
  view.outstanding.filterMap fun functor => functor.messageOf caller

/-- The caller's message that is not in the queue yet. -/
def entering (view : OrderView) (caller : Caller) : List (List UInt8) :=
  match caller with
  | none => []
  | some thread => (view.pushing thread).toList.filterMap fun functor =>
      functor.messageOf caller

/-- The caller's messages in the order of their `send` calls. -/
def issuedBy (view : OrderView) (caller : Caller) : List (List UInt8) :=
  (view.issued.filter fun entry => entry.1 = caller).map fun entry => entry.2

end OrderView

structure ProgramOrder (view : OrderView) : Prop where
  order : ∀ caller, view.dealtWith caller ++ view.queued caller ++ view.entering caller =
    view.issuedBy caller
  notLoop : ∀ functor ∈ view.outstanding, functor.messageOf none = none
  ownPush : ∀ thread functor, view.pushing thread = some functor →
    ∀ caller, caller ≠ some thread → functor.messageOf caller = none
  ownSet : ∀ thread functor, view.setting thread = some functor →
    view.pushing thread = none ∧ ∀ queued ∈ functor, queued.Silent

namespace ProgramOrder

variable {view : OrderView}

private theorem ownPush_update (ordered : ProgramOrder view) {thread : ThreadId}
    {value : Option ConnectionFunctor}
    (own : ∀ functor, value = some functor → ∀ caller, caller ≠ some thread →
      functor.messageOf caller = none) (other : ThreadId) (functor : ConnectionFunctor)
    (pushing : Function.update view.pushing thread value other = some functor) :
    ∀ caller, caller ≠ some other → functor.messageOf caller = none := by
  by_cases same : other = thread
  · subst same
    rw [Function.update_self] at pushing
    exact own functor pushing
  · rw [Function.update_of_ne same] at pushing
    exact ordered.ownPush other functor pushing

/-- A thread that is not setting the state pushes or has pushed. -/
private theorem ownSet_update (ordered : ProgramOrder view) {thread : ThreadId}
    (value : Option ConnectionFunctor) {other : ThreadId} {functor : Option ConnectionFunctor}
    (setting : Function.update view.setting thread none other = some functor) :
    Function.update view.pushing thread value other = none ∧
      ∀ queued ∈ functor, queued.Silent := by
  by_cases same : other = thread
  · rw [same, Function.update_self] at setting
    cases setting
  · rw [Function.update_of_ne same] at setting ⊢
    exact ordered.ownSet other functor setting

theorem append_silent (ordered : ProgramOrder view) {notes : List ConnectionFunctor}
    (silent : ∀ note ∈ notes, note.Silent) :
    ProgramOrder { view with outstanding := view.outstanding ++ notes } where
  order caller := by
    have nothing : notes.filterMap (fun functor => functor.messageOf caller) = [] := by
      rw [List.filterMap_eq_nil_iff]
      exact fun note member => silent note member caller
    have order := ordered.order caller
    simp only [OrderView.queued, List.filterMap_append, nothing, List.append_nil]
    exact order
  notLoop functor member := by
    rcases List.mem_append.mp member with old | new
    · exact ordered.notLoop functor old
    · exact silent functor new none
  ownPush := ordered.ownPush
  ownSet := ordered.ownSet

theorem take_silent (ordered : ProgramOrder view) {functor : ConnectionFunctor}
    {rest : List ConnectionFunctor} (first : view.outstanding = functor :: rest)
    (silent : functor.Silent) : ProgramOrder { view with outstanding := rest } where
  order caller := by
    have order := ordered.order caller
    simp only [OrderView.queued, first, List.filterMap_cons, silent caller] at order
    exact order
  notLoop other member := ordered.notLoop other (by simp [first, member])
  ownPush := ordered.ownPush
  ownSet := ordered.ownSet

/-- `sendInLoop` of a queued message. -/
theorem take_message (ordered : ProgramOrder view) {sender : Caller}
    {message : List UInt8} {rest : List ConnectionFunctor}
    (first : view.outstanding = .sendInLoop sender message :: rest) (fate : SendFate) :
    ProgramOrder { view with
      outstanding := rest
      sends := view.sends ++ [⟨sender, message, fate⟩] } where
  order caller := by
    have order := ordered.order caller
    simp only [OrderView.queued, OrderView.dealtWith, OrderView.entering,
      OrderView.issuedBy, first, List.filterMap_cons, ConnectionFunctor.messageOf,
      List.filter_append, List.map_append] at order ⊢
    rw [← order]
    by_cases same : sender = caller
    · simp [same]
    · simp [same]
  notLoop other member := ordered.notLoop other (by simp [first, member])
  ownPush := ordered.ownPush
  ownSet := ordered.ownSet

/-- A message that the loop thread sends is dealt with at once. -/
theorem send_direct (ordered : ProgramOrder view) (message : List UInt8)
    (fate : SendFate) :
    ProgramOrder { view with
      issued := view.issued ++ [(none, message)]
      sends := view.sends ++ [⟨none, message, fate⟩] } where
  order caller := by
    have order := ordered.order caller
    simp only [OrderView.queued, OrderView.dealtWith, OrderView.entering,
      OrderView.issuedBy, List.filter_append, List.map_append] at order ⊢
    rw [← order]
    cases caller with
    | none =>
        have nothing : view.outstanding.filterMap
            (fun functor => functor.messageOf none) = [] := by
          rw [List.filterMap_eq_nil_iff]
          exact ordered.notLoop
        simp [nothing]
    | some thread => simp
  notLoop := ordered.notLoop
  ownPush := ordered.ownPush
  ownSet := ordered.ownSet

/-- Another thread has read the state, and will queue no message when it has set it. -/
theorem begin_setting (ordered : ProgramOrder view) {thread : ThreadId}
    {functor : Option ConnectionFunctor} (free : view.pushing thread = none)
    (silent : ∀ queued ∈ functor, queued.Silent) :
    ProgramOrder { view with
      setting := Function.update view.setting thread (some functor) } where
  order := ordered.order
  notLoop := ordered.notLoop
  ownPush := ordered.ownPush
  ownSet other found setting := by
    dsimp only at setting ⊢
    by_cases same : other = thread
    · rw [same, Function.update_self, Option.some.injEq] at setting
      exact ⟨same ▸ free, setting ▸ silent⟩
    · rw [Function.update_of_ne same] at setting
      exact ordered.ownSet other found setting

/-- Another thread starts to queue a functor without a message, or nothing. -/
theorem begin_silent (ordered : ProgramOrder view) {thread : ThreadId}
    {functor : Option ConnectionFunctor} (free : view.pushing thread = none)
    (silent : ∀ queued ∈ functor, queued.Silent) :
    ProgramOrder { view with
      pushing := Function.update view.pushing thread functor
      setting := Function.update view.setting thread none } where
  order caller := by
    refine Eq.trans ?_ (ordered.order caller)
    cases caller with
    | none => rfl
    | some other =>
        by_cases same : other = thread
        · subst same
          have nothing : functor.toList.filterMap
              (fun queued => queued.messageOf (some other)) = [] := by
            rw [List.filterMap_eq_nil_iff]
            exact fun queued member => silent queued (Option.mem_toList.mp member) (some other)
          simp [OrderView.entering, free, nothing, OrderView.dealtWith, OrderView.queued]
        · simp [OrderView.entering, Function.update_of_ne same, OrderView.dealtWith,
            OrderView.queued]
  notLoop := ordered.notLoop
  ownPush := ordered.ownPush_update fun found equal caller _ => silent found equal caller
  ownSet _ _ := ordered.ownSet_update functor

/-- Another thread starts to queue a message. -/
theorem begin_message (ordered : ProgramOrder view) {thread : ThreadId}
    (free : view.pushing thread = none) (unset : view.setting thread = none)
    (message : List UInt8) :
    ProgramOrder { view with
      issued := view.issued ++ [(some thread, message)]
      pushing := Function.update view.pushing thread
        (some (.sendInLoop (some thread) message)) } where
  order caller := by
    have order := ordered.order caller
    simp only [OrderView.queued, OrderView.dealtWith, OrderView.issuedBy,
      List.filter_append, List.map_append] at order ⊢
    rw [← order]
    cases caller with
    | none => simp [OrderView.entering]
    | some other =>
        by_cases same : other = thread
        · subst same
          simp [OrderView.entering, free, ConnectionFunctor.messageOf]
        · have different : thread ≠ other := fun equal => same equal.symm
          simp [OrderView.entering, Function.update_of_ne same, different]
  notLoop := ordered.notLoop
  ownPush := ordered.ownPush_update fun found equal caller different => by
    rw [← Option.some.inj equal]
    simp [ConnectionFunctor.messageOf, different.symm]
  ownSet _ _ setting := ordered.ownSet_update _ (by rwa [← unset, Function.update_eq_self])

theorem push (ordered : ProgramOrder view) {thread : ThreadId}
    {functor : ConnectionFunctor} (pushing : view.pushing thread = some functor) :
    ProgramOrder { view with
      outstanding := view.outstanding ++ [functor]
      pushing := Function.update view.pushing thread none } where
  order caller := by
    refine Eq.trans ?_ (ordered.order caller)
    simp only [OrderView.queued, OrderView.dealtWith, List.filterMap_append]
    by_cases own : caller = some thread
    · subst own
      simp [OrderView.entering, pushing]
    · have foreign := ordered.ownPush thread functor pushing caller own
      cases caller with
      | none => simp [OrderView.entering, foreign]
      | some other =>
          have different : other ≠ thread := fun equal => own (congrArg some equal)
          simp [OrderView.entering, foreign, Function.update_of_ne different]
  notLoop other member := by
    rcases List.mem_append.mp member with old | new
    · exact ordered.notLoop other old
    · rw [List.mem_singleton.mp new]
      exact ordered.ownPush thread functor pushing none (by simp)
  ownPush := ordered.ownPush_update fun found equal => by cases equal
  ownSet other found setting := by
    have own := ordered.ownSet other found setting
    dsimp only
    by_cases same : other = thread
    · rw [same, pushing] at own
      cases own.1
    · rwa [Function.update_of_ne same]

end ProgramOrder

end Ccnet.Net
