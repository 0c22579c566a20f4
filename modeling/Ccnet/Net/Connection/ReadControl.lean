import Ccnet.Net.Connection.Stream

/-! # Stopping and starting to read

The connections of one event loop, as far as the delivery of messages goes. The list of
active channels and their `revents_` are fixed when `poll` returns; the callbacks that are
then called may change the interest of any connection. -/

namespace Ccnet.Net

abbrev ConnectionId := Nat

structure ReadLoop where
  connections : ConnectionId → TcpConnection
  /-- The rest of `activeChannels_`. -/
  activeChannels : List ConnectionId
  /-- The channel whose `handleEvent` runs, with the callbacks it has still to call. -/
  current : Option (ConnectionId × List Channel.Callback)
  /-- A message or connection callback runs. -/
  userCode : Bool
  /-- The last of `stopReadInLoop` and `startReadInLoop` to run was the former. -/
  stopped : ConnectionId → Bool
  /-- The calls of `messageCallback_`, with whether the connection was stopped. -/
  delivered : List (ConnectionId × Bool)

namespace ReadLoop

def connection (loop : ReadLoop) (id : ConnectionId) : TcpConnection := loop.connections id

def events (loop : ReadLoop) (id : ConnectionId) : PollEvents :=
  (loop.connection id).channel.events

def revents (loop : ReadLoop) (id : ConnectionId) : PollEvents :=
  (loop.connection id).channel.revents

def set (loop : ReadLoop) (id : ConnectionId) (connection : TcpConnection) : ReadLoop :=
  { loop with connections := Function.update loop.connections id connection }

/-- `enableReading`, `disableReading`, …: the channel's interest is changed, and the poller
told. -/
def setEvents (connection : TcpConnection) (events : PollEvents) : TcpConnection :=
  { connection with channel := { connection.channel with events } }

/-- The body of `startReadInLoop`. -/
def startRead (connection : TcpConnection) : TcpConnection :=
  if connection.reading = false ∨ connection.channel.isReading = false then
    { setEvents connection (connection.channel.events.union .kReadEvent) with reading := true }
  else
    connection

/-- The body of `stopReadInLoop`. -/
def stopRead (connection : TcpConnection) : TcpConnection :=
  if connection.reading = true ∨ connection.channel.isReading = true then
    { setEvents connection (connection.channel.events.without .kReadEvent) with reading := false }
  else
    connection

/-- Notes which of the two functions has run. -/
def note (loop : ReadLoop) (id : ConnectionId) (stopped : Bool) : ReadLoop :=
  { loop with stopped := Function.update loop.stopped id stopped }

def startReadInLoop (loop : ReadLoop) (id : ConnectionId) : ReadLoop :=
  (loop.set id (startRead (loop.connection id))).note id false

def stopReadInLoop (loop : ReadLoop) (id : ConnectionId) : ReadLoop :=
  (loop.set id (stopRead (loop.connection id))).note id true

/-- What `sendInLoop` and `handleWrite` do to the interest. -/
def setWriting (loop : ReadLoop) (id : ConnectionId) (enabled : Bool) : ReadLoop :=
  let events := loop.events id
  loop.set id (setEvents (loop.connection id)
    (if enabled then events.union .kWriteEvent else events.without .kWriteEvent))

def handleClose (loop : ReadLoop) (id : ConnectionId) : Checked ReadLoop := do
  let connection := loop.connection id
  check (connection.state = .kConnected ∨ connection.state = .kDisconnecting)
  return { loop.set id { setEvents connection .kNoneEvent with state := .kDisconnected } with
    userCode := true }

/-- `handleRead` does not look at `reading_` or the interest. -/
def handleRead (loop : ReadLoop) (id : ConnectionId) (result : Except Errno (List UInt8)) :
    Checked ReadLoop :=
  match result with
  | .ok [] => loop.handleClose id
  | .ok data => do
      let connection := loop.connection id
      let inputBuffer ← connection.inputBuffer.readFd data
      return { loop.set id { connection with inputBuffer } with
        userCode := true
        delivered := loop.delivered ++ [(id, loop.stopped id)] }
  | .error _ => return loop

/-- `poll` and `fillActiveChannels`. -/
def poll (loop : ReadLoop) (reported : List (ConnectionId × PollEvents)) : ReadLoop :=
  { loop with
    connections := fun id =>
      match reported.find? (·.1 = id) with
      | some event => { loop.connection id with
          channel := { (loop.connection id).channel with revents := event.2 } }
      | none => loop.connection id
    activeChannels := reported.map Prod.fst }

/-- The loop takes the next active channel. -/
def handleEvent (loop : ReadLoop) : ReadLoop :=
  match loop.activeChannels with
  | [] => loop
  | id :: rest => { loop with
      activeChannels := rest
      current := some (id, Channel.callbacks (loop.revents id)) }

/-- The next callback of `handleEventWithGuard`. -/
def nextCallback (loop : ReadLoop) (result : Except Errno (List UInt8)) : Checked ReadLoop :=
  match loop.current with
  | some (id, callback :: rest) =>
      let called : ReadLoop := { loop with current := some (id, rest) }
      match callback with
      | .close => called.handleClose id
      | .read => called.handleRead id result
      | .error | .write => return called
  | some (_, []) | none => return loop

inductive Action
  | poll (reported : List (ConnectionId × PollEvents))
  | handleEvent
  | nextCallback (result : Except Errno (List UInt8))
  | returnCallback
  | finishEvent
  | startRead (id : ConnectionId)
  | stopRead (id : ConnectionId)
  | setWriting (id : ConnectionId) (enabled : Bool)
  deriving Repr

/-- No event of this iteration is left; pending functors may run. -/
def Idle (loop : ReadLoop) : Prop :=
  loop.activeChannels = [] ∧ loop.current = none

instance (loop : ReadLoop) : Decidable loop.Idle := inferInstanceAs (Decidable (_ ∧ _))

/-- Each channel is reported once, with what its interest permits. -/
def Reportable (loop : ReadLoop) (reported : List (ConnectionId × PollEvents)) : Prop :=
  (reported.map Prod.fst).Nodup ∧
    ∀ event ∈ reported, event.2.ReportableFor (loop.events event.1)

instance (loop : ReadLoop) (reported : List (ConnectionId × PollEvents)) :
    Decidable (loop.Reportable reported) := inferInstanceAs (Decidable (_ ∧ _))

/-- User code that may call is in the callbacks and in pending functors. -/
def Allowed (loop : ReadLoop) : Action → Prop
  | .poll reported => loop.Idle ∧ loop.Reportable reported
  | .handleEvent => loop.current = none ∧ loop.activeChannels ≠ []
  | .nextCallback result => loop.userCode = false ∧
      (∃ entry ∈ loop.current, entry.2 ≠ []) ∧
      ∀ data ∈ result.toOption, ∀ entry ∈ loop.current,
        data.length ≤ (loop.connection entry.1).inputBuffer.readLimit
  | .returnCallback => loop.userCode = true
  | .finishEvent => loop.userCode = false ∧ ∃ entry ∈ loop.current, entry.2 = []
  | .startRead _ | .stopRead _ => loop.userCode = true ∨ loop.Idle
  | .setWriting _ _ => True

instance (loop : ReadLoop) : (action : Action) → Decidable (loop.Allowed action)
  | .poll _ | .handleEvent | .nextCallback _ | .finishEvent =>
      inferInstanceAs (Decidable (_ ∧ _))
  | .returnCallback => inferInstanceAs (Decidable (_ = _))
  | .startRead _ | .stopRead _ => inferInstanceAs (Decidable (_ ∨ _))
  | .setWriting _ _ => inferInstanceAs (Decidable True)

def step (loop : ReadLoop) : Action → Checked ReadLoop
  | .poll reported => return loop.poll reported
  | .handleEvent => return loop.handleEvent
  | .nextCallback result => loop.nextCallback result
  | .returnCallback => return { loop with userCode := false }
  | .finishEvent => return { loop with current := none }
  | .startRead id => return loop.startReadInLoop id
  | .stopRead id => return loop.stopReadInLoop id
  | .setWriting id enabled => return loop.setWriting id enabled

/-- Connections as `connectEstablished` leaves them. -/
structure Established (connection : TcpConnection) : Prop where
  state : connection.state = .kConnected
  reading : connection.reading = true
  events : connection.channel.events = .kReadEvent
  inputBuffer : connection.inputBuffer.WellFormed

structure Initial (loop : ReadLoop) : Prop where
  established : ∀ id, Established (loop.connection id)
  idle : loop.Idle
  userCode : loop.userCode = false
  stopped : ∀ id, loop.stopped id = false
  delivered : loop.delivered = []

def machine : Machine ReadLoop Action where
  initial := Initial
  allowed := Allowed
  step := step

instance (loop : ReadLoop) (action : Action) : Decidable (machine.allowed loop action) :=
  inferInstanceAs (Decidable (loop.Allowed action))

variable {loop next : ReadLoop}

@[simp] theorem set_same (id : ConnectionId) (connection : TcpConnection) :
    (loop.set id connection).connection id = connection := Function.update_self ..

theorem set_other {id other : ConnectionId} (different : other ≠ id)
    (connection : TcpConnection) :
    (loop.set id connection).connection other = loop.connection other :=
  Function.update_of_ne different ..

/-! ## One of the connections

The loop's functions do to a connection what those of `ConnectionSystem` do to one with its
poller and its calls. -/

/-- What reading depends on. -/
structure ReadView where
  state : StateE
  reading : Bool
  events : PollEvents
  revents : PollEvents
  inputBuffer : Buffer

def readView (connection : TcpConnection) : ReadView where
  state := connection.state
  reading := connection.reading
  events := connection.channel.events
  revents := connection.channel.revents
  inputBuffer := connection.inputBuffer

/-- One of the connections is that of the system. -/
def Follows (loop : ReadLoop) (id : ConnectionId) (system : ConnectionSystem) : Prop :=
  readView (loop.connection id) = readView system.connection

variable {id : ConnectionId} {system after : ConnectionSystem} {below : List Frame}

theorem withChannel_readView {events : PollEvents}
    {operation : Channel → EPollPoller → Checked (Channel × EPollPoller)}
    (ran : system.withChannel operation = .ok after)
    (updates : operation system.connection.channel system.poller =
      { system.connection.channel with events }.update system.poller) :
    readView after.connection = { readView system.connection with events } := by
  rcases ConnectionSystem.withChannel_ok ran with ⟨channel, poller, operated, rfl⟩
  rw [updates] at operated
  have updated := Channel.update_updated operated
  simp [readView, updated.events, updated.revents]

theorem Follows.interest (follows : loop.Follows id system) :
    (loop.connection id).reading = system.connection.reading ∧
      (loop.connection id).channel.isReading = system.connection.channel.isReading ∧
      (loop.connection id).channel.events = system.connection.channel.events := by
  have events : (loop.connection id).channel.events = system.connection.channel.events :=
    congrArg ReadView.events follows
  refine ⟨congrArg ReadView.reading follows, ?_, events⟩
  rw [Channel.isReading, Channel.isReading, events]

theorem Follows.setReading {events : PollEvents} {reading : Bool}
    {operation : Channel → EPollPoller → Checked (Channel × EPollPoller)}
    (follows : loop.Follows id system)
    (updates : operation system.connection.channel system.poller =
      { system.connection.channel with events }.update system.poller)
    (ran : (do
      let changed ← system.withChannel operation
      return { changed with connection := { changed.connection with reading } }) = .ok after) :
    readView { setEvents (loop.connection id) events with reading } =
      readView after.connection := by
  rcases Checked.bind_eq_ok_iff.mp ran with ⟨changed, withChannel, returned⟩
  cases returned
  have view := withChannel_readView withChannel updates
  rw [← follows] at view
  exact (congrArg (fun view : ReadView => { view with reading }) view).symm

theorem Follows.startReadInLoop (follows : loop.Follows id system)
    (ran : system.startReadInLoop = .ok after) : (loop.startReadInLoop id).Follows id after := by
  rcases follows.interest with ⟨reading, isReading, events⟩
  unfold ConnectionSystem.startReadInLoop at ran
  change readView ((loop.set id _).connection id) = _
  rw [set_same, startRead, reading, isReading, events]
  split at ran
  · rename_i due
    rw [if_pos due]
    exact follows.setReading rfl ran
  · rename_i notDue
    cases ran
    rw [if_neg notDue]
    exact follows

theorem Follows.stopReadInLoop (follows : loop.Follows id system)
    (ran : system.stopReadInLoop = .ok after) : (loop.stopReadInLoop id).Follows id after := by
  rcases follows.interest with ⟨reading, isReading, events⟩
  unfold ConnectionSystem.stopReadInLoop at ran
  change readView ((loop.set id _).connection id) = _
  rw [set_same, stopRead, reading, isReading, events]
  split at ran
  · rename_i due
    rw [if_pos due]
    exact follows.setReading rfl ran
  · rename_i notDue
    cases ran
    rw [if_neg notDue]
    exact follows

theorem Follows.handleClose (follows : loop.Follows id system)
    (ran : system.handleClose below = .ok after) :
    ∃ next, loop.handleClose id = .ok next ∧ next.Follows id after := by
  rcases Checked.check_bind_eq_ok_iff.mp ran with ⟨isOpen, disconnected⟩
  rcases Checked.bind_eq_ok_iff.mp disconnected with ⟨disabled, withChannel, returned⟩
  cases returned
  have state : (loop.connection id).state = system.connection.state :=
    congrArg ReadView.state follows
  have stillOpen : (loop.connection id).state = .kConnected ∨
      (loop.connection id).state = .kDisconnecting := by
    rw [state]
    exact isOpen
  have view : readView disabled.connection = { readView system.connection with
      state := .kDisconnected
      events := .kNoneEvent } := withChannel_readView withChannel rfl
  rw [← follows] at view
  refine ⟨_, by rw [ReadLoop.handleClose, Checked.check_bind_of stillOpen]; rfl, ?_⟩
  change readView ((loop.set id _).connection id) = _
  rw [set_same]
  exact view.symm

/-- A message is read, and `messageCallback_` is called next. -/
theorem Follows.handleRead {data : List UInt8} (follows : loop.Follows id system)
    (some : data ≠ []) (ran : system.handleRead below (.ok data) = .ok after) :
    ∃ next, loop.handleRead id (.ok data) = .ok next ∧ next.Follows id after ∧
      after.stack = .messageCallback :: below ∧
      next.delivered = loop.delivered ++ [(id, loop.stopped id)] := by
  cases data with
  | nil => exact absurd rfl some
  | cons byte rest =>
      rcases Checked.bind_eq_ok_iff.mp ran with ⟨inputBuffer, read, returned⟩
      cases returned
      have same : (loop.connection id).inputBuffer = system.connection.inputBuffer :=
        congrArg ReadView.inputBuffer follows
      rw [← same] at read
      refine ⟨_, by simp only [ReadLoop.handleRead, read]; rfl, ?_, rfl, rfl⟩
      change readView ((loop.set id _).connection id) = _
      rw [set_same]
      exact congrArg (fun view : ReadView => { view with inputBuffer }) follows

/-- At the end of the stream `handleClose` is called next. -/
theorem Follows.handleRead_end {closed : ConnectionSystem} (follows : loop.Follows id system)
    (ran : system.handleRead below (.ok []) = .ok after)
    (closes : after.handleClose below = .ok closed) :
    after.stack = .handleClose :: below ∧
      ∃ next, loop.handleRead id (.ok []) = .ok next ∧ next.Follows id closed := by
  have entered : loop.Follows id after := by
    cases ran
    exact follows
  refine ⟨?_, entered.handleClose closes⟩
  cases ran
  rfl

/-! ## What is still to be read -/

def isReading (loop : ReadLoop) (id : ConnectionId) : Bool :=
  (loop.connection id).channel.isReading

/-- In this iteration `handleRead` of the connection is still to be called. -/
def ReadPending (loop : ReadLoop) (id : ConnectionId) : Prop :=
  (id ∈ loop.activeChannels ∧ .read ∈ Channel.callbacks (loop.revents id)) ∨
    ∃ entry ∈ loop.current, entry.1 = id ∧ .read ∈ entry.2

instance (loop : ReadLoop) (id : ConnectionId) : Decidable (loop.ReadPending id) :=
  inferInstanceAs (Decidable (_ ∨ _))

/-- A connection is stopped only when no read of it is left in the iteration. -/
def StopsWhenHandled (loop : ReadLoop) : Action → Prop
  | .stopRead id => ¬loop.ReadPending id
  | .poll _ | .handleEvent | .nextCallback _ | .returnCallback | .finishEvent
  | .startRead _ | .setWriting _ _ => True

instance (loop : ReadLoop) : (action : Action) → Decidable (loop.StopsWhenHandled action)
  | .stopRead id => inferInstanceAs (Decidable (¬loop.ReadPending id))
  | .poll _ | .handleEvent | .nextCallback _ | .returnCallback | .finishEvent
  | .startRead _ | .setWriting _ _ => inferInstanceAs (Decidable True)

/-- Nothing reads a stopped connection, and nothing will in this iteration. -/
structure Quiet (loop : ReadLoop) : Prop where
  noRdhup : ∀ id, (loop.events id).pollRdhup = false
  stopped : ∀ id, loop.stopped id = true →
    loop.isReading id = false ∧ ¬loop.ReadPending id
  delivered : ∀ entry ∈ loop.delivered, entry.2 = false

theorem Initial.quiet (initial : loop.Initial) : loop.Quiet where
  noRdhup id := by
    rw [events, (initial.established id).events]
    rfl
  stopped id isStopped := by
    rw [initial.stopped id] at isStopped
    cases isStopped
  delivered entry member := by
    rw [initial.delivered] at member
    cases member

/-- Between the two states, only one connection was changed, and not its `revents_`. -/
structure ChangedAt (id : ConnectionId) (loop next : ReadLoop) : Prop where
  activeChannels : next.activeChannels = loop.activeChannels
  current : next.current = loop.current
  others : ∀ other, other ≠ id →
    next.connection other = loop.connection other ∧ next.stopped other = loop.stopped other
  revents : next.revents id = loop.revents id

theorem ChangedAt.readPending {id other : ConnectionId} (changed : ChangedAt id loop next) :
    next.ReadPending other ↔ loop.ReadPending other := by
  have revents : next.revents other = loop.revents other := by
    by_cases same : other = id
    · rw [same]
      exact changed.revents
    · rw [ReadLoop.revents, (changed.others other same).1]
      rfl
  rw [ReadPending, ReadPending, changed.activeChannels, changed.current, revents]

/-! ## One step -/

theorem Quiet.changedAt {id : ConnectionId} (quiet : loop.Quiet)
    (changed : ChangedAt id loop next) (noRdhup : (next.events id).pollRdhup = false)
    (here : next.stopped id = true → next.isReading id = false ∧ ¬loop.ReadPending id)
    (delivered : ∀ entry ∈ next.delivered, entry.2 = false) : next.Quiet where
  noRdhup other := by
    by_cases same : other = id
    · rw [same]
      exact noRdhup
    · rw [events, (changed.others other same).1]
      exact quiet.noRdhup other
  stopped other isStopped := by
    rw [changed.readPending]
    by_cases same : other = id
    · rw [same] at isStopped ⊢
      exact here isStopped
    · rcases changed.others other same with ⟨connection, stopped⟩
      rw [stopped] at isStopped
      rw [isReading, connection]
      exact quiet.stopped other isStopped
  delivered := delivered

theorem changedAt_set {id : ConnectionId} {connection : TcpConnection}
    (same : connection.channel.revents = loop.revents id) :
    ChangedAt id loop (loop.set id connection) where
  activeChannels := rfl
  current := rfl
  others other different := ⟨set_other different _, rfl⟩
  revents := by
    rw [revents, set_same, same]

theorem ChangedAt.note {id : ConnectionId} (changed : ChangedAt id loop next) (stopped : Bool) :
    ChangedAt id loop (next.note id stopped) where
  activeChannels := changed.activeChannels
  current := changed.current
  others other different :=
    ⟨(changed.others other different).1,
      (Function.update_of_ne different ..).trans (changed.others other different).2⟩
  revents := changed.revents

theorem startRead_channel (connection : TcpConnection) :
    (startRead connection).channel.revents = connection.channel.revents ∧
      (startRead connection).channel.events.pollRdhup =
        connection.channel.events.pollRdhup := by
  unfold startRead
  split
  · exact ⟨rfl, Bool.or_false _⟩
  · exact ⟨rfl, rfl⟩

/-- After `stopReadInLoop` the channel is not interested in reading. -/
theorem stopRead_channel (connection : TcpConnection) :
    (stopRead connection).channel.revents = connection.channel.revents ∧
      (stopRead connection).channel.events.pollRdhup =
        connection.channel.events.pollRdhup ∧
      (stopRead connection).channel.isReading = false := by
  unfold stopRead
  split
  · refine ⟨rfl, Bool.and_true _, ?_⟩
    simp [setEvents, Channel.isReading, PollEvents.without, PollEvents.kReadEvent]
  · rename_i neither
    exact ⟨rfl, rfl, by simpa using fun reading => neither (.inr reading)⟩

theorem Quiet.startReadInLoop (quiet : loop.Quiet) (id : ConnectionId) :
    (loop.startReadInLoop id).Quiet := by
  rcases startRead_channel (loop.connection id) with ⟨revents, rdhup⟩
  refine quiet.changedAt ((changedAt_set revents).note false) ?_ ?_ quiet.delivered
  · change ((loop.set id _).connection id).channel.events.pollRdhup = false
    rw [set_same, rdhup]
    exact quiet.noRdhup id
  · intro isStopped
    have running : Function.update loop.stopped id false id = false := Function.update_self ..
    exact absurd (running.symm.trans isStopped) Bool.false_ne_true

theorem Quiet.stopReadInLoop (quiet : loop.Quiet) {id : ConnectionId}
    (handled : ¬loop.ReadPending id) : (loop.stopReadInLoop id).Quiet := by
  rcases stopRead_channel (loop.connection id) with ⟨revents, rdhup, notReading⟩
  refine quiet.changedAt ((changedAt_set revents).note true) ?_ ?_ quiet.delivered
  · change ((loop.set id _).connection id).channel.events.pollRdhup = false
    rw [set_same, rdhup]
    exact quiet.noRdhup id
  · intro _
    change ((loop.set id _).connection id).channel.isReading = false ∧ _
    rw [set_same]
    exact ⟨notReading, handled⟩

theorem Quiet.set {id : ConnectionId} {connection : TcpConnection} (quiet : loop.Quiet)
    (revents : connection.channel.revents = loop.revents id)
    (noRdhup : connection.channel.events.pollRdhup = false)
    (reading : loop.isReading id = false → connection.channel.isReading = false) :
    (loop.set id connection).Quiet := by
  refine quiet.changedAt (changedAt_set revents) ?_ ?_ quiet.delivered
  · rwa [events, set_same]
  · intro isStopped
    rcases quiet.stopped id isStopped with ⟨notReading, handled⟩
    rw [isReading, set_same]
    exact ⟨reading notReading, handled⟩

theorem Quiet.setWriting (quiet : loop.Quiet) (id : ConnectionId) (enabled : Bool) :
    (loop.setWriting id enabled).Quiet := by
  have noRdhup := quiet.noRdhup id
  cases enabled with
  | false =>
      refine quiet.set rfl ((Bool.and_true _).trans noRdhup) ?_
      intro notReading
      simpa [setEvents, events, isReading, Channel.isReading, PollEvents.without,
        PollEvents.kWriteEvent, PollEvents.kNoneEvent] using notReading
  | true =>
      refine quiet.set rfl ((Bool.or_false _).trans noRdhup) ?_
      intro notReading
      simpa [setEvents, events, isReading, Channel.isReading, PollEvents.union,
        PollEvents.kWriteEvent, PollEvents.kNoneEvent] using notReading

theorem Quiet.handleClose {id : ConnectionId} (quiet : loop.Quiet)
    (ran : loop.handleClose id = .ok next) : next.Quiet := by
  rcases Checked.check_bind_eq_ok_iff.mp ran with ⟨-, returned⟩
  cases returned
  have closed : (loop.set id { setEvents (loop.connection id) .kNoneEvent with
      state := .kDisconnected }).Quiet := quiet.set rfl rfl fun _ => rfl
  exact ⟨closed.noRdhup, closed.stopped, closed.delivered⟩

/-- A message is delivered to a connection that is not stopped. -/
theorem Quiet.handleRead {id : ConnectionId} {result : Except Errno (List UInt8)}
    (quiet : loop.Quiet) (running : loop.stopped id = false)
    (ran : loop.handleRead id result = .ok next) : next.Quiet := by
  unfold ReadLoop.handleRead at ran
  split at ran
  · exact quiet.handleClose ran
  · rcases Checked.bind_eq_ok_iff.mp ran with ⟨inputBuffer, -, returned⟩
    cases returned
    have filled : (loop.set id { loop.connection id with inputBuffer }).Quiet :=
      quiet.set rfl (quiet.noRdhup id) fun notReading => notReading
    refine ⟨filled.noRdhup, filled.stopped, ?_⟩
    intro entry member
    rcases List.mem_append.mp member with old | new
    · exact quiet.delivered entry old
    · rw [List.mem_singleton.mp new]
      exact running
  · cases ran
    exact quiet

/-- Fewer callbacks are left. -/
theorem Quiet.advance {active : List ConnectionId}
    {current : Option (ConnectionId × List Channel.Callback)} (quiet : loop.Quiet)
    (fewer : ∀ id, { loop with activeChannels := active, current := current }.ReadPending id →
      loop.ReadPending id) :
    { loop with activeChannels := active, current := current }.Quiet where
  noRdhup := quiet.noRdhup
  stopped id isStopped := by
    rcases quiet.stopped id isStopped with ⟨notReading, handled⟩
    exact ⟨notReading, fun pending => handled (fewer id pending)⟩
  delivered := quiet.delivered

theorem Quiet.handleEvent (quiet : loop.Quiet) : loop.handleEvent.Quiet := by
  unfold ReadLoop.handleEvent
  split
  · exact quiet
  · rename_i id rest active
    refine quiet.advance ?_
    intro other pending
    rcases pending with ⟨waiting, reads⟩ | ⟨entry, isCurrent, same, reads⟩
    · rw [ReadPending, active]
      exact .inl ⟨List.mem_cons_of_mem _ waiting, reads⟩
    · cases isCurrent
      cases same
      rw [ReadPending, active]
      exact .inl ⟨List.mem_cons_self, reads⟩

theorem Quiet.nextCallback {result : Except Errno (List UInt8)} (quiet : loop.Quiet)
    (ran : loop.nextCallback result = .ok next) : next.Quiet := by
  unfold ReadLoop.nextCallback at ran
  split at ran
  · rename_i id callback rest current
    have called : { loop with current := some (id, rest) }.Quiet := by
      refine quiet.advance ?_
      intro other pending
      rcases pending with waiting | ⟨entry, isCurrent, same, reads⟩
      · exact .inl waiting
      · cases isCurrent
        exact .inr ⟨_, current, same, List.mem_cons_of_mem _ reads⟩
    dsimp only at ran
    cases callback with
    | close => exact called.handleClose ran
    | read =>
        refine called.handleRead ?_ ran
        cases isStopped : loop.stopped id with
        | false => rfl
        | true =>
            have pending : loop.ReadPending id := .inr ⟨_, current, rfl, List.mem_cons_self⟩
            exact absurd pending (quiet.stopped id isStopped).2
    | error | write =>
        cases ran
        exact called
  · cases ran
    exact quiet
  · cases ran
    exact quiet

/-- What is reported of a channel that is not interested in reading makes no read due. -/
theorem not_read_of_reportable {reported interest : PollEvents}
    (reportable : reported.ReportableFor interest) (noRdhup : interest.pollRdhup = false)
    (notReading : (interest.pollIn || interest.pollPri) = false) :
    .read ∉ Channel.callbacks reported := by
  rcases reportable with ⟨pollIn, pollPri, -, -, pollRdhup⟩
  rw [Bool.or_eq_false_iff] at notReading
  rw [notReading.1] at pollIn
  rw [notReading.2] at pollPri
  rw [noRdhup] at pollRdhup
  have noIn : reported.pollIn = false := Bool.eq_false_of_le_false pollIn
  have noPri : reported.pollPri = false := Bool.eq_false_of_le_false pollPri
  have none : reported.pollRdhup = false := Bool.eq_false_of_le_false pollRdhup
  simp [Channel.callbacks, noIn, noPri, none]

theorem poll_channel (loop : ReadLoop) (reported : List (ConnectionId × PollEvents))
    (id : ConnectionId) :
    ((loop.poll reported).events id = loop.events id ∧
      (loop.poll reported).isReading id = loop.isReading id) ∧
    (id ∈ (loop.poll reported).activeChannels →
      (id, (loop.poll reported).revents id) ∈ reported) := by
  unfold events revents isReading connection poll
  dsimp only
  cases found : reported.find? fun event => decide (event.1 = id) with
  | some event =>
      refine ⟨⟨rfl, rfl⟩, fun _ => ?_⟩
      have same : event.1 = id := by simpa using List.find?_some found
      rw [← same]
      exact List.mem_of_find?_eq_some found
  | none =>
      refine ⟨⟨rfl, rfl⟩, fun active => ?_⟩
      rcases List.mem_map.mp active with ⟨event, member, same⟩
      have different := List.find?_eq_none.mp found event member
      exact absurd (decide_eq_true same) different

theorem Quiet.poll {reported : List (ConnectionId × PollEvents)} (quiet : loop.Quiet)
    (idle : loop.Idle) (reportable : loop.Reportable reported) :
    (loop.poll reported).Quiet where
  noRdhup id := by
    rw [(poll_channel loop reported id).1.1]
    exact quiet.noRdhup id
  stopped id isStopped := by
    rcases quiet.stopped id isStopped with ⟨notReading, -⟩
    rcases poll_channel loop reported id with ⟨⟨-, isReading⟩, revents⟩
    refine ⟨isReading.trans notReading, ?_⟩
    rintro (⟨active, reads⟩ | ⟨entry, isCurrent, -, -⟩)
    · have within := reportable.2 _ (revents active)
      exact not_read_of_reportable within (quiet.noRdhup id) notReading reads
    · change entry ∈ loop.current at isCurrent
      rw [idle.2] at isCurrent
      cases isCurrent
  delivered := quiet.delivered

theorem Quiet.step {action : Action} (quiet : loop.Quiet) (allowed : loop.Allowed action)
    (inOrder : loop.StopsWhenHandled action) (stepped : loop.step action = .ok next) :
    next.Quiet := by
  cases action with
  | poll reported =>
      cases stepped
      exact quiet.poll allowed.1 allowed.2
  | handleEvent =>
      cases stepped
      exact quiet.handleEvent
  | nextCallback result => exact quiet.nextCallback stepped
  | returnCallback =>
      cases stepped
      exact ⟨quiet.noRdhup, quiet.stopped, quiet.delivered⟩
  | finishEvent =>
      cases stepped
      refine quiet.advance ?_
      rintro id (waiting | ⟨entry, isCurrent, -, -⟩)
      · exact .inl waiting
      · cases isCurrent
  | startRead id =>
      cases stepped
      exact quiet.startReadInLoop id
  | stopRead id =>
      cases stepped
      exact quiet.stopReadInLoop inOrder
  | setWriting id enabled =>
      cases stepped
      exact quiet.setWriting id enabled

/-- If each connection is stopped only when no read of it is left in the iteration, no message
is delivered to a stopped connection. -/
theorem stopRead_stops (reachable : (machine.restrict StopsWhenHandled).Reachable loop) :
    ∀ entry ∈ loop.delivered, entry.2 = false := by
  have quiet : loop.Quiet := by
    refine reachable.invariant Quiet (fun _ initial => Initial.quiet initial) ?_
    rintro current action next quiet ⟨allowed, inOrder⟩ stepped
    exact quiet.step allowed inOrder stepped
  exact quiet.delivered

/-- A loop of established connections. -/
def established : ReadLoop where
  connections id := {
    state := .kConnected
    reading := true
    channel := { Channel.create id id with events := .kReadEvent }
    inputBuffer := ConnectionSystem.lone.connection.inputBuffer
    outputBuffer := ConnectionSystem.lone.connection.inputBuffer
    highWaterMark := 65536
    writeCompleteCallback := false
    highWaterMarkCallback := false }
  activeChannels := []
  current := none
  userCode := false
  stopped _ := false
  delivered := []

theorem established_initial : established.Initial where
  established _ := ⟨rfl, rfl, rfl, (Buffer.create_wellFormed (Buffer.create_eq_ok _)).1⟩
  idle := ⟨rfl, rfl⟩
  userCode := rfl
  stopped _ := rfl
  delivered := rfl

/-- Connection 1 is stopped by its own callback; later only connection 0 is read. -/
theorem stopRead_stops_self :
    ∃ loop, (machine.restrict StopsWhenHandled).Reachable loop ∧
      (loop.stopped 1 = true ∧ loop.delivered.map Prod.fst = [1, 0]) ∧
      ∀ entry ∈ loop.delivered, entry.2 = false := by
  have run := Machine.exists_reachable (machine.restrict StopsWhenHandled)
    (fun loop => loop.stopped 1 = true ∧ loop.delivered.map Prod.fst = [1, 0])
    established_initial
    [.poll [(1, { PollEvents.kNoneEvent with pollIn := true })], .handleEvent,
      .nextCallback (.ok [65]), .stopRead 1, .returnCallback, .finishEvent,
      .poll [(1, { PollEvents.kNoneEvent with pollErr := true }),
        (0, { PollEvents.kNoneEvent with pollIn := true })],
      .handleEvent, .nextCallback (.ok []), .finishEvent, .handleEvent,
      .nextCallback (.ok [66]), .returnCallback]
    (by decide +kernel)
  rcases run with ⟨loop, reachable, reached⟩
  exact ⟨loop, reachable, reached, stopRead_stops reachable⟩

/-- Both connections are readable. The message callback of the first stops the second, whose
`handleEvent` then reads and delivers all the same. -/
theorem delivered_after_stopRead :
    ∃ loop, machine.Reachable loop ∧ (1, true) ∈ loop.delivered :=
  Machine.exists_reachable machine (fun loop => (1, true) ∈ loop.delivered)
    established_initial
    [.poll [(0, { PollEvents.kNoneEvent with pollIn := true }),
        (1, { PollEvents.kNoneEvent with pollIn := true })],
      .handleEvent, .nextCallback (.ok [65]), .stopRead 1, .returnCallback, .finishEvent,
      .handleEvent, .nextCallback (.ok [66])]
    (by decide +kernel)

end ReadLoop

end Ccnet.Net
