import Ccnet.Net.Client.Ordered
import Ccnet.Net.Client.TcpClient

/-! # Orderly use of the client

If `connect` is called at rest only, no retry timer fires before the last channel is gone,
and a connection that is closed is neither closed nor set to `kDisconnecting` again, no
assertion of the connector or the client fails. -/

namespace Ccnet.Net

theorem ClientConnection.map_shutdown_id (connection : Option ClientConnection) :
    (connection.map shutdown).map id = connection.map id := by
  cases connection with
  | none => rfl
  | some connection =>
      simp only [Option.map_some, shutdown]
      split <;> rfl

/-- The connector is `kDisconnected`, no `startInLoop`, retry or `resetChannel` is on its way,
and no retry timer is set. -/
def ConnectorSystem.AtRest (system : ConnectorSystem) : Prop :=
  system.connector.state = .kDisconnected ∧ system.timers = [] ∧
    .startInLoop ∉ system.functors.outstanding ∧ .resetChannel ∉ system.functors.outstanding ∧
    .startInLoop ∉ system.pushing.map Prod.snd ∧ .startInLoop ∉ system.stack ∧
    ∀ frame ∈ system.stack, frame.isRetry = false

theorem ConnectorSystem.AtRest.ordered {system : ConnectorSystem} (atRest : system.AtRest) :
    system.view.Ordered 1 := by
  rcases atRest with ⟨idle, noTimers, notQueued, noResets, notPushing, notCalled, noRetry⟩
  have starts : system.view.starts = 0 := by
    simp [ConnectorView.starts, view, List.count_eq_zero.mpr notQueued,
      List.count_eq_zero.mpr notPushing, List.count_eq_zero.mpr notCalled]
  have timers : system.view.timers = 0 := by simp [view, noTimers]
  have retrying : system.view.retrying = 0 := by
    simpa [ConnectorView.retrying, view] using noRetry
  constructor
  case one => omega
  case idle => exact fun _ => idle
  case ready => exact fun _ => List.count_eq_zero.mpr noResets
  case retry =>
    intro some
    omega
  case delivered =>
    intro connected
    cases idle.symm.trans connected

namespace ClientSystem

variable {system next : ClientSystem}

/-! ## Conditions -/

/-- `socket` succeeds. -/
def Serving (system : ClientSystem) : Action → Prop
  | .connector (.resume attempt _) =>
      system.connector.stack.head? = some .startInLoop → attempt.sockfd ≠ none
  | _ => True

/-- `connect` is called only while no other call is on its way and nothing is left of an
earlier attempt, no retry timer fires before the channel of the last attempt is gone, and a
connection that was closed is neither set to `kDisconnecting` by a thread that has found it open
nor closed once more by the same event. -/
def Orderly (system : ClientSystem) : Action → Prop
  | .call _ .connect => system.connector.AtRest ∧ .connect ∉ system.entered.map Prod.snd
  | .connector (.fireTimer _) => .resetChannel ∉ system.connector.functors.outstanding
  | .setDisconnecting thread => ∀ entry ∈ system.setting, entry.1 = thread →
      system.IsCurrent entry.2
  | .closeEvent => ∀ id ∈ system.active, system.IsCurrent id
  | _ => True

instance (system : ConnectorSystem) : Decidable system.AtRest :=
  inferInstanceAs (Decidable (_ ∧ _))

instance (system : ClientSystem) : (action : Action) → Decidable (system.Serving action)
  | .connector (.resume attempt _) => inferInstanceAs (Decidable
      (system.connector.stack.head? = some .startInLoop → attempt.sockfd ≠ none))
  | .connector (.start _) | .connector (.stop _) | .connector .restart | .connector (.push _)
  | .connector .enterLoop | .connector .leaveLoop | .connector (.poll _) | .connector .dispatch
  | .connector (.fireTimer _) | .connector .swapFunctors | .connector .runFunctor
  | .connector .finishFunctors | .connector (.queueOther _) | .connector (.otherChannel _ _ _)
  | .connector (.releaseSocket _) | .call _ _ | .finishCall _ | .enableRetry | .forceClose _
  | .beginForceClose _ | .setDisconnecting _ | .poll _ _ | .resume | .closeEvent =>
      inferInstanceAs (Decidable True)

instance (system : ClientSystem) : (action : Action) → Decidable (system.Orderly action)
  | .call _ .connect => inferInstanceAs (Decidable (_ ∧ _))
  | .connector (.fireTimer _) => inferInstanceAs (Decidable (_ ∉ _))
  | .setDisconnecting thread => inferInstanceAs (Decidable
      (∀ entry ∈ system.setting, entry.1 = thread → system.IsCurrent entry.2))
  | .closeEvent => inferInstanceAs (Decidable (∀ id ∈ system.active, system.IsCurrent id))
  | .connector (.start _) | .connector (.stop _) | .connector .restart | .connector (.push _)
  | .connector .enterLoop | .connector .leaveLoop | .connector (.poll _) | .connector .dispatch
  | .connector (.resume _ _) | .connector .swapFunctors | .connector .runFunctor
  | .connector .finishFunctors | .connector (.queueOther _) | .connector (.otherChannel _ _ _)
  | .connector (.releaseSocket _) | .call _ .disconnect | .call _ .stop | .finishCall _
  | .enableRetry | .forceClose _ | .beginForceClose _ | .poll _ _ | .resume =>
      inferInstanceAs (Decidable True)

/-! ## The client's invariant -/

/-- How many calls of `connect` have not reached the connector. -/
def entering (system : ClientSystem) : Nat := (system.entered.map Prod.snd).count .connect

/-- The channel of the last attempt is gone, and the connector is not running. -/
structure Drained (system : ClientSystem) : Prop where
  resets : system.connector.resets = 0
  noCalls : system.connector.stack = []

/-- What the loop thread can be in the middle of. -/
inductive Stage (system : ClientSystem) : List ClientFrame → Prop
  | outside : Stage system []
  | delivered {sockfd : Nat} : Stage system [.newConnection sockfd]
  | establishing {id : Nat} : system.client.connection = some ⟨id, .kConnecting⟩ →
      Stage system [.connectEstablished]
  | established : Stage system [.connectionCallback]
  | closing {id : Nat} : system.client.connection.map ClientConnection.id = some id →
      system.Drained → Stage system [.connectionCallback, .removeConnection id]
  | removing {id : Nat} : system.client.connection.map ClientConnection.id = some id →
      system.Drained → Stage system [.removeConnection id]
  | reconnecting : system.client.connection = none → system.Drained →
      Stage system [.reconnect]

structure Invariant (system : ClientSystem) : Prop where
  sound : system.connector.Sound
  handling : system.connector.view.Handling
  ordered : system.connector.view.Ordered system.entering
  stage : system.Stage system.frames
  calm : (system.frames ≠ [] ∨ ¬system.LoopFree) → system.connector.Calm
  connected : (system.client.connection ≠ none ∨ system.frames ≠ []) →
    system.connector.connector.state = .kConnected
  /-- When the events or functors of the connection run, `resetChannel` has run. -/
  active : ∀ connection ∈ system.client.connection, system.active = some connection.id →
    system.connector.resets = 0
  queued : ∀ connection ∈ system.client.connection, ∀ ahead behind,
    system.connector.functors.outstanding = ahead ++ .other connection.id :: behind →
    .resetChannel ∉ behind
  connectionOld : ∀ connection ∈ system.client.connection,
    connection.id < system.client.nextConnId
  activeOld : ∀ id ∈ system.active, id < system.client.nextConnId
  queuedOld : ∀ id, .other id ∈ system.connector.functors.outstanding →
    id < system.client.nextConnId
  closed : system.revived = []

theorem Stage.transfer {frames : List ClientFrame} (stage : system.Stage frames)
    (client : next.client.connection = system.client.connection)
    (drained : system.Drained → next.Drained) : next.Stage frames := by
  cases stage with
  | outside => exact .outside
  | delivered => exact .delivered
  | establishing isConnection => exact .establishing (client.trans isConnection)
  | established => exact .established
  | closing isConnection before =>
      exact .closing (by rw [client]; exact isConnection) (drained before)
  | removing isConnection before =>
      exact .removing (by rw [client]; exact isConnection) (drained before)
  | reconnecting isConnection before =>
      exact .reconnecting (client.trans isConnection) (drained before)

theorem Stage.same_connector {frames : List ClientFrame} (stage : system.Stage frames)
    (client : next.client.connection = system.client.connection)
    (connector : next.connector = system.connector) : next.Stage frames := by
  refine stage.transfer client ?_
  intro drained
  constructor
  · rw [connector]
    exact drained.resets
  · rw [connector]
    exact drained.noCalls

/-- A step of the connector by the loop thread while the client is not running, or one of
others. -/
theorem Invariant.connector {connector : ConnectorSystem} (invariant : system.Invariant)
    (sound : connector.Sound) (step : system.connector.view.Step .other connector.view)
    (free : (system.frames = [] ∧ system.LoopFree) ∨
      connector.stack = system.connector.stack) : Invariant { system with connector } := by
  have before := invariant.sound
  have moves := step.moves before.pushing before.batch
  have connected : (system.client.connection ≠ none ∨ system.frames ≠ []) →
      system.connector.view.state = .kConnected := invariant.connected
  constructor
  case sound => exact sound
  case handling => exact invariant.handling.step step before.below
  case ordered =>
    exact invariant.ordered.step step invariant.handling before.below before.pushing before.batch
  case stage =>
    by_cases outside : system.frames = []
    · rw [outside]
      exact .outside
    · refine invariant.stage.transfer rfl ?_
      intro drained
      have sameStack := free.resolve_left (fun both => outside both.1)
      have resets : connector.resets ≤ system.connector.resets :=
        moves.resets_le (connected (.inr outside))
      have none := drained.resets
      exact ⟨Nat.le_zero.mp (none ▸ resets), sameStack.trans drained.noCalls⟩
  case calm =>
    intro busy
    have sameStack := free.resolve_left (fun both => by
      rcases busy with frames | calls
      · exact frames both.1
      · exact calls both.2)
    intro frame member
    rw [sameStack] at member
    exact invariant.calm busy frame member
  case connected =>
    exact fun up => invariant.ordered.stays_connected step (connected up)
  case active =>
    intro connection isConnection isActive
    have isUp := connected (.inl (by rw [isConnection]; simp))
    have none := invariant.active connection isConnection isActive
    have resets : connector.resets ≤ system.connector.resets := moves.resets_le isUp
    exact Nat.le_zero.mp (none ▸ resets)
  case queued =>
    intro connection isConnection
    have isUp := connected (.inl (by rw [isConnection]; simp))
    exact moves.no_reset_behind isUp (invariant.queued connection isConnection)
  case connectionOld => exact invariant.connectionOld
  case activeOld => exact invariant.activeOld
  case queuedOld => exact fun id member => invariant.queuedOld id (moves.mem_other member)
  case closed => exact invariant.closed

/-- No connection is there, and the client is not running. -/
theorem Invariant.of_idle (sound : system.connector.Sound)
    (handling : system.connector.view.Handling)
    (ordered : system.connector.view.Ordered system.entering)
    (noConnection : system.client.connection = none) (outside : system.frames = [])
    (calm : ¬system.LoopFree → system.connector.Calm)
    (activeOld : ∀ id ∈ system.active, id < system.client.nextConnId)
    (queuedOld : ∀ id, .other id ∈ system.connector.functors.outstanding →
      id < system.client.nextConnId) (closed : system.revived = []) : system.Invariant where
  sound := sound
  handling := handling
  ordered := ordered
  stage := by
    rw [outside]
    exact .outside
  calm busy := by
    rcases busy with frames | calls
    · exact absurd outside frames
    · exact calm calls
  connected up := by
    rcases up with some | frames
    · exact absurd noConnection some
    · exact absurd outside frames
  active connection isConnection := by
    rw [noConnection] at isConnection
    cases isConnection
  queued connection isConnection := by
    rw [noConnection] at isConnection
    cases isConnection
  connectionOld connection isConnection := by
    rw [noConnection] at isConnection
    cases isConnection
  activeOld := activeOld
  queuedOld := queuedOld
  closed := closed

theorem Invariant.idle (invariant : system.Invariant)
    (atRest : system.connector.connector.state = .kDisconnected) :
    system.client.connection = none ∧ system.frames = [] := by
  constructor
  · by_contra some
    cases atRest.symm.trans (invariant.connected (.inl some))
  · by_contra frames
    cases atRest.symm.trans (invariant.connected (.inr frames))

theorem Invariant.inside (invariant : system.Invariant) (busy : system.frames ≠ []) :
    system.connector.Calm ∧ system.connector.connector.state = .kConnected :=
  ⟨invariant.calm (.inl busy), invariant.connected (.inr busy)⟩

/-! ## Calls -/

theorem entering_erase {entry : Caller × ClientCall} (member : entry ∈ system.entered) :
    system.entering = entering { system with entered := system.entered.erase entry } +
      if entry.2 = .connect then 1 else 0 := by
  have moved := ((List.perm_cons_erase member).map Prod.snd).count_eq .connect
  simp only [entering]
  rw [moved, List.map_cons, List.count_cons]
  simp

theorem calls_of_erase {entry : Caller × ClientCall}
    (calls : ¬LoopFree { system with entered := system.entered.erase entry }) :
    ¬system.LoopFree := by
  intro free
  refine calls ?_
  intro inCall
  rcases List.mem_map.mp inCall with ⟨found, still, isNone⟩
  exact free (List.mem_map.mpr ⟨found, List.mem_of_mem_erase still, isNone⟩)

theorem Invariant.finish {entry : Caller × ClientCall} (invariant : system.Invariant)
    (member : entry ∈ system.entered) (other : entry.2 ≠ .connect) :
    Invariant { system with entered := system.entered.erase entry } := by
  have count := entering_erase member
  rw [if_neg other, Nat.add_zero] at count
  refine { invariant with
    ordered := by rw [← count]; exact invariant.ordered
    stage := invariant.stage.same_connector rfl rfl
    calm := ?_ }
  exact fun busy => invariant.calm (busy.imp id calls_of_erase)

/-- The connection's state may be another, unless it is being established. -/
theorem Stage.same_connection {frames : List ClientFrame} {connection : Option ClientConnection}
    (stage : system.Stage frames)
    (sameId : connection.map ClientConnection.id =
      system.client.connection.map ClientConnection.id)
    (establishing : ∀ id, system.client.connection = some ⟨id, .kConnecting⟩ →
      connection = some ⟨id, .kConnecting⟩) :
    Stage (system.setConnection connection) frames := by
  cases stage with
  | outside => exact .outside
  | delivered => exact .delivered
  | establishing isConnection => exact .establishing (establishing _ isConnection)
  | established => exact .established
  | closing isConnection before =>
      exact .closing (sameId.trans isConnection) ⟨before.resets, before.noCalls⟩
  | removing isConnection before =>
      exact .removing (sameId.trans isConnection) ⟨before.resets, before.noCalls⟩
  | reconnecting isConnection before =>
      rw [isConnection] at sameId
      exact .reconnecting (Option.map_eq_none_iff.mp sameId) ⟨before.resets, before.noCalls⟩

/-- The connection's state may be another, but not the connection itself. -/
theorem Invariant.same_connection {connection : Option ClientConnection}
    (invariant : system.Invariant) {frames : List ClientFrame}
    (sameId : connection.map ClientConnection.id =
      system.client.connection.map ClientConnection.id)
    (stage : Stage (system.setConnection connection) frames)
    (inside : frames ≠ [] →
      system.connector.Calm ∧ system.connector.connector.state = .kConnected) :
    Invariant { system.setConnection connection with frames } := by
  have before : ∀ found ∈ connection, ∃ old ∈ system.client.connection, old.id = found.id := by
    intro found isFound
    have isId : system.client.connection.map ClientConnection.id = some found.id := by
      rw [← sameId, Option.mem_def.mp isFound]
      rfl
    exact Option.map_eq_some_iff.mp isId
  refine { invariant with
    stage := ?_
    calm := ?_
    connected := ?_
    active := ?_
    queued := ?_
    connectionOld := ?_ }
  · exact stage.same_connector rfl rfl
  · rintro (busy | calls)
    · exact (inside busy).1
    · exact invariant.calm (.inr calls)
  · rintro (some | busy)
    · refine invariant.connected (.inl ?_)
      intro none
      rw [none] at sameId
      exact some (Option.map_eq_none_iff.mp sameId)
    · exact (inside busy).2
  · intro found isFound isActive
    rcases before found isFound with ⟨old, isOld, same⟩
    exact invariant.active old isOld (isActive.trans (congrArg some same.symm))
  · intro found isFound
    rcases before found isFound with ⟨old, isOld, same⟩
    rw [← same]
    exact invariant.queued old isOld
  · intro found isFound
    rcases before found isFound with ⟨old, isOld, same⟩
    rw [← same]
    exact invariant.connectionOld old isOld

theorem Invariant.shutdown (invariant : system.Invariant) :
    Invariant (system.setConnection (system.client.connection.map ClientConnection.shutdown)) := by
  have sameId := ClientConnection.map_shutdown_id system.client.connection
  refine invariant.same_connection sameId (invariant.stage.same_connection sameId ?_)
    invariant.inside
  intro id isConnection
  simp [isConnection, ClientConnection.shutdown]

theorem Invariant.setting (invariant : system.Invariant) (setting : List (ThreadId × Nat)) :
    Invariant { system with setting } :=
  { invariant with
    stage := invariant.stage.same_connector rfl rfl }

theorem Invariant.beginShutdown (invariant : system.Invariant) (thread : ThreadId) :
    Invariant (system.beginShutdown thread) := by
  unfold ClientSystem.beginShutdown
  split
  · split
    · exact invariant.setting _
    · exact invariant
  · exact invariant

theorem Invariant.setDisconnecting {id : Nat} (invariant : system.Invariant)
    (current : system.IsCurrent id) : Invariant (system.setDisconnecting id) := by
  rcases current with ⟨connection, isConnection, isId, isOpen⟩
  have isConnection : system.client.connection = some connection := isConnection
  have sameId : (some { connection with state := StateE.kDisconnecting }).map
      ClientConnection.id = system.client.connection.map ClientConnection.id := by
    rw [isConnection]
    rfl
  simp only [ClientSystem.setDisconnecting, isConnection]
  rw [if_pos ⟨isId, isOpen⟩]
  refine invariant.same_connection sameId (invariant.stage.same_connection sameId ?_)
    invariant.inside
  intro other establishing
  rw [isConnection] at establishing
  cases establishing
  rcases isOpen with connected | disconnecting
  · cases connected
  · cases disconnecting

theorem Invariant.finishCall {entry : Caller × ClientCall} (invariant : system.Invariant)
    (member : entry ∈ system.entered) :
    Invariant (ClientSystem.finishCall
      { system with entered := system.entered.erase entry } entry.1 entry.2) := by
  rcases entry with ⟨caller, call⟩
  cases call with
  | connect =>
      have count := entering_erase member
      simp only [if_true] at count
      have ordered := invariant.ordered
      rw [count] at ordered
      have atRest := ordered.idle (by omega)
      rcases invariant.idle atRest with ⟨noConnection, outside⟩
      have step := system.connector.start_view caller
      have calm : caller = none → system.connector.Calm := by
        rintro rfl
        exact invariant.calm (.inr fun free => free (List.mem_map.mpr ⟨_, member, rfl⟩))
      have outstanding : (system.connector.start caller).functors = system.connector.functors := by
        cases caller <;> rfl
      refine .of_idle (invariant.sound.start calm)
        (invariant.handling.step step invariant.sound.below) (ordered.start step) noConnection
        outside ?_ invariant.activeOld ?_ invariant.closed
      · intro calls
        have before := invariant.calm (.inr (calls_of_erase calls))
        cases caller with
        | none =>
            intro frame member
            rcases List.mem_cons.mp member with rfl | later
            · rfl
            · exact before frame later
        | some thread => exact before
      · intro id queued
        have queued : ConnectorFunctor.other id ∈
            (system.connector.start caller).functors.outstanding := queued
        rw [outstanding] at queued
        exact invariant.queuedOld id queued
  | stop =>
      have finished := invariant.finish member (by simp)
      refine finished.connector invariant.sound.stop (system.connector.stop_view caller) (.inr ?_)
      cases caller <;> rfl
  | disconnect =>
      have finished := invariant.finish member (by simp)
      cases caller with
      | none => exact finished.shutdown
      | some thread => exact finished.beginShutdown thread

theorem Invariant.call {caller : Caller} {call : ClientCall} (invariant : system.Invariant)
    (mayCall : system.MayCall caller) (orderly : system.Orderly (.call caller call)) :
    Invariant (system.call caller call) := by
  refine { invariant with ordered := ?_, stage := ?_, calm := ?_ }
  · cases call with
    | connect =>
        rcases orderly with ⟨atRest, notEntered⟩
        have entering : (system.call caller .connect).entering = 1 := by
          simp [ClientSystem.entering, ClientSystem.call, List.count_eq_zero.mpr notEntered]
        rw [entering]
        exact atRest.ordered
    | stop | disconnect =>
        simp only [ClientSystem.entering, ClientSystem.call, List.map_append, List.map_singleton,
          List.count_append]
        exact invariant.ordered
  · exact invariant.stage.same_connector rfl rfl
  · intro busy
    by_cases inside : system.frames = []
    · by_cases free : system.LoopFree
      · have calls := busy.resolve_left (fun frames => frames inside)
        have isLoop : caller = none := by
          by_contra other
          refine calls ?_
          simp only [LoopFree, ClientSystem.call, List.map_append, List.mem_append] at free ⊢
          rintro (old | new)
          · exact free old
          · exact other (List.mem_singleton.mp new).symm
        subst isLoop
        have userCode := mayCall.2
        simp only [runsUserCode, inside, Bool.and_eq_true, List.isEmpty_iff] at userCode
        exact ConnectorSystem.calm_of_stack_nil userCode.2
      · exact invariant.calm (.inr free)
    · exact invariant.calm (.inl inside)

/-! ## The loop thread -/

theorem Invariant.handleClose {connection : ClientConnection} (invariant : system.Invariant)
    (isConnection : system.client.connection = some connection) (isOpen : connection.IsOpen)
    (outside : system.frames = []) (drained : system.Drained) :
    ∃ next, system.handleClose connection = .ok next ∧ next.Invariant := by
  unfold ClientSystem.handleClose
  rw [Checked.check_bind_of isOpen, outside]
  refine ⟨_, rfl, ?_⟩
  refine invariant.same_connection (by rw [isConnection]; rfl) ?_ ?_
  · exact .closing rfl ⟨drained.resets, drained.noCalls⟩
  · intro _
    refine ⟨ConnectorSystem.calm_of_stack_nil drained.noCalls, invariant.connected (.inl ?_)⟩
    rw [isConnection]
    simp

theorem Invariant.newConnection (invariant : system.Invariant) (inside : system.frames ≠ []) :
    Invariant (system.newConnection []) := by
  refine { invariant with
    stage := .establishing rfl
    calm := fun _ => (invariant.inside inside).1
    connected := fun _ => (invariant.inside inside).2
    active := ?_
    queued := ?_
    connectionOld := ?_
    activeOld := fun id isActive => Nat.lt_succ_of_lt (invariant.activeOld id isActive)
    queuedOld := fun id queued => Nat.lt_succ_of_lt (invariant.queuedOld id queued) }
  · intro connection isConnection isActive
    cases isConnection
    exact absurd (invariant.activeOld _ isActive) (Nat.lt_irrefl _)
  · intro connection isConnection ahead behind split
    cases isConnection
    have isQueued : ConnectorFunctor.other system.client.nextConnId ∈
        system.connector.functors.outstanding := by
      have split : system.connector.functors.outstanding = _ := split
      rw [split]
      simp
    exact absurd (invariant.queuedOld _ isQueued) (Nat.lt_irrefl _)
  · intro connection isConnection
    cases isConnection
    exact Nat.lt_succ_self _

theorem Invariant.removed (invariant : system.Invariant) (inside : system.frames ≠ [])
    (drained : system.Drained) :
    Invariant { system.setConnection none with frames := [.reconnect] } := by
  have noConnection : ∀ connection, connection ∉ (none : Option ClientConnection) := by simp
  refine { invariant with
    stage := .reconnecting rfl ⟨drained.resets, drained.noCalls⟩
    calm := fun _ => (invariant.inside inside).1
    connected := fun _ => (invariant.inside inside).2
    active := fun connection isConnection => absurd isConnection (noConnection connection)
    queued := fun connection isConnection => absurd isConnection (noConnection connection)
    connectionOld := fun connection isConnection => absurd isConnection (noConnection connection) }

theorem Invariant.reconnect (invariant : system.Invariant) (inside : system.frames ≠ [])
    (noConnection : system.client.connection = none) (drained : system.Drained) :
    Invariant (system.reconnect []) := by
  rcases invariant.inside inside with ⟨calm, connected⟩
  unfold ClientSystem.reconnect
  split
  · have step : system.connector.view.Step .restart system.connector.restart.view :=
      .restart connected
    refine .of_idle (invariant.sound.restart calm connected)
      (invariant.handling.step step invariant.sound.below)
      (invariant.ordered.restart step drained.resets) noConnection rfl ?_ invariant.activeOld
      invariant.queuedOld invariant.closed
    intro _ frame member
    rcases List.mem_cons.mp member with rfl | later
    · rfl
    · exact calm frame later
  · exact invariant.same_connection rfl .outside (fun inside => absurd rfl inside)

theorem Invariant.resume (invariant : system.Invariant) (inside : system.frames ≠ []) :
    ∃ next, system.resume = .ok next ∧ next.Invariant := by
  have stage := invariant.stage
  generalize frames : system.frames = found at stage
  unfold ClientSystem.resume
  rw [frames]
  cases stage with
  | outside => exact absurd frames inside
  | delivered => exact ⟨_, rfl, invariant.newConnection inside⟩
  | establishing isConnection =>
      simp only [ClientSystem.connectEstablished, isConnection]
      rw [Checked.check_bind_of trivial]
      refine ⟨_, rfl, ?_⟩
      exact invariant.same_connection (by rw [isConnection]; rfl) .established
        (fun _ => invariant.inside inside)
  | established =>
      exact ⟨_, rfl, invariant.same_connection rfl .outside (fun inside => absurd rfl inside)⟩
  | closing isConnection drained =>
      refine ⟨_, rfl, ?_⟩
      exact invariant.same_connection rfl
        (.removing isConnection ⟨drained.resets, drained.noCalls⟩)
        (fun _ => invariant.inside inside)
  | removing isConnection drained =>
      simp only [ClientSystem.removeConnection]
      rw [Checked.check_bind_of isConnection]
      exact ⟨_, rfl, invariant.removed inside drained⟩
  | reconnecting noConnection drained =>
      exact ⟨_, rfl, invariant.reconnect inside noConnection drained⟩

theorem Invariant.handleCloseOf {id : Nat} (invariant : system.Invariant)
    (current : system.IsCurrent id) (outside : system.frames = []) (drained : system.Drained) :
    ∃ next, system.handleCloseOf id = .ok next ∧ next.Invariant := by
  rcases current with ⟨connection, isConnection, isId, isOpen⟩
  simp only [ClientSystem.handleCloseOf, Option.mem_def.mp isConnection]
  rw [if_pos isId]
  exact invariant.handleClose isConnection isOpen outside drained

theorem Invariant.closeEvent {id : Nat} (invariant : system.Invariant)
    (isActive : system.active = some id) (current : system.IsCurrent id)
    (outside : system.frames = []) (noCalls : system.connector.stack = []) :
    ∃ next, system.handleCloseOf id = .ok next ∧ next.Invariant := by
  rcases current with ⟨connection, isConnection, rfl, isOpen⟩
  exact invariant.handleCloseOf ⟨connection, isConnection, rfl, isOpen⟩ outside
    ⟨invariant.active connection isConnection isActive, noCalls⟩

theorem Invariant.poll {connector : ConnectorSystem} (invariant : system.Invariant)
    (active : Bool) (sound : connector.Sound)
    (step : system.connector.view.Step .other connector.view)
    (polling : system.connector.phase = .polling) (outside : system.frames = [])
    (free : system.LoopFree) :
    Invariant { system with
      connector
      active := if active then system.client.connection.map ClientConnection.id else none } := by
  have after := invariant.connector sound step (.inl ⟨outside, free⟩)
  refine { after with stage := ?_, active := ?_, activeOld := ?_ }
  · exact after.stage.same_connector rfl rfl
  · intro connection isConnection _
    have isUp := invariant.connected (.inl (by rw [isConnection]; simp))
    have batch := invariant.sound.batch (by rw [polling]; simp)
    have notHandling : system.connector.view.phase ≠ .handlingEvents := by
      change system.connector.phase ≠ .handlingEvents
      rw [polling]
      simp
    have delivered := invariant.ordered.delivered isUp notHandling
    have none : system.connector.resets = 0 := by
      rw [ConnectorSystem.resets, List.count_eq_zero, FunctorQueue.outstanding, batch]
      exact delivered
    have resets : connector.resets ≤ system.connector.resets :=
      (step.moves invariant.sound.pushing invariant.sound.batch).resets_le isUp
    exact Nat.le_zero.mp (none ▸ resets)
  · intro id isActive
    dsimp only at isActive
    split at isActive
    · rcases Option.map_eq_some_iff.mp isActive with ⟨connection, isConnection, rfl⟩
      exact invariant.connectionOld connection isConnection
    · cases isActive

/-! ## The connector's steps -/

theorem calledBack_of_same_stack {before after : ConnectorSystem}
    (same : after.stack = before.stack) : calledBack before after = [] := by
  unfold calledBack
  rw [same]
  split
  · rename_i connected called
    rw [connected] at called
    cases called
  · rfl

theorem calledBack_cases (before after : ConnectorSystem) :
    calledBack before after = [] ∨
      ∃ opened sockfd, before.stack.head? = some (.connected opened) ∧
        after.stack.head? = some (.newConnectionCallback sockfd) ∧
        calledBack before after = [.newConnection sockfd] := by
  unfold calledBack
  split
  · rename_i opened sockfd connected called
    exact .inr ⟨opened, sockfd, connected, called, rfl⟩
  · exact .inl rfl

theorem Invariant.calledBack {connector : ConnectorSystem} (invariant : system.Invariant)
    (sound : connector.Sound) (step : system.connector.view.Step .other connector.view)
    (free : (system.frames = [] ∧ system.LoopFree) ∨
      connector.stack = system.connector.stack) :
    Invariant { system with
      connector
      frames := ClientSystem.calledBack system.connector connector ++ system.frames } := by
  have after := invariant.connector sound step free
  rcases calledBack_cases system.connector connector with
    nothing | ⟨opened, sockfd, connected, called, eq⟩
  · rw [nothing]
    exact after
  · rcases free with ⟨outside, _⟩ | same
    · have isUp := invariant.sound.connected opened connected
      rw [eq, outside]
      refine after.same_connection rfl .delivered (fun _ => ⟨?_, ?_⟩)
      · intro frame member
        cases stack : connector.stack with
        | nil =>
            rw [stack] at called
            cases called
        | cons top below =>
            have calm := sound.calm_below stack
            rw [stack] at called
            have member : frame ∈ connector.stack := member
            rw [stack] at member
            cases called
            rcases List.mem_cons.mp member with rfl | later
            · rfl
            · exact calm frame later
      · exact invariant.ordered.stays_connected step isUp
    · rw [calledBack_of_same_stack same] at eq
      cases eq

/-- `startInLoop` finds what it asserts. -/
theorem Invariant.startInLoop (invariant : system.Invariant)
    (top : system.connector.stack.head? = some .startInLoop) :
    system.connector.connector.state = .kDisconnected ∧
      system.connector.connector.channel = none := by
  have called : 0 < system.connector.view.starts := by
    have member : ConnectorFrame.startInLoop ∈ system.connector.view.stack :=
      List.mem_of_mem_head? top
    have positive := List.count_pos_iff.mpr member
    simp only [ConnectorView.starts]
    omega
  have idle : system.connector.connector.state = .kDisconnected :=
    invariant.ordered.idle (by omega)
  have ready : system.connector.resets = 0 := invariant.ordered.ready (by omega)
  have detached := invariant.sound.detached (.inl (by rw [idle]; simp))
  rw [detached.resets, List.length_eq_zero_iff, Option.toList_eq_nil_iff] at ready
  exact ⟨idle, ready⟩

theorem Invariant.outside_of_inStart (invariant : system.Invariant)
    (either : system.frames = [] ∨ system.inStart = true) : system.frames = [] := by
  by_contra inside
  have starting := either.resolve_left inside
  rcases invariant.inside inside with ⟨calm, connected⟩
  unfold inStart at starting
  split at starting
  · rename_i below stack
    have found := invariant.startInLoop (by rw [stack]; rfl)
    cases connected.symm.trans found.1
  · rename_i sockfd below stack
    have none := calm (.retry sockfd) (by rw [stack]; exact List.mem_cons_self)
    cases none
  all_goals cases starting

theorem Invariant.fireTimer {connector : ConnectorSystem} (invariant : system.Invariant)
    (sound : connector.Sound) (step : system.connector.view.Step .fireTimer connector.view)
    (drained : .resetChannel ∉ system.connector.functors.outstanding)
    (free : system.LoopFree) : Invariant { system with connector } := by
  have resets : system.connector.view.resets = 0 := List.count_eq_zero.mpr drained
  rcases step.timer_fired with ⟨pending, functors⟩
  have functors : connector.functors = system.connector.functors := functors
  rcases invariant.idle (invariant.ordered.idle (by omega)) with ⟨noConnection, outside⟩
  refine .of_idle sound (invariant.handling.step step invariant.sound.below)
    (invariant.ordered.fireTimer step resets) noConnection outside
    (fun calls => absurd free calls) invariant.activeOld ?_ invariant.closed
  intro id queued
  have queued : ConnectorFunctor.other id ∈ connector.functors.outstanding := queued
  rw [functors] at queued
  exact invariant.queuedOld id queued

theorem Invariant.forceClose {id : Nat} (invariant : system.Invariant)
    (old : id < system.client.nextConnId) :
    Invariant { system with connector := system.connector.queueInLoop none (.other id) } := by
  have step : system.connector.view.Step (.queueOther id)
      (system.connector.queueInLoop none (.other id)).view := .queueOther
  have sound := ConnectorSystem.step_sound (.queueOther id) invariant.sound trivial rfl
  have outstanding : (system.connector.queueInLoop none (.other id)).functors.outstanding =
      system.connector.functors.outstanding ++ [.other id] := FunctorQueue.outstanding_push _ _
  have resets : (system.connector.queueInLoop none (.other id)).resets =
      system.connector.resets := by
    simp [ConnectorSystem.resets, outstanding]
  refine { invariant with
    sound := sound
    handling := invariant.handling.step step invariant.sound.below
    ordered := invariant.ordered.queueOther step
    stage := ?_
    active := ?_
    queued := ?_
    queuedOld := ?_ }
  · exact invariant.stage.transfer rfl
      (fun drained => ⟨resets.trans drained.resets, drained.noCalls⟩)
  · intro connection isConnection isActive
    exact resets.trans (invariant.active connection isConnection isActive)
  · intro connection isConnection ahead behind split
    rw [outstanding] at split
    rcases List.eq_nil_or_concat behind with rfl | ⟨middle, last, rfl⟩
    · simp
    · rw [List.concat_eq_append, ← List.cons_append, ← List.append_assoc] at split
      rcases List.append_inj' split rfl with ⟨before, isLast⟩
      cases isLast
      have noReset := invariant.queued connection isConnection ahead middle before
      simp [noReset]
  · intro found queued
    rw [outstanding, List.mem_append, List.mem_singleton] at queued
    rcases queued with earlier | new
    · exact invariant.queuedOld found earlier
    · cases new
      exact old

theorem Invariant.runOther {id : Nat} {rest : FunctorQueue ConnectorFunctor}
    (invariant : system.Invariant)
    (allowed : system.connector.Allowed .runFunctor)
    (taken : system.connector.functors.next = some (.other id, rest))
    (outside : system.frames = []) (free : system.LoopFree) :
    ∃ next, forceCloseInLoop
        { system with connector := { system.connector with functors := rest } } id = .ok next ∧
      next.Invariant := by
  rcases allowed with ⟨running, noCalls, _⟩
  have sound := invariant.sound.take taken (by simp) running
  have after := invariant.connector sound
    (.takeQuiet running noCalls taken (.inr ⟨id, rfl⟩)) (.inl ⟨outside, free⟩)
  unfold forceCloseInLoop
  split
  · rename_i isOpen
    have closed : id ∉ system.revived := by
      rw [invariant.closed]
      exact List.not_mem_nil
    have current : system.IsCurrent id := isOpen.resolve_right closed
    refine after.handleCloseOf current outside ⟨?_, noCalls⟩
    rcases current with ⟨connection, isConnection, rfl, -⟩
    have outstanding := FunctorQueue.outstanding_next taken
    exact List.count_eq_zero.mpr
      (invariant.queued connection isConnection [] rest.outstanding outstanding)
  · exact ⟨_, rfl, after⟩

theorem Invariant.step_other {action : ConnectorSystem.Action} (invariant : system.Invariant)
    (allowed : system.connector.Allowed action) (serving : system.Serving (.connector action))
    (kind : action.kind = .other)
    (free : (system.frames = [] ∧ system.LoopFree) ∨
      ∀ connector, system.connector.step action = .ok connector →
        connector.stack = system.connector.stack) :
    ∃ connector, system.connector.step action = .ok connector ∧ Invariant { system with
      connector
      frames := ClientSystem.calledBack system.connector connector ++ system.frames } := by
  have starts : ∀ attempt outcome, action = .resume attempt outcome →
      system.connector.stack.head? = some .startInLoop →
      system.connector.connector.state = .kDisconnected ∧
        system.connector.connector.channel = none ∧ attempt.sockfd ≠ none := by
    rintro attempt outcome rfl top
    rcases invariant.startInLoop top with ⟨idle, noChannel⟩
    exact ⟨idle, noChannel, serving top⟩
  rcases ConnectorSystem.step_succeeds action invariant.sound invariant.handling allowed starts with
    ⟨connector, ran⟩
  have sound := ConnectorSystem.step_sound action invariant.sound allowed ran
  have step := ConnectorSystem.step_view action invariant.sound allowed ran
  rw [kind] at step
  exact ⟨connector, ran,
    invariant.calledBack sound step (free.imp_right fun same => same connector ran)⟩

theorem Invariant.connectorStep {action : ConnectorSystem.Action} (invariant : system.Invariant)
    (allowed : system.connector.Allowed action) (mayStep : system.MayStep action)
    (serving : system.Serving (.connector action)) (orderly : system.Orderly (.connector action)) :
    ∃ next, system.connectorStep action = .ok next ∧ next.Invariant := by
  have other : ∀ {action}, system.connector.Allowed action →
      system.Serving (.connector action) → action.kind = .other →
      ((system.frames = [] ∧ system.LoopFree) ∨
        ∀ connector, system.connector.step action = .ok connector →
          connector.stack = system.connector.stack) →
      action ≠ .runFunctor → ∃ next, system.connectorStep action = .ok next ∧ next.Invariant := by
    intro action allowed serving kind free notFunctor
    rcases invariant.step_other allowed serving kind free with ⟨connector, ran, kept⟩
    refine ⟨_, ?_, kept⟩
    simp only [ClientSystem.connectorStep, ran, Checked.ok_bind]
    split
    · exact absurd rfl notFunctor
    · rfl
  cases action with
  | start _ | stop _ | restart | poll _ | queueOther _ => exact mayStep.elim
  | push thread =>
      refine other allowed serving rfl (.inr ?_) (by simp)
      intro connector ran
      simp only [ConnectorSystem.step] at ran
      split at ran <;> cases ran <;> rfl
  | otherChannel _ _ _ | releaseSocket _ =>
      refine other allowed serving rfl (.inr ?_) (by simp)
      intro connector ran
      cases ran
      rfl
  | resume attempt outcome =>
      exact other allowed serving rfl
        (.inl ⟨invariant.outside_of_inStart mayStep.2, mayStep.1⟩) (by simp)
  | enterLoop | leaveLoop | dispatch | swapFunctors | finishFunctors =>
      exact other allowed serving rfl (.inl ⟨mayStep.2, mayStep.1⟩) (by simp)
  | fireTimer delay =>
      have sound := ConnectorSystem.step_sound (.fireTimer delay) invariant.sound allowed rfl
      have step := ConnectorSystem.step_view (.fireTimer delay) invariant.sound allowed rfl
      have kept := invariant.fireTimer sound step orderly mayStep.1
      refine ⟨_, ?_, kept⟩
      have nothing : ∀ after, ClientSystem.calledBack system.connector after = [] := by
        simp [ClientSystem.calledBack, allowed.2.1]
      simp only [ClientSystem.connectorStep, ConnectorSystem.step, pure_bind, nothing]
      rfl
  | runFunctor =>
      rcases mayStep with ⟨free, outside⟩
      rcases invariant.step_other allowed serving rfl (.inl ⟨outside, free⟩) with
        ⟨connector, ran, kept⟩
      simp only [ClientSystem.connectorStep, ran, Checked.ok_bind]
      split
      · rename_i id rest _ taken
        simp only [ConnectorSystem.step, taken] at ran
        cases ran
        have nothing : ClientSystem.calledBack system.connector
            { system.connector with functors := rest } = [] := calledBack_of_same_stack rfl
        rw [nothing]
        exact invariant.runOther allowed taken outside free
      · exact ⟨_, rfl, kept⟩

theorem step_invariant (action : Action) (invariant : system.Invariant)
    (allowed : system.Allowed action) (serving : system.Serving action)
    (orderly : system.Orderly action) :
    ∃ next, system.step action = .ok next ∧ next.Invariant := by
  cases action with
  | call caller call => exact ⟨_, rfl, invariant.call allowed orderly⟩
  | finishCall caller =>
      simp only [step]
      split
      · rename_i entry found
        have isCaller : entry.1 = caller := by simpa using List.find?_some found
        have kept := invariant.finishCall (List.mem_of_find?_eq_some found)
        rw [isCaller] at kept
        exact ⟨_, rfl, kept⟩
      · exact ⟨_, rfl, invariant⟩
  | enableRetry =>
      exact ⟨_, rfl, { invariant with
        stage := invariant.stage.same_connector rfl rfl }⟩
  | forceClose id => exact ⟨_, rfl, invariant.forceClose allowed⟩
  | beginForceClose thread =>
      simp only [step]
      split
      · exact ⟨_, rfl, invariant.setting _⟩
      · exact ⟨_, rfl, invariant⟩
  | setDisconnecting thread =>
      simp only [step]
      split
      · rename_i entry found
        have isThread : entry.1 = thread := by simpa using List.find?_some found
        have current := orderly entry (List.mem_of_find?_eq_some found) isThread
        exact ⟨_, rfl, (invariant.setting _).setDisconnecting current⟩
      · exact ⟨_, rfl, invariant⟩
  | connector action => exact invariant.connectorStep allowed.1 allowed.2 serving orderly
  | poll reported active =>
      rcases allowed with ⟨mayPoll, free, outside, _⟩
      rcases ConnectorSystem.step_succeeds (.poll reported) invariant.sound invariant.handling
        mayPoll (by simp) with ⟨connector, ran⟩
      have sound := ConnectorSystem.step_sound _ invariant.sound mayPoll ran
      have step := ConnectorSystem.step_view _ invariant.sound mayPoll ran
      have polling : system.connector.phase = .polling := by
        cases reported with
        | none => exact mayPoll
        | some revents => exact mayPoll.1
      have ran : system.connector.poll reported = .ok connector := ran
      simp only [ClientSystem.step, ran, Checked.ok_bind]
      exact ⟨_, rfl, invariant.poll active sound step polling outside free⟩
  | resume => exact invariant.resume allowed.2.1
  | closeEvent =>
      rcases allowed with ⟨_, outside, _, noCalls, active⟩
      rcases Option.ne_none_iff_exists'.mp active with ⟨id, isActive⟩
      simp only [step, isActive]
      exact invariant.closeEvent isActive (orderly id isActive) outside noCalls

theorem initial_invariant (retry : Bool) (poller : EPollPoller) :
    (create retry poller).Invariant := by
  refine .of_idle (ConnectorSystem.initial_sound poller) ?_ ?_ rfl rfl ?_ ?_ ?_ rfl
  · exact .of_outside rfl rfl (fun isHandling => by cases isHandling)
  · exact .of_none rfl (Nat.zero_le _) (fun some => by cases some) (fun some => by cases some)
      (fun connected => by cases connected)
  · exact fun calls => absurd (by simp [LoopFree, create]) calls
  · intro id isActive
    cases isActive
  · intro id queued
    cases queued

theorem orderly_invariant :
    ((machine.restrict Serving).restrict Orderly).Safe ∧
      ∀ system, ((machine.restrict Serving).restrict Orderly).Reachable system →
        system.Invariant := by
  refine Machine.safe_of_invariant Invariant ?_ ?_
  · rintro _ ⟨retry, poller, rfl⟩
    exact initial_invariant retry poller
  · rintro current action invariant ⟨⟨allowed, serving⟩, orderly⟩
    exact step_invariant action invariant allowed serving orderly

/-! ## What the assertions find -/

/-- The next call finds what the functions of the connector assert. -/
structure AssertionsHold (system : ConnectorSystem) : Prop where
  startInLoop : system.stack.head? = some .startInLoop →
    system.connector.state = .kDisconnected
  connecting : system.stack.head? = some .startInLoop → system.connector.channel = none
  handleWrite : ∀ rest, system.stack.head? = some (.handleEvent (.write :: rest)) →
    system.connector.state = .kConnecting ∨ system.connector.state = .kDisconnected

theorem Invariant.assertionsHold (invariant : system.Invariant) :
    AssertionsHold system.connector where
  startInLoop top := (invariant.startInLoop top).1
  connecting top := (invariant.startInLoop top).2
  handleWrite rest top := by
    have called : .handleEvent (.write :: rest) ∈ system.connector.view.handlers := by
      refine List.mem_filter.mpr ⟨List.mem_of_mem_head? top, rfl⟩
    have notConnected := (invariant.handling.callbacks _ called).2 List.mem_cons_self
    have notConnected : system.connector.connector.state ≠ .kConnected := notConnected
    cases state : system.connector.connector.state with
    | kConnecting => exact .inl rfl
    | kDisconnected => exact .inr rfl
    | kConnected => exact absurd state notConnected

/-- Whoever calls what and whatever the network does, no assertion of the connector or the
client fails, as long as the calls and the closing of connections are orderly. -/
theorem orderly_assertions_hold (system : ClientSystem)
    (reachable : ((machine.restrict Serving).restrict Orderly).Reachable system) :
    AssertionsHold system.connector ∧
      ∀ action, ((machine.restrict Serving).restrict Orderly).allowed system action →
        ∃ next, system.step action = .ok next :=
  ⟨(orderly_invariant.2 system reachable).assertionsHold, orderly_invariant.1 system reachable⟩

/-- The steps from the writable event of an attempt to the end of `connectEstablished`, and
the rest of the loop's iteration. -/
def connectionMade : List Action :=
  [.poll (some .kWriteEvent) false, .connector .dispatch, .connector .proceed,
    .connector .proceed, .resume, .resume, .resume, .connector .proceed, .connector .proceed,
    .connector .swapFunctors, .connector .runFunctor, .connector .finishFunctors]

/-- The steps of `handleClose` up to the end of `removeConnection`. -/
def connectionClosed : List Action := [.poll none true, .closeEvent, .resume, .resume, .resume]

/-- The peer closes, and the client connects again. -/
theorem orderly_assertions_hold_reconnecting :
    ∃ system, ((machine.restrict Serving).restrict Orderly).Reachable system ∧
      (system.client.nextConnId = 2 ∧ system.connector.stack = [.startInLoop]) ∧
      system.connector.connector.state = .kDisconnected ∧
      system.connector.connector.channel = none := by
  have run := Machine.exists_reachable ((machine.restrict Serving).restrict Orderly)
    (fun system => system.client.nextConnId = 2 ∧ system.connector.stack = [.startInLoop])
    (idle_initial true)
    ([.call none .connect, .finishCall none,
      .connector (.attempt ⟨some 5, .einprogress, 100⟩), .connector .enterLoop] ++
      connectionMade ++ connectionClosed)
    (by decide +kernel)
  rcases run with ⟨system, reachable, property⟩
  have holds := (orderly_assertions_hold system reachable).1
  have top : system.connector.stack.head? = some .startInLoop := by
    rw [property.2]
    rfl
  exact ⟨system, reachable, property, holds.startInLoop top, holds.connecting top⟩

/-- A step that may come next, and in which an assertion fails. -/
def Fails (system : ClientSystem) (action : Action) : Prop :=
  (machine.restrict Serving).allowed system action ∧
    (system.step action).toOption.isNone = true

instance (system : ClientSystem) (action : Action) : Decidable (system.Fails action) :=
  inferInstanceAs (Decidable (_ ∧ _))

def secondAttempt : Action := .connector (.attempt ⟨some 6, .einprogress, 101⟩)

/-- The three ways in which `startInLoop` fails: `connect` after the connection has been
closed, with `retry_` false; `stop` and `connect` by another thread, both before the loop
runs their functors; and `connect` after `stop`, with the retry timer still set. -/
theorem startInLoop_unready :
    (∃ system, (machine.restrict Serving).Reachable system ∧
      system.connector.stack = [.startInLoop] ∧
      system.connector.connector.state = .kConnected ∧ system.Fails secondAttempt) ∧
    (∃ system, (machine.restrict Serving).Reachable system ∧
      system.connector.stack = [.startInLoop] ∧
      system.connector.connector.state = .kDisconnected ∧
      system.connector.connector.channel ≠ none ∧ system.Fails secondAttempt) ∧
    ∃ system, (machine.restrict Serving).Reachable system ∧
      system.connector.stack = [.startInLoop] ∧
      system.connector.connector.state = .kConnecting ∧ system.Fails secondAttempt := by
  refine ⟨?_, ?_, ?_⟩
  · exact Machine.exists_reachable (machine.restrict Serving) _ (idle_initial false)
      ([.call none .connect, .finishCall none,
        .connector (.attempt ⟨some 5, .einprogress, 100⟩), .connector .enterLoop] ++
        connectionMade ++ connectionClosed ++ [.call none .connect, .finishCall none])
      (by decide +kernel)
  · exact Machine.exists_reachable (machine.restrict Serving) _ (idle_initial false)
      [.call none .connect, .finishCall none,
        .connector (.attempt ⟨some 5, .einprogress, 100⟩), .connector .enterLoop,
        .call (some 7) .stop, .finishCall (some 7), .connector (.push 7),
        .call (some 7) .connect, .finishCall (some 7), .connector (.push 7), .poll none false,
        .connector .swapFunctors, .connector .runFunctor, .connector .proceed,
        .connector .runFunctor]
      (by decide +kernel)
  · exact Machine.exists_reachable (machine.restrict Serving) _ (idle_initial false)
      [.call none .connect, .finishCall none,
        .connector (.attempt ⟨some 5, .econnrefused, 100⟩), .connector .proceed,
        .call none .stop, .finishCall none, .call none .connect, .finishCall none,
        .connector (.attempt ⟨some 5, .einprogress, 100⟩), .connector .enterLoop,
        .poll none false, .connector (.fireTimer 500)]
      (by decide +kernel)

end ClientSystem

end Ccnet.Net
