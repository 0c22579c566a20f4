import Ccnet.Net.Buffer.ReadFd
import Ccnet.Net.Connection.Sending

/-! # Two connections and the wire between them

The two ends of a TCP connection, each in its event loop. What the kernel takes from one end it
delivers to the other in order, at any pace and in pieces of any size. -/

namespace Ccnet.Net

namespace ConnectionSystem

variable {system middle next : ConnectionSystem}

/-! ## What one end does to the wire -/

/-- The input is the same, `send` was not called, and more bytes may have been handed to the
kernel. -/
structure Transmits (before after : ConnectionSystem) : Prop where
  inputBuffer : after.connection.inputBuffer = before.connection.inputBuffer
  issued : after.history.issued = before.history.issued
  accepted : before.history.accepted <+: after.history.accepted

namespace Transmits

theorem refl (system : ConnectionSystem) : Transmits system system := ⟨rfl, rfl, List.prefix_rfl⟩

theorem trans (first : Transmits system middle) (second : Transmits middle next) :
    Transmits system next where
  inputBuffer := second.inputBuffer.trans first.inputBuffer
  issued := second.issued.trans first.issued
  accepted := first.accepted.trans second.accepted

/-- The history is the same. -/
theorem of_eq (input : next.connection.inputBuffer = system.connection.inputBuffer)
    (issued : next.history.issued = system.history.issued)
    (accepted : next.history.accepted = system.history.accepted) : Transmits system next :=
  ⟨input, issued, accepted ▸ List.prefix_rfl⟩

end Transmits

theorem withChannel_transmits
    {operation : Channel → EPollPoller → Checked (Channel × EPollPoller)}
    (ran : system.withChannel operation = .ok next) : Transmits system next := by
  rcases withChannel_ok ran with ⟨channel, poller, _, rfl⟩
  exact .of_eq rfl rfl rfl

theorem pushIf_transmits (system : ConnectionSystem) (due : Bool) (functor : ConnectionFunctor) :
    Transmits system (system.pushIf due functor) := by
  cases due <;> exact .of_eq rfl rfl rfl

theorem bufferRemaining_transmits {remaining : List UInt8}
    (ran : system.bufferRemaining remaining = .ok next) : Transmits system next := by
  unfold bufferRemaining at ran
  rcases Checked.bind_eq_ok_iff.mp ran with ⟨outputBuffer, _, rest⟩
  dsimp only at rest
  split at rest
  · cases rest
    exact .of_eq (by simp) (by simp) (by simp)
  · have enabled := withChannel_transmits rest
    exact ⟨by simpa using enabled.inputBuffer, by simpa using enabled.issued,
      by simpa using enabled.accepted⟩

theorem finishSend_transmits {faultError : Bool} {remaining : List UInt8}
    (ran : system.finishSend faultError remaining = .ok next) : Transmits system next := by
  unfold finishSend at ran
  split at ran
  · exact bufferRemaining_transmits ran
  · cases ran
    exact .refl _

theorem sendInLoop_transmits {sender : Caller} {data : List UInt8} {result : WriteResult}
    (ran : system.sendInLoop sender data result = .ok next) : Transmits system next := by
  unfold sendInLoop at ran
  split at ran
  · cases ran
    exact .of_eq rfl rfl rfl
  · rw [Checked.check_bind_of (by simp)] at ran
    rcases Checked.bind_eq_ok_iff.mp ran with ⟨finished, finishedRan, recorded⟩
    cases recorded
    have kept := (pushIf_transmits _ _ _).trans (finishSend_transmits finishedRan)
    exact ⟨kept.inputBuffer, kept.issued, (List.prefix_append _ _).trans kept.accepted⟩

theorem shutdownInLoop_transmits (system : ConnectionSystem) :
    Transmits system system.shutdownInLoop := by
  unfold shutdownInLoop
  split <;> exact .of_eq rfl rfl rfl

theorem startReadInLoop_transmits (ran : system.startReadInLoop = .ok next) :
    Transmits system next := by
  unfold startReadInLoop at ran
  split at ran
  · rcases Checked.bind_eq_ok_iff.mp ran with ⟨enabled, enabledRan, result⟩
    cases result
    have kept := withChannel_transmits enabledRan
    exact { kept with }
  · cases ran
    exact .refl _

theorem stopReadInLoop_transmits (ran : system.stopReadInLoop = .ok next) :
    Transmits system next := by
  unfold stopReadInLoop at ran
  split at ran
  · rcases Checked.bind_eq_ok_iff.mp ran with ⟨disabled, disabledRan, result⟩
    cases result
    have kept := withChannel_transmits disabledRan
    exact { kept with }
  · cases ran
    exact .refl _

theorem runFunctor_transmits {functor : ConnectionFunctor} {result : WriteResult}
    (ran : system.runFunctor functor result = .ok next) : Transmits system next := by
  cases functor with
  | sendInLoop sender message => exact sendInLoop_transmits ran
  | shutdownInLoop =>
      cases ran
      exact shutdownInLoop_transmits system
  | forceCloseInLoop =>
      cases ran
      unfold forceCloseInLoop
      split <;> exact .of_eq rfl rfl rfl
  | startReadInLoop => exact startReadInLoop_transmits ran
  | stopReadInLoop => exact stopReadInLoop_transmits ran
  | connectDestroyed | writeCompleteCallback | highWaterMarkCallback size =>
      cases ran
      exact .of_eq rfl rfl rfl

theorem queueInLoop_transmits (system : ConnectionSystem) (caller : Caller)
    (functor : ConnectionFunctor) : Transmits system (system.queueInLoop caller functor) := by
  cases caller <;> exact .of_eq rfl rfl rfl

theorem runInLoop_transmits {caller : Caller} {functor : ConnectionFunctor}
    {result : WriteResult} (ran : system.runInLoop caller functor result = .ok next) :
    Transmits system next := by
  cases caller with
  | none => exact runFunctor_transmits ran
  | some thread =>
      cases ran
      exact queueInLoop_transmits system _ _

/-- A call of `send`, which passes the message on if the connection is up. -/
theorem send_transmits {caller : Caller} {message : List UInt8} {result : WriteResult}
    (ran : system.step (.call caller (.send message) result) = .ok next) :
    Transmits { system with history := { system.history with
      issued := if system.connection.state = .kConnected then
        system.history.issued ++ [(caller, message)] else system.history.issued } } next := by
  simp only [step, send] at ran
  split at ran
  · rename_i connected
    rw [if_pos connected]
    exact runInLoop_transmits ran
  · rename_i notConnected
    cases ran
    rw [if_neg notConnected]
    exact .refl _

theorem call_transmits {caller : Caller} {call : Call} {result : WriteResult}
    (ran : system.step (.call caller call result) = .ok next)
    (notSend : ∀ message, call ≠ .send message) : Transmits system next := by
  cases call with
  | send message => exact absurd rfl (notSend message)
  | shutdown =>
      simp only [step, shutdown] at ran
      split at ran
      · cases caller with
        | none =>
            have kept := runInLoop_transmits ran
            exact { kept with }
        | some thread =>
            cases ran
            exact .of_eq rfl rfl rfl
      · cases ran
        exact .refl _
  | forceClose =>
      cases ran
      unfold forceClose
      split
      · cases caller <;> exact .of_eq rfl rfl rfl
      · exact .refl _
  | forceCloseWithDelay =>
      cases ran
      unfold forceCloseWithDelay
      split
      · cases caller <;> exact .of_eq rfl rfl rfl
      · exact .refl _
  | startRead | stopRead => exact runInLoop_transmits ran

theorem handleWrite_transmits {below : List Frame} {result : WriteResult}
    (ran : system.handleWrite below result = .ok next) : Transmits system next := by
  unfold handleWrite at ran
  split at ran
  · rcases Checked.bind_eq_ok_iff.mp ran with ⟨outputBuffer, _, rest⟩
    dsimp only at rest
    split at rest
    · rcases Checked.bind_eq_ok_iff.mp rest with ⟨drained, disabled, result⟩
      have kept := withChannel_transmits disabled
      have written : Transmits system drained :=
        ⟨kept.inputBuffer, kept.issued, (List.prefix_append _ _).trans kept.accepted⟩
      have notified := written.trans
        (pushIf_transmits drained drained.connection.writeCompleteCallback .writeCompleteCallback)
      split at result
      · cases result
        exact notified.trans (shutdownInLoop_transmits _)
      · cases result
        exact notified
    · cases rest
      exact ⟨rfl, rfl, List.prefix_append _ _⟩
  · cases ran
    exact .of_eq rfl rfl rfl

theorem disconnect_transmits {below : List Frame} (ran : system.disconnect below = .ok next) :
    Transmits system next := by
  rcases Checked.bind_eq_ok_iff.mp ran with ⟨disabled, disabledRan, result⟩
  cases result
  have kept := withChannel_transmits disabledRan
  exact { kept with }

theorem connectEstablished_transmits {below : List Frame}
    (ran : system.connectEstablished below = .ok next) : Transmits system next := by
  rcases Checked.check_bind_eq_ok_iff.mp ran with ⟨_, rest⟩
  rcases Checked.bind_eq_ok_iff.mp rest with ⟨enabled, enabledRan, result⟩
  cases result
  have kept := withChannel_transmits enabledRan
  exact { kept with }

theorem channelRemove_transmits {below : List Frame}
    (ran : system.channelRemove below = .ok next) : Transmits system next := by
  rcases Checked.check_bind_eq_ok_iff.mp ran with ⟨_, rest⟩
  rcases Checked.bind_eq_ok_iff.mp rest with ⟨removed, removedRan, result⟩
  cases result
  rcases Checked.check_bind_eq_ok_iff.mp removedRan with ⟨_, polled⟩
  rcases Checked.bind_eq_ok_iff.mp polled with ⟨⟨channel, poller⟩, _, removal⟩
  cases removal
  exact .of_eq rfl rfl rfl

/-- Neither a call of the user nor a step that changes the input. -/
def Action.isInternal : Action → Bool
  | .call _ _ _ | .retrieveInput _ | .handleRead _ => false
  | .setDisconnecting _ | .push _ | .poll _ | .dispatch | .endEvents | .swapFunctors
  | .runFunctor _ | .connectEstablished | .returnCallback | .nextCallback | .finishEvent
  | .handleWrite _ | .handleClose | .closeCallback | .connectDestroyed | .destroyConnected
  | .channelRemove | .removeConnectionInLoop | .destroyServer _ => true

theorem step_transmits {action : Action} (isInternal : action.isInternal = true)
    (ran : system.step action = .ok next) : Transmits system next := by
  cases action with
  | call _ _ _ | retrieveInput _ | handleRead _ => cases isInternal
  | handleWrite result => exact handleWrite_transmits ran
  | connectEstablished => exact connectEstablished_transmits ran
  | channelRemove => exact channelRemove_transmits ran
  | handleClose => exact disconnect_transmits (Checked.check_bind_eq_ok_iff.mp ran).2
  | connectDestroyed =>
      cases ran
      unfold connectDestroyed
      split <;> exact .of_eq rfl rfl rfl
  | destroyConnected => exact disconnect_transmits ran
  | setDisconnecting thread =>
      cases ran
      unfold setDisconnecting
      split <;> exact .of_eq rfl rfl rfl
  | closeCallback =>
      simp only [step, closeCallback] at ran
      split at ran
      · cases ran
        exact .of_eq rfl rfl rfl
      · cases ran
  | push thread =>
      simp only [step] at ran
      split at ran
      · cases ran
        exact .of_eq rfl rfl rfl
      · cases ran
        exact .refl _
  | runFunctor result =>
      simp only [step] at ran
      split at ran
      · have kept := runFunctor_transmits ran
        exact { kept with }
      · cases ran
        exact .refl _
  | nextCallback =>
      simp only [step] at ran
      split at ran
      · rename_i callback rest _
        cases ran
        cases callback <;> exact .of_eq rfl rfl rfl
      · cases ran
        exact .refl _
  | poll reported =>
      cases reported with
      | none =>
          cases ran
          exact .of_eq rfl rfl rfl
      | some revents =>
          rcases Checked.check_bind_eq_ok_iff.mp ran with ⟨_, rest⟩
          rcases Checked.check_bind_eq_ok_iff.mp rest with ⟨_, result⟩
          cases result
          exact .of_eq rfl rfl rfl
  | destroyServer inLoopThread =>
      cases ran
      unfold destroyServer
      split
      · split <;> exact .of_eq rfl rfl rfl
      · exact .of_eq rfl rfl rfl
  | dispatch | endEvents | swapFunctors | returnCallback | finishEvent
  | removeConnectionInLoop =>
      cases ran
      exact .of_eq rfl rfl rfl

/-- What a `read` takes off the wire. -/
def Action.received : Action → List UInt8
  | .handleRead (.ok data) => data
  | _ => []

/-- How much user code takes out of the input buffer. -/
def Action.retrievedBytes : Action → Nat
  | .retrieveInput len => len
  | _ => 0

theorem step_transfer {action : Action} (allowed : system.Allowed action)
    (wellFormed : system.connection.inputBuffer.WellFormed)
    (ran : system.step action = .ok next) :
    system.history.accepted <+: next.history.accepted ∧
    next.connection.inputBuffer.WellFormed ∧
    system.connection.inputBuffer.content ++ action.received =
      system.connection.inputBuffer.content.take action.retrievedBytes ++
        next.connection.inputBuffer.content := by
  have transmitting : system.history.accepted <+: next.history.accepted →
      next.connection.inputBuffer = system.connection.inputBuffer → action.received = [] →
      action.retrievedBytes = 0 → system.history.accepted <+: next.history.accepted ∧
      next.connection.inputBuffer.WellFormed ∧
      system.connection.inputBuffer.content ++ action.received =
        system.connection.inputBuffer.content.take action.retrievedBytes ++
          next.connection.inputBuffer.content := by
    intro accepted inputBuffer nothing none
    rw [inputBuffer, nothing, none]
    exact ⟨accepted, wellFormed, by simp⟩
  cases action with
  | call caller call result =>
      cases call with
      | send message =>
          have kept := send_transmits ran
          exact transmitting kept.accepted kept.inputBuffer rfl rfl
      | shutdown | forceClose | forceCloseWithDelay | startRead | stopRead =>
          have kept := call_transmits ran nofun
          exact transmitting kept.accepted kept.inputBuffer rfl rfl
  | retrieveInput len =>
      rcases Buffer.retrieve_ok wellFormed allowed.2.2 with ⟨inputBuffer, retrieved, kept, content⟩
      rcases Checked.bind_eq_ok_iff.mp ran with ⟨found, isFound, result⟩
      rw [retrieved] at isFound
      cases isFound
      cases result
      refine ⟨List.prefix_rfl, kept, ?_⟩
      simp [Action.received, Action.retrievedBytes, content]
  | handleRead result =>
      simp only [step, handleRead] at ran
      split at ran
      · cases ran
        exact transmitting List.prefix_rfl rfl rfl rfl
      · rename_i data _
        rcases Buffer.readFd_ok wellFormed data with ⟨inputBuffer, filled, kept, content⟩
        rw [filled, Checked.ok_bind] at ran
        cases ran
        exact ⟨List.prefix_rfl, kept, by simp [Action.received, Action.retrievedBytes, content]⟩
      · cases ran
        exact transmitting List.prefix_rfl rfl rfl rfl
  | setDisconnecting _ | push _ | poll _ | dispatch | endEvents | swapFunctors | runFunctor _
  | connectEstablished | returnCallback | nextCallback | finishEvent | handleWrite _
  | handleClose | closeCallback | connectDestroyed | destroyConnected | channelRemove
  | removeConnectionInLoop | destroyServer _ =>
      have kept := step_transmits rfl ran
      exact transmitting kept.accepted kept.inputBuffer rfl rfl

end ConnectionSystem

/-! ## The link -/

inductive Side
  | near
  | far
  deriving DecidableEq, Repr

namespace Side

def peer : Side → Side
  | .near => .far
  | .far => .near

@[simp] theorem peer_peer (side : Side) : side.peer.peer = side := by
  cases side <;> rfl

theorem peer_ne (side : Side) : side.peer ≠ side := by
  cases side <;> nofun

end Side

/-- One end: the bytes on their way to it, and those that user code has taken out of its input
buffer. -/
structure LinkEnd where
  system : ConnectionSystem
  arriving : List UInt8
  retrieved : List UInt8

structure Link where
  ends : Side → LinkEnd

namespace Link

open ConnectionSystem (Action)

/-- A step of one end. What its kernel has taken is on its way to the other. -/
def step (link : Link) (move : Side × Action) : Checked Link := do
  let side := move.1
  let here := link.ends side
  let there := link.ends side.peer
  let system ← here.system.step move.2
  let sent := system.history.accepted.drop here.system.history.accepted.length
  let moved : LinkEnd := {
    system
    arriving := here.arriving.drop move.2.received.length
    retrieved := here.retrieved ++
      here.system.connection.inputBuffer.content.take move.2.retrievedBytes }
  let reached : LinkEnd := { there with arriving := there.arriving ++ sent }
  return { ends := Function.update (Function.update link.ends side moved) side.peer reached }

/-- A `read` delivers the first of the bytes that are on their way. -/
def Allowed (link : Link) (move : Side × Action) : Prop :=
  (link.ends move.1).system.Allowed move.2 ∧ move.2.received <+: (link.ends move.1).arriving

def machine : Machine Link (Side × Action) where
  initial link := ∀ side, (link.ends side).system.Initial ∧ (link.ends side).arriving = [] ∧
    (link.ends side).retrieved = []
  allowed := Allowed
  step := step

instance (link : Link) (move : Side × Action) : Decidable (machine.allowed link move) :=
  inferInstanceAs (Decidable (_ ∧ _))

variable {link next : Link}

/-- What the end at `side` has handed to its kernel has arrived at the other, or will. -/
structure Joined (link : Link) (side : Side) : Prop where
  reachable : ConnectionSystem.machine.Reachable (link.ends side).system
  wellFormed : (link.ends side).system.connection.inputBuffer.WellFormed
  wire : (link.ends side.peer).retrieved ++
      (link.ends side.peer).system.connection.inputBuffer.content ++
      (link.ends side.peer).arriving =
    (link.ends side).system.history.accepted

/-- A step of one end, in terms of the two ends. -/
theorem step_ok {side : Side} {action : Action} (ran : link.step (side, action) = .ok next) :
    ∃ system, (link.ends side).system.step action = .ok system ∧
      next.ends side = {
        system
        arriving := (link.ends side).arriving.drop action.received.length
        retrieved := (link.ends side).retrieved ++
          (link.ends side).system.connection.inputBuffer.content.take action.retrievedBytes } ∧
      next.ends side.peer = { link.ends side.peer with
        arriving := (link.ends side.peer).arriving ++
          system.history.accepted.drop (link.ends side).system.history.accepted.length } := by
  rcases Checked.bind_eq_ok_iff.mp ran with ⟨system, stepped, result⟩
  cases result
  refine ⟨system, stepped, ?_, Function.update_self _ _ _⟩
  dsimp only
  rw [Function.update_of_ne side.peer_ne.symm, Function.update_self]

theorem Joined.step (joined : ∀ side, link.Joined side) {move : Side × Action}
    (allowed : link.Allowed move) (ran : link.step move = .ok next) (side : Side) :
    next.Joined side := by
  rcases move with ⟨mover, action⟩
  rcases step_ok ran with ⟨system, stepped, here, there⟩
  rcases ConnectionSystem.step_transfer allowed.1 (joined mover).wellFormed stepped with
    ⟨⟨sent, accepted⟩, wellFormed, input⟩
  rcases allowed.2 with ⟨later, arriving⟩
  by_cases same : side = mover
  · subst same
    constructor
    · rw [here]
      exact (joined side).reachable.step allowed.1 stepped
    · rw [here]
      exact wellFormed
    · have wire := (joined side).wire
      rw [here, there, ← accepted, List.drop_left, ← wire]
      simp
  · have moved : side = mover.peer := by
      cases side <;> cases mover <;> first | rfl | exact absurd rfl same
    subst moved
    constructor
    · rw [there]
      exact (joined mover.peer).reachable
    · rw [there]
      exact (joined mover.peer).wellFormed
    · have wire := (joined mover.peer).wire
      rw [Side.peer_peer] at wire ⊢
      rw [here, there]
      dsimp only
      rw [← arriving] at wire ⊢
      rw [List.drop_left, ← wire]
      simp only [List.append_assoc]
      rw [← List.append_assoc _ _ later, ← input, List.append_assoc]

theorem reachable_joined (reachable : machine.Reachable link) (side : Side) :
    link.Joined side := by
  refine reachable.invariant (fun link => ∀ side, link.Joined side) ?_ ?_ side
  · intro first initial side
    rcases initial side with ⟨starts, _, _⟩
    rcases initial side.peer with ⟨peerStarts, arriving, retrieved⟩
    refine ⟨.initial starts, ?_, ?_⟩
    · rcases starts with ⟨_, _, _, _, _, buffer, _, created, _, _, isSystem⟩
      rw [isSystem]
      exact (Buffer.create_wellFormed created).1
    · rw [arriving, retrieved]
      rcases starts with ⟨_, _, _, _, _, _, _, _, _, _, isSystem⟩
      rcases peerStarts with ⟨_, _, _, _, _, buffer, _, created, _, _, isPeer⟩
      rw [isSystem, isPeer]
      simpa [ConnectionSystem.create] using (Buffer.create_wellFormed created).2
  · intro current move after joined allowed ran
    exact Joined.step joined allowed ran

theorem Joined.stream {side : Side} (joined : link.Joined side) :
    (link.ends side.peer).retrieved ++
      (link.ends side.peer).system.connection.inputBuffer.content ++
      (link.ends side.peer).arriving ++
      (link.ends side).system.connection.outputBuffer.content =
    takenBytes (link.ends side).system.history.sends := by
  have bytes := (ConnectionSystem.streaming_of_reachable joined.reachable).bytes
  rw [joined.wire]
  exact bytes.stream

/-- Whatever the two loops and all threads do, and however the network cuts and delays: what
user code at one end has read, with what waits in the input buffer there, on the wire and in the
output buffer here, is what was sent here, each byte once and in order. -/
theorem bytes_arrive_in_order (reachable : machine.Reachable link) (side : Side) :
    (link.ends side.peer).retrieved ++
      (link.ends side.peer).system.connection.inputBuffer.content ++
      (link.ends side.peer).arriving ++
      (link.ends side).system.connection.outputBuffer.content =
    takenBytes (link.ends side).system.history.sends :=
  (reachable_joined reachable side).stream

/-- Five bytes are sent of which the kernel takes three; the other end has read two of them and
user code there has taken one. -/
theorem bytes_arrive_in_order_partly :
    ∃ link : Link, machine.Reachable link ∧ (link.ends .far).retrieved = [1] ∧
      [1] ++ (link.ends .far).system.connection.inputBuffer.content ++
        (link.ends .far).arriving ++ (link.ends .near).system.connection.outputBuffer.content =
      takenBytes (link.ends .near).system.history.sends := by
  have run := machine.exists_reachable
    (fun link => (link.ends .far).retrieved = [1] ∧ (link.ends .far).arriving = [3])
    (show machine.initial ⟨fun _ => ⟨.lone, [], []⟩⟩ from
      fun _ => ⟨ConnectionSystem.lone_initial, rfl, rfl⟩)
    [(.near, .connectEstablished), (.near, .returnCallback), (.far, .connectEstablished),
      (.near, .call none (.send [1, 2, 3, 4, 5]) (.wrote 3)), (.far, .returnCallback),
      (.far, .poll (some { PollEvents.kNoneEvent with pollIn := true })), (.far, .dispatch),
      (.far, .nextCallback), (.far, .handleRead (.ok [1, 2])), (.far, .retrieveInput 1)]
    (by decide +kernel)
  rcases run with ⟨link, reachable, retrieved, _⟩
  have inOrder := bytes_arrive_in_order reachable .near
  rw [show (link.ends (Side.peer .near)).retrieved = [1] from retrieved] at inOrder
  exact ⟨link, reachable, retrieved, inOrder⟩

end Link

end Ccnet.Net
