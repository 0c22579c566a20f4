import Ccnet.Net.Connection.FlowControl
import Ccnet.Net.Connection.Link
import Ccnet.Net.Connection.Shutdown

/-! # The echo server

`net/tests/echo_server.cc` at the far end of a link: its message callback sends back all that the
input buffer holds, and its connection callback only prints. The client is any user of the
library. -/

namespace Ccnet.Net

namespace ConnectionSystem

variable {system next : ConnectionSystem}

/-- A message was dropped because the write failed with `EPIPE` or `ECONNRESET`. -/
def hasFaulted (system : ConnectionSystem) : Bool :=
  system.history.sends.any fun record => record.fate = .faulted

/-- What the loop does by itself when the only user code is a message callback. A socket on
which a write has failed takes no more bytes. -/
def LibraryCode (system : ConnectionSystem) : Action → Prop
  | .call _ _ _ | .retrieveInput _ => False
  | .returnCallback => system.stack.head? ≠ some .messageCallback
  | .handleWrite result => system.hasFaulted = true → result.count = 0
  | _ => True

instance (system : ConnectionSystem) : (action : Action) → Decidable (system.LibraryCode action)
  | .call _ _ _ | .retrieveInput _ => inferInstanceAs (Decidable False)
  | .returnCallback => inferInstanceAs (Decidable (_ ≠ _))
  | .handleWrite _ => inferInstanceAs (Decidable (_ → _))
  | .setDisconnecting _ | .push _ | .poll _ | .dispatch | .endEvents | .swapFunctors
  | .runFunctor _ | .connectEstablished | .nextCallback | .finishEvent | .handleRead _
  | .handleClose | .closeCallback | .connectDestroyed | .destroyConnected | .channelRemove
  | .removeConnectionInLoop | .destroyServer _ => inferInstanceAs (Decidable True)

end ConnectionSystem

namespace Link

open ConnectionSystem (Action)

inductive EchoAction
  | client (action : Action)
  | server (action : Action)
  | onMessage (result : WriteResult)

/-- `EchoServer::onMessage`, with what the write in `send` returns. -/
def onMessage (link : Link) (result : WriteResult) : Checked Link := do
  let buf := (link.ends .far).system.connection.inputBuffer
  let retrieved ← link.step (.far, .retrieveInput buf.readableBytes)
  let sent ← retrieved.step (.far, .call none (.send buf.content) result)
  sent.step (.far, .returnCallback)

def EchoAllowed (link : Link) : EchoAction → Prop
  | .client action => link.Allowed (.near, action)
  | .server action => link.Allowed (.far, action) ∧ (link.ends .far).system.LibraryCode action
  | .onMessage result => (link.ends .far).system.removed = false ∧
      (link.ends .far).system.stack.head? = some .messageCallback ∧
      result.count ≤ (link.ends .far).system.connection.inputBuffer.readableBytes ∧
      ((link.ends .far).system.hasFaulted = true → result.count = 0)

def echoStep (link : Link) : EchoAction → Checked Link
  | .client action => link.step (.near, action)
  | .server action => link.step (.far, action)
  | .onMessage result => link.onMessage result

def echoMachine : Machine Link EchoAction where
  initial := machine.initial
  allowed := EchoAllowed
  step := echoStep

instance (link : Link) : (action : EchoAction) → Decidable (echoMachine.allowed link action)
  | .client action => inferInstanceAs (Decidable (machine.allowed link (.near, action)))
  | .server action => inferInstanceAs (Decidable (machine.allowed link (.far, action) ∧ _))
  | .onMessage _ => inferInstanceAs (Decidable (_ ∧ _))

end Link

/-- A connection that is not yet closing was not closing before. -/
theorem Control.Step.fresh {before after : Control} {label : Control.Label}
    (stepped : before.Step label after)
    (fresh : after.state = .kConnected ∨ after.state = .kConnecting) :
    before.state = .kConnecting ∨ before.state = after.state := by
  cases stepped with
  | same | pollOthers | poll | dispatch | endEvents | forceClose | destroyLater | destroyServer
  | finish | readNothing | readData | closeCallback | beginSetting | connectDestroyed
  | connectDestroyedLate | channelRemove => exact .inr rfl
  | disconnecting | setDisconnecting => rcases fresh with connected | connecting <;> contradiction
  | enableWriting _ updated | startRead updated | stopRead updated
  | disableWriting _ _ updated =>
      rcases updated with ⟨_, _, _, _, _, rfl⟩
      exact .inr rfl
  | connectEstablished _ connecting _ => exact .inl connecting
  | nextCallback =>
      rename_i callback rest below _
      cases callback <;> exact .inr rfl
  | handleClose _ _ disconnected | destroyConnected _ disconnected =>
      rcases disconnected with ⟨_, ⟨_, _, _, _, _, rfl⟩, rfl⟩
      rcases fresh with connected | connecting <;> contradiction

namespace ConnectionSystem

variable {system next : ConnectionSystem}

/-! ## Steps of the library -/

/-- No message is queued or about to be, and no other thread is inside a call. -/
structure Unsent (system : ConnectionSystem) : Prop where
  silent : ∀ functor ∈ system.functors.outstanding, functor.Silent
  free : ∀ thread, system.MayCall (some thread)

/-- The messages are as they were, and a socket that has failed has taken nothing. -/
structure Quietly (before after : ConnectionSystem) : Prop where
  unsent : after.Unsent
  sends : after.history.sends = before.history.sends
  accepted : before.hasFaulted = true → after.history.accepted = before.history.accepted

theorem Unsent.of_notified (unsent : system.Unsent)
    {notes : List ConnectionFunctor} (silent : ∀ note ∈ notes, note.Silent)
    (outstanding : next.functors.outstanding = system.functors.outstanding ++ notes)
    (pushing : next.pushing = system.pushing) (setting : next.setting = system.setting) :
    next.Unsent where
  silent functor member := by
    rw [outstanding] at member
    exact (List.mem_append.mp member).elim (unsent.silent functor) (silent functor)
  free thread := by
    unfold MayCall
    rw [pushing, setting]
    exact unsent.free thread

theorem Unsent.quietly_of_notified (unsent : system.Unsent)
    (notified : system.orderView.Notified next.orderView)
    (accepted : system.hasFaulted = true → next.history.accepted = system.history.accepted) :
    Quietly system next := by
  rcases notified with ⟨notes, silent, order⟩
  have outstanding := congrArg OrderView.outstanding order
  have pushing := congrArg OrderView.pushing order
  have setting := congrArg OrderView.setting order
  exact ⟨unsent.of_notified silent outstanding pushing setting, congrArg OrderView.sends order,
    accepted⟩

theorem Unsent.quietly_of_views (unsent : system.Unsent)
    (order : next.orderView = system.orderView)
    (accepted : next.history.accepted = system.history.accepted) : Quietly system next :=
  unsent.quietly_of_notified ⟨[], nofun, by rw [order, List.append_nil]⟩ fun _ => accepted

theorem withChannel_accepted
    {operation : Channel → EPollPoller → Checked (Channel × EPollPoller)}
    (ran : system.withChannel operation = .ok next) :
    next.history.accepted = system.history.accepted := by
  rcases withChannel_ok ran with ⟨channel, poller, _, rfl⟩
  rfl

theorem Unsent.disconnect (unsent : system.Unsent) {below : List Frame}
    (ran : system.disconnect below = .ok next) : Quietly system next := by
  rcases Checked.bind_eq_ok_iff.mp ran with ⟨disabled, disabledRan, result⟩
  cases result
  have order := withChannel_orderView disabledRan
  have accepted := withChannel_accepted disabledRan
  exact unsent.quietly_of_views order accepted

theorem Unsent.runFunctor (unsent : system.Unsent) {functor : ConnectionFunctor}
    {result : WriteResult} (silent : functor.Silent)
    (ran : system.runFunctor functor result = .ok next) : Quietly system next := by
  by_cases isShutdown : functor = .shutdownInLoop
  · subst isShutdown
    cases ran
    unfold shutdownInLoop
    split <;> exact unsent.quietly_of_views rfl rfl
  · have view := runFunctor_unrelated ⟨silent, isShutdown⟩ ran
    exact unsent.quietly_of_views (congrArg SendingView.toOrderView view)
      (congrArg SendingView.accepted view)

theorem Unsent.handleWrite (unsent : system.Unsent) {below : List Frame} {result : WriteResult}
    (stuck : system.hasFaulted = true → result.count = 0)
    (ran : system.handleWrite below result = .ok next) : Quietly system next := by
  refine unsent.quietly_of_notified (handleWrite_notified ran) ?_
  intro faulted
  unfold ConnectionSystem.handleWrite at ran
  rw [if_neg (by simp [stuck faulted])] at ran
  cases ran
  rfl

theorem Unsent.step (unsent : system.Unsent) {action : Action} (allowed : system.Allowed action)
    (library : system.LibraryCode action) (ran : system.step action = .ok next) :
    Quietly system next := by
  cases action with
  | call caller call result => exact library.elim
  | setDisconnecting thread => exact absurd (unsent.free thread).2 allowed.2
  | push thread => exact absurd (unsent.free thread).1 allowed.2
  | runFunctor result =>
      simp only [ConnectionSystem.step] at ran
      split at ran
      · rename_i functor rest taken
        have first : system.functors.outstanding = functor :: rest.outstanding :=
          FunctorQueue.outstanding_next taken
        have silent : ∀ other ∈ functor :: rest.outstanding, other.Silent :=
          first ▸ unsent.silent
        have left : Unsent { system with functors := rest } :=
          ⟨fun other member => silent other (List.mem_cons_of_mem _ member), unsent.free⟩
        have quietly := left.runFunctor (silent functor List.mem_cons_self) ran
        exact ⟨quietly.unsent, quietly.sends, quietly.accepted⟩
      · cases ran
        exact unsent.quietly_of_views rfl rfl
  | connectEstablished =>
      rcases Checked.check_bind_eq_ok_iff.mp ran with ⟨_, rest⟩
      rcases Checked.bind_eq_ok_iff.mp rest with ⟨enabled, enabledRan, result⟩
      cases result
      have order := withChannel_orderView enabledRan
      have accepted := withChannel_accepted enabledRan
      exact unsent.quietly_of_views order accepted
  | handleWrite result => exact unsent.handleWrite library ran
  | handleClose => exact unsent.disconnect (Checked.check_bind_eq_ok_iff.mp ran).2
  | destroyConnected => exact unsent.disconnect ran
  | removeConnectionInLoop =>
      cases ran
      exact unsent.quietly_of_notified (pushIf_notified (fun _ => rfl) true) fun _ => rfl
  | destroyServer inLoopThread =>
      cases ran
      unfold destroyServer
      split
      · split
        · exact unsent.quietly_of_views rfl rfl
        · exact unsent.quietly_of_notified (pushIf_notified (fun _ => rfl) true) fun _ => rfl
      · exact unsent.quietly_of_views rfl rfl
  | retrieveInput _ | poll _ | dispatch | endEvents | swapFunctors | returnCallback
  | nextCallback | finishEvent | handleRead _ | closeCallback | connectDestroyed
  | channelRemove =>
      rcases step_views rfl allowed ran with ⟨stream, order⟩
      exact unsent.quietly_of_views order (congrArg StreamView.accepted stream)

/-! ## One message -/

/-- A message that `sendInLoop` drops is one of which the kernel has taken nothing. -/
theorem sendInLoop_sends {sender : Caller} {data : List UInt8} {result : WriteResult}
    (isOpen : system.connection.state ≠ .kDisconnected)
    (ran : system.sendInLoop sender data result = .ok next) :
    ∃ fate, (fate = SendFate.taken ∨ fate = .faulted ∧ result.count = 0) ∧
      next.history.sends = system.history.sends ++ [⟨sender, data, fate⟩] := by
  unfold sendInLoop at ran
  rw [if_neg isOpen, Checked.check_bind_of (by simp)] at ran
  rcases Checked.bind_eq_ok_iff.mp ran with ⟨finished, finishedRan, recorded⟩
  cases recorded
  rcases (pushIf_notified (fun _ => rfl) _).trans (finishSend_notified finishedRan) with
    ⟨notes, _, order⟩
  have sends : finished.history.sends = system.history.sends := congrArg OrderView.sends order
  have recorded : ∀ fate, (finished.recordSend sender data fate).history.sends =
      finished.history.sends ++ [⟨sender, data, fate⟩] := fun _ => rfl
  refine ⟨_, ?_, by rw [recorded, sends]⟩
  split
  · rename_i faulted
    rw [Bool.and_eq_true] at faulted
    exact .inr ⟨rfl, WriteResult.count_of_isFault faulted.2⟩
  · exact .inl rfl

theorem sendInLoop_accepted {sender : Caller} {data : List UInt8} {result : WriteResult}
    (nothing : result.count = 0) (ran : system.sendInLoop sender data result = .ok next) :
    next.history.accepted = system.history.accepted := by
  unfold sendInLoop at ran
  split at ran
  · cases ran
    rfl
  · rw [Checked.check_bind_of (by simp)] at ran
    rcases Checked.bind_eq_ok_iff.mp ran with ⟨finished, finishedRan, recorded⟩
    cases recorded
    rcases finishSend_sendingView finishedRan with ⟨notes, _, view⟩
    have accepted : finished.history.accepted = _ := congrArg SendingView.accepted view
    refine accepted.trans ?_
    simp [sendingView, accept, nothing]

/-! ## The stream that goes back -/

/-- What the kernel has taken is the beginning of what the message callback has seen. As long
as no write has failed so is what is still to be written, and while the connection is up that is
all. -/
structure Echoes (system : ConnectionSystem) (retrieved : List UInt8) : Prop where
  unsent : system.Unsent
  early : system.connection.state = .kConnecting → retrieved = [] ∧ system.history.sends = []
  accepted : system.history.accepted <+: retrieved
  taken : system.hasFaulted = false → takenBytes system.history.sends <+: retrieved
  whole : system.hasFaulted = false → system.connection.state = .kConnected →
    takenBytes system.history.sends = retrieved

namespace Echoes

variable {retrieved message : List UInt8}

theorem step (echoes : system.Echoes retrieved) {action : Action}
    (allowed : system.Allowed action) (library : system.LibraryCode action)
    (bytes : ByteStream False next.streamView) (ran : system.step action = .ok next) :
    next.Echoes retrieved := by
  have quietly := echoes.unsent.step allowed library ran
  have sends := quietly.sends
  have sameFault : next.hasFaulted = system.hasFaulted := by
    rw [hasFaulted, hasFaulted, sends]
  have fresh := (step_control allowed ran).fresh
  refine ⟨quietly.unsent, ?_, ?_, ?_, ?_⟩
  · intro connecting
    rw [sends]
    rcases fresh (.inr connecting) with before | same
    · exact echoes.early before
    · exact echoes.early (same.trans connecting)
  · cases faulted : system.hasFaulted with
    | true =>
        rw [quietly.accepted faulted]
        exact echoes.accepted
    | false =>
        have written : next.history.accepted <+: takenBytes next.history.sends :=
          ⟨_, bytes.stream⟩
        rw [sends] at written
        exact written.trans (echoes.taken faulted)
  · intro noFault
    rw [sends]
    exact echoes.taken (sameFault ▸ noFault)
  · intro noFault connected
    rw [sends]
    rcases fresh (.inl connected) with before | same
    · rcases echoes.early before with ⟨nothing, none⟩
      rw [nothing, none]
      rfl
    · exact echoes.whole (sameFault ▸ noFault) (same.trans connected)

theorem send (echoes : system.Echoes retrieved)
    (established : system.connection.state ≠ .kConnecting) {result : WriteResult}
    (stuck : system.hasFaulted = true → result.count = 0)
    (bytes : ByteStream False next.streamView)
    (ran : system.send none message result = .ok next) : next.Echoes (retrieved ++ message) := by
  unfold ConnectionSystem.send at ran
  split at ran
  · rename_i connected
    have isOpen : system.connection.state ≠ .kDisconnected := by
      rw [connected]
      nofun
    rcases sendInLoop_sendingView (by exact isOpen) ran with ⟨_, _, notes, _, unrelated, view⟩
    rcases sendInLoop_sends (by exact isOpen) ran with ⟨fate, isFate, sends⟩
    have order : next.orderView = _ := congrArg SendingView.toOrderView view
    have state : next.connection.state = system.connection.state :=
      congrArg SendingView.state view
    have faults : next.hasFaulted = (system.hasFaulted || decide (fate = .faulted)) := by
      rw [hasFaulted, hasFaulted, sends]
      simp
    have healthy : next.hasFaulted = false →
        system.hasFaulted = false ∧ takenBytes next.history.sends = retrieved ++ message := by
      intro noFault
      rw [faults, Bool.or_eq_false_iff, decide_eq_false_iff_not] at noFault
      have isTaken : fate = .taken := isFate.resolve_right fun faulted => noFault.2 faulted.1
      refine ⟨noFault.1, ?_⟩
      rw [sends, isTaken]
      exact (takenBytes_append_taken _ _ _).trans
        (congrArg (· ++ message) (echoes.whole noFault.1 connected))
    have outstanding := congrArg OrderView.outstanding order
    have pushing := congrArg OrderView.pushing order
    have setting := congrArg OrderView.setting order
    have unsent : next.Unsent := echoes.unsent.of_notified
      (fun note member => (unrelated note member).1) outstanding pushing setting
    refine ⟨unsent, ?_, ?_, ?_, ?_⟩
    · intro connecting
      exact absurd (state.symm.trans connecting) established
    · cases faulted : next.hasFaulted with
      | true =>
          have nothing : result.count = 0 := by
            rw [faults, Bool.or_eq_true, decide_eq_true_eq] at faulted
            rcases faulted with before | now
            · exact stuck before
            · rcases isFate with isTaken | isFaulted
              · rw [isTaken] at now
                cases now
              · exact isFaulted.2
          rw [sendInLoop_accepted nothing ran]
          exact echoes.accepted.trans (List.prefix_append _ _)
      | false =>
          rw [← (healthy faulted).2]
          exact ⟨_, bytes.stream⟩
    · intro noFault
      rw [(healthy noFault).2]
    · intro noFault _
      exact (healthy noFault).2
  · rename_i notConnected
    cases ran
    exact {
      unsent := echoes.unsent
      early := fun connecting => absurd connecting established
      accepted := echoes.accepted.trans (List.prefix_append _ _)
      taken := fun noFault => (echoes.taken noFault).trans (List.prefix_append _ _)
      whole := fun _ connected => absurd connected notConnected }

end Echoes

/-- `send` in the loop thread leaves the stack alone. -/
theorem send_control {message : List UInt8} {result : WriteResult}
    (ran : system.send none message result = .ok next) :
    next.stack = system.stack ∧ next.removed = system.removed := by
  unfold send at ran
  split at ran
  · rcases sendInLoop_control ran with same | ⟨_, _, _, _, _, _, updated⟩
    · exact ⟨congrArg Control.stack same, congrArg Control.removed same⟩
    · exact ⟨congrArg Control.stack updated, congrArg Control.removed updated⟩
  · cases ran
    exact ⟨rfl, rfl⟩

end ConnectionSystem

namespace Link

open ConnectionSystem (Action)

variable {link next : Link}

/-! ## The two ends -/

structure Echoing (link : Link) : Prop where
  reachable : machine.Reachable link
  echoes : (link.ends .far).system.Echoes (link.ends .far).retrieved

theorem Echoing.client (echoing : link.Echoing) {action : Action}
    (allowed : link.Allowed (.near, action)) (ran : link.step (.near, action) = .ok next) :
    next.Echoing := by
  rcases step_ok ran with ⟨system, _, _, there⟩
  refine ⟨echoing.reachable.step allowed ran, ?_⟩
  rw [show next.ends .far = _ from there]
  exact echoing.echoes

theorem Echoing.server (echoing : link.Echoing) {action : Action}
    (allowed : link.Allowed (.far, action))
    (library : (link.ends .far).system.LibraryCode action)
    (ran : link.step (.far, action) = .ok next) : next.Echoing := by
  have reachable := echoing.reachable.step allowed ran
  have bytes :=
    (ConnectionSystem.streaming_of_reachable (reachable_joined reachable .far).reachable).bytes
  refine ⟨reachable, ?_⟩
  rcases step_ok ran with ⟨system, stepped, here, _⟩
  have nothing : action.retrievedBytes = 0 := by
    cases action with
    | retrieveInput len => exact library.elim
    | call _ _ _ | setDisconnecting _ | push _ | poll _ | dispatch | endEvents | swapFunctors
    | runFunctor _ | connectEstablished | returnCallback | nextCallback | finishEvent
    | handleRead _ | handleWrite _ | handleClose | closeCallback | connectDestroyed
    | destroyConnected | channelRemove | removeConnectionInLoop | destroyServer _ => rfl
  rw [here] at bytes ⊢
  rw [nothing, List.take_zero, List.append_nil]
  exact echoing.echoes.step allowed.1 library bytes stepped

theorem Echoing.onMessage (echoing : link.Echoing) {result : WriteResult}
    (allowed : link.EchoAllowed (.onMessage result)) (ran : link.onMessage result = .ok next) :
    next.Echoing := by
  rcases allowed with ⟨present, inCallback, bounded, stuck⟩
  rcases Checked.bind_eq_ok_iff.mp ran with ⟨retrieved, retrievedRan, rest⟩
  rcases Checked.bind_eq_ok_iff.mp rest with ⟨sent, sentRan, returned⟩
  have joined := reachable_joined echoing.reachable .far
  have length := joined.wellFormed.content_length
  have established : (link.ends .far).system.connection.state ≠ .kConnecting := by
    refine (ConnectionSystem.registered_of_reachable joined.reachable).notConnecting ?_
    intro onlyFrame
    rw [show (link.ends .far).system.stack = _ from onlyFrame] at inCallback
    cases inCallback
  have userCode : (link.ends .far).system.runsUserCode = true := by
    rw [ConnectionSystem.runsUserCode_iff, inCallback]
    rintro _ ⟨⟩
    rfl
  -- The message is out of the input buffer and not yet sent.
  have mayRetrieve : link.Allowed (.far,
      .retrieveInput (link.ends .far).system.connection.inputBuffer.readableBytes) :=
    ⟨⟨present, userCode, le_rfl⟩, List.nil_prefix⟩
  have reachableRetrieved := echoing.reachable.step mayRetrieve retrievedRan
  rcases step_ok retrievedRan with ⟨first, retrieves, hereRetrieved, _⟩
  rcases Checked.bind_eq_ok_iff.mp retrieves with ⟨inputBuffer, _, isFirst⟩
  cases isFirst
  rcases step_ok sentRan with ⟨second, sends, hereSent, _⟩
  have maySend : retrieved.Allowed (.far, .call none
      (.send (link.ends .far).system.connection.inputBuffer.content) result) := by
    refine ⟨?_, List.nil_prefix⟩
    rw [hereRetrieved]
    exact ⟨present, userCode, le_of_le_of_eq bounded length.symm⟩
  have reachableSent := reachableRetrieved.step maySend sentRan
  have bytes := (ConnectionSystem.streaming_of_reachable
    (reachable_joined reachableSent .far).reachable).bytes
  rw [hereRetrieved] at sends hereSent
  rw [hereSent] at bytes
  have echoes : second.Echoes ((link.ends .far).retrieved ++
      (link.ends .far).system.connection.inputBuffer.content) := by
    refine ConnectionSystem.Echoes.send ?_ (by exact established) (by exact stuck) bytes sends
    exact { echoing.echoes with unsent := { echoing.echoes.unsent with } }
  -- The callback returns.
  rcases ConnectionSystem.send_control sends with ⟨stack, removed⟩
  have mayReturn : sent.Allowed (.far, .returnCallback) := by
    refine ⟨?_, List.nil_prefix⟩
    rw [hereSent]
    refine ⟨removed.trans present, .messageCallback, ?_, rfl⟩
    rw [stack]
    exact inCallback
  refine ⟨reachableSent.step mayReturn returned, ?_⟩
  rcases step_ok returned with ⟨third, returns, hereNext, _⟩
  rw [hereSent] at returns hereNext
  cases returns
  have whole : (link.ends .far).retrieved ++
      (link.ends .far).system.connection.inputBuffer.content = (next.ends .far).retrieved := by
    rw [hereNext]
    simp [Action.retrievedBytes, List.take_of_length_le length.le]
  rw [whole] at echoes
  rw [show (next.ends .far).system = _ from congrArg LinkEnd.system hereNext]
  exact { echoes with unsent := { echoes.unsent with } }

theorem reachable_echoing (reachable : echoMachine.Reachable link) : link.Echoing := by
  refine reachable.invariant Echoing ?_ ?_
  · intro first initial
    refine ⟨.initial initial, ?_⟩
    rcases initial .far with ⟨starts, _, retrieved⟩
    rcases starts with ⟨_, _, _, _, _, _, _, _, _, _, isSystem⟩
    rw [retrieved, isSystem]
    refine ⟨⟨?_, fun _ => ⟨rfl, rfl⟩⟩, fun _ => ⟨rfl, rfl⟩, List.prefix_rfl,
      fun _ => List.prefix_rfl, fun _ _ => rfl⟩
    simp [ConnectionSystem.create]
  · intro current action after echoing allowed ran
    cases action with
    | client action => exact echoing.client allowed ran
    | server action => exact echoing.server allowed.1 allowed.2 ran
    | onMessage result => exact echoing.onMessage allowed ran

/-- In every run the client gets back the beginning of what it has sent. As long as the
server's connection is up and no write of its has failed, nothing is missing either: the bytes
that are not back yet are in the buffers and on the wire, in order. -/
theorem echo_returns (reachable : echoMachine.Reachable link) :
    (link.ends .near).retrieved ++ (link.ends .near).system.connection.inputBuffer.content ++
        (link.ends .near).arriving <+:
      takenBytes (link.ends .near).system.history.sends ∧
    ((link.ends .far).system.connection.state = .kConnected →
      (link.ends .far).system.hasFaulted = false →
      (link.ends .near).retrieved ++ (link.ends .near).system.connection.inputBuffer.content ++
        (link.ends .near).arriving ++ (link.ends .far).system.connection.outputBuffer.content ++
        (link.ends .far).system.connection.inputBuffer.content ++ (link.ends .far).arriving ++
        (link.ends .near).system.connection.outputBuffer.content =
      takenBytes (link.ends .near).system.history.sends) := by
  have echoing := reachable_echoing reachable
  have near := reachable_joined echoing.reachable .near
  have far := reachable_joined echoing.reachable .far
  have sent : (link.ends .far).retrieved ++
      (link.ends .far).system.connection.inputBuffer.content ++ (link.ends .far).arriving ++
      (link.ends .near).system.connection.outputBuffer.content =
    takenBytes (link.ends .near).system.history.sends := near.stream
  constructor
  · have back : (link.ends .near).retrieved ++
        (link.ends .near).system.connection.inputBuffer.content ++ (link.ends .near).arriving =
      (link.ends .far).system.history.accepted := far.wire
    rw [back, ← sent, List.append_assoc, List.append_assoc]
    exact echoing.echoes.accepted.trans (List.prefix_append _ _)
  · intro connected noFault
    have back : (link.ends .near).retrieved ++
        (link.ends .near).system.connection.inputBuffer.content ++ (link.ends .near).arriving ++
        (link.ends .far).system.connection.outputBuffer.content =
      takenBytes (link.ends .far).system.history.sends := far.stream
    rw [back, echoing.echoes.whole noFault connected]
    exact sent

/-- The server has seen two bytes of three and the kernel has taken one of them. -/
theorem echo_returns_partly :
    ∃ link : Link, echoMachine.Reachable link ∧ (link.ends .near).retrieved = [7] ∧
      [7] ++ (link.ends .near).system.connection.inputBuffer.content ++
        (link.ends .near).arriving ++ (link.ends .far).system.connection.outputBuffer.content ++
        (link.ends .far).system.connection.inputBuffer.content ++ (link.ends .far).arriving ++
        (link.ends .near).system.connection.outputBuffer.content =
      takenBytes (link.ends .near).system.history.sends := by
  have run := echoMachine.exists_reachable
    (fun link => (link.ends .near).retrieved = [7] ∧ (link.ends .far).arriving = [9] ∧
      (link.ends .far).system.connection.state = .kConnected ∧
      (link.ends .far).system.hasFaulted = false)
    (show echoMachine.initial ⟨fun _ => ⟨.lone, [], []⟩⟩ from
      fun _ => ⟨ConnectionSystem.lone_initial, rfl, rfl⟩)
    [.client .connectEstablished, .client .returnCallback, .server .connectEstablished,
      .server .returnCallback, .client (.call none (.send [7, 8, 9]) (.wrote 3)),
      .server (.poll (some { PollEvents.kNoneEvent with pollIn := true })), .server .dispatch,
      .server .nextCallback, .server (.handleRead (.ok [7, 8])), .onMessage (.wrote 1),
      .client (.poll (some { PollEvents.kNoneEvent with pollIn := true })), .client .dispatch,
      .client .nextCallback, .client (.handleRead (.ok [7])), .client (.retrieveInput 1)]
    (by decide +kernel)
  rcases run with ⟨link, reachable, retrieved, _, connected, noFault⟩
  have inOrder := (echo_returns reachable).2 connected noFault
  rw [retrieved] at inOrder
  exact ⟨link, reachable, retrieved, inOrder⟩

end Link

end Ccnet.Net
