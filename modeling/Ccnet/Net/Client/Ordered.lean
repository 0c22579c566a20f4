import Ccnet.Net.Client.Steps

/-! # Calls of startInLoop on their way

`startInLoop` must find the connector at rest. The calls of it that are on their way
are counted wherever they are: with a thread that has yet to queue it, in the queue, in
a timer, or about to be run. -/

namespace Ccnet.Net

@[simp] def ConnectorFrame.isRetry : ConnectorFrame → Bool
  | .retry _ => true
  | .startInLoop | .connected _ | .newConnectionCallback _ | .handleEvent _ => false

theorem ConnectorFrame.isRetry_of_sockfd? {frame : ConnectorFrame} (none : frame.sockfd? = none) :
    frame.isRetry = false := by
  cases frame with
  | retry sockfd => cases none
  | startInLoop | connected _ | newConnectionCallback _ | handleEvent _ => rfl

namespace ConnectorView

variable {before after view : ConnectorView} {entering : Nat}

def starts (view : ConnectorView) : Nat :=
  view.functors.outstanding.count .startInLoop +
    (view.pushing.map Prod.snd).count .startInLoop + view.stack.count .startInLoop

def retrying (view : ConnectorView) : Nat := view.stack.countP ConnectorFrame.isRetry

/-- At most one call of `startInLoop` is on its way, `entering` of them in a caller that
has not reached the connector yet, and it will find the connector at rest. -/
structure Ordered (view : ConnectorView) (entering : Nat) : Prop where
  one : entering + view.starts + view.timers + view.retrying ≤ 1
  idle : 0 < entering + view.starts + view.timers → view.state = .kDisconnected
  ready : 0 < entering + view.starts → view.resets = 0
  retry : 0 < view.retrying → view.state ≠ .kConnected
  delivered : view.state = .kConnected → view.phase ≠ .handlingEvents →
    .resetChannel ∉ view.functors.pendingFunctors

/-- Nothing new is on its way. -/
theorem Ordered.keep (ordered : Ordered before entering)
    (state : after.state = before.state) (starts : after.starts ≤ before.starts)
    (timers : after.timers = before.timers) (retrying : after.retrying ≤ before.retrying)
    (resets : after.resets ≤ before.resets)
    (delivered : after.phase ≠ .handlingEvents →
      .resetChannel ∈ after.functors.pendingFunctors →
      before.phase ≠ .handlingEvents ∧ .resetChannel ∈ before.functors.pendingFunctors) :
    Ordered after entering where
  one := by
    have one := ordered.one
    omega
  idle some := by
    rw [state]
    exact ordered.idle (by omega)
  ready some := by
    have ready := ordered.ready (by omega)
    omega
  retry some := by
    rw [state]
    exact ordered.retry (by omega)
  delivered connected outside member := by
    rw [state] at connected
    rcases delivered outside member with ⟨outsideBefore, memberBefore⟩
    exact ordered.delivered connected outsideBefore memberBefore

/-- While the connector is not at rest, nothing is on its way. -/
theorem Ordered.busy (ordered : Ordered view entering) (busy : view.state ≠ .kDisconnected) :
    entering + view.starts + view.timers = 0 := by
  by_contra some
  exact busy (ordered.idle (by omega))

/-- No call of `startInLoop` is on its way, apart from a retry. -/
theorem Ordered.of_none (noStarts : entering + view.starts = 0)
    (one : view.timers + view.retrying ≤ 1)
    (idle : 0 < view.timers → view.state = .kDisconnected)
    (retry : 0 < view.retrying → view.state ≠ .kConnected)
    (delivered : view.state = .kConnected → view.phase ≠ .handlingEvents →
      .resetChannel ∉ view.functors.pendingFunctors) : Ordered view entering where
  one := by omega
  idle some := idle (by omega)
  ready some := by omega
  retry := retry
  delivered := delivered

theorem retrying_below {frame : ConnectorFrame} {below : List ConnectorFrame}
    (stack : view.stack = frame :: below)
    (calm : ∀ frame ∈ view.stack.tail, frame.sockfd? = none) :
    below.countP ConnectorFrame.isRetry = 0 := by
  rw [stack] at calm
  rw [List.countP_eq_zero]
  intro other member
  rw [ConnectorFrame.isRetry_of_sockfd? (calm other member)]
  exact Bool.false_ne_true

theorem count_map_erase {entries : List (ThreadId × ConnectorFunctor)}
    {entry : ThreadId × ConnectorFunctor} (member : entry ∈ entries)
    (functor : ConnectorFunctor) :
    (entries.map Prod.snd).count functor =
      ((entries.erase entry).map Prod.snd).count functor +
        if entry.2 = functor then 1 else 0 := by
  have moved := ((List.perm_cons_erase member).map Prod.snd).count_eq functor
  rw [moved, List.map_cons, List.count_cons]
  simp

theorem starts_next {functor : ConnectorFunctor} {rest : FunctorQueue ConnectorFunctor}
    (taken : view.functors.next = some (functor, rest)) (found : ConnectorFunctor) :
    view.functors.outstanding.count found =
      rest.outstanding.count found + if functor = found then 1 else 0 := by
  rw [FunctorQueue.outstanding_next taken, List.count_cons]
  simp

theorem pending_next {functor : ConnectorFunctor} {rest : FunctorQueue ConnectorFunctor}
    (taken : view.functors.next = some (functor, rest)) :
    rest.pendingFunctors = view.functors.pendingFunctors :=
  (FunctorQueue.next_eq_some_iff.mp taken).2

/-! ## One kind of step after the other -/

/-- The loop goes on to another phase. -/
theorem Ordered.phase {phase : LoopPhase} {activity : Activity} (ordered : Ordered before entering)
    (outside : phase ≠ .handlingEvents → before.phase ≠ .handlingEvents) :
    Ordered { before with phase, activity } entering :=
  ordered.keep rfl (Nat.le_refl _) rfl (Nat.le_refl _) (Nat.le_refl _)
    (fun other member => ⟨outside other, member⟩)

/-- Calls begin or end, but no call of `startInLoop` or `retry` begins. -/
theorem Ordered.calls {stack : List ConnectorFrame} {activity : Activity} {handling : Bool}
    (ordered : Ordered before entering)
    (notStarted : stack.count .startInLoop ≤ before.stack.count .startInLoop)
    (notRetried : stack.countP ConnectorFrame.isRetry ≤ before.retrying) :
    Ordered { before with stack, activity, handling } entering := by
  refine ordered.keep rfl ?_ rfl notRetried (Nat.le_refl _) (fun other member => ⟨other, member⟩)
  simp only [starts]
  omega

/-- A functor of no importance is queued. -/
theorem Ordered.queue {functor : ConnectorFunctor} (ordered : Ordered before entering)
    (notStart : functor ≠ .startInLoop) (notReset : functor ≠ .resetChannel) :
    Ordered { before with functors := before.functors.push functor } entering := by
  refine ordered.keep rfl ?_ rfl (Nat.le_refl _) ?_ ?_
  · simp [starts, notStart]
  · simp [resets, notReset]
  · intro other member
    exact ⟨other, by simpa [FunctorQueue.push, notReset.symm] using member⟩

/-- Another thread queues what it was about to. -/
theorem Ordered.push {entry : ThreadId × ConnectorFunctor} (ordered : Ordered before entering)
    (member : entry ∈ before.pushing) (notReset : entry.2 ≠ .resetChannel) :
    Ordered { before with
      functors := before.functors.push entry.2
      pushing := before.pushing.erase entry } entering := by
  have moved := count_map_erase member .startInLoop
  refine ordered.keep rfl ?_ rfl (Nat.le_refl _) ?_ ?_
  · simp only [starts, FunctorQueue.outstanding_push, List.count_append,
      List.count_singleton, beq_iff_eq] at moved ⊢
    omega
  · simp [resets, notReset]
  · intro other found
    exact ⟨other, by simpa [FunctorQueue.push, notReset.symm] using found⟩

theorem Ordered.swap (ordered : Ordered before entering) (taken : before.functors.functors = []) :
    Ordered { before with functors := before.functors.swap, phase := .runningFunctors }
      entering := by
  have swapped := FunctorQueue.outstanding_swap taken
  refine ordered.keep rfl ?_ rfl (Nat.le_refl _) ?_ ?_
  · simp [starts, swapped]
  · simp [resets, swapped]
  · intro _ member
    cases member

/-- A functor is taken out of the batch, and calls `startInLoop` if it is that. -/
theorem Ordered.take {functor : ConnectorFunctor} {rest : FunctorQueue ConnectorFunctor}
    {stack : List ConnectorFrame} {handling : Bool} (ordered : Ordered before entering)
    (taken : before.functors.next = some (functor, rest))
    (called : stack.count .startInLoop ≤ if functor = .startInLoop then 1 else 0)
    (notRetried : stack.countP ConnectorFrame.isRetry = 0) :
    Ordered { before with functors := rest, stack, handling } entering := by
  refine ordered.keep rfl ?_ rfl ?_ ?_ ?_
  · have count := starts_next taken .startInLoop
    simp only [starts]
    omega
  · simp [retrying, notRetried]
  · have count := starts_next taken .resetChannel
    simp only [resets]
    omega
  · intro other member
    rw [pending_next taken] at member
    exact ⟨other, member⟩

/-- The channel of the attempt that is under way is taken out of the poller. -/
theorem Ordered.remove {state : Connector.States} {functors : FunctorQueue ConnectorFunctor}
    {stack : List ConnectorFrame} (ordered : Ordered before entering)
    (connecting : before.state = .kConnecting)
    (queued : functors.outstanding.count .startInLoop ≤
      before.functors.outstanding.count .startInLoop)
    (called : stack.count .startInLoop ≤ before.stack.count .startInLoop)
    (one : stack.countP ConnectorFrame.isRetry ≤ 1)
    (retry : 0 < stack.countP ConnectorFrame.isRetry → state ≠ .kConnected)
    (delivered : state = .kConnected → before.phase = .handlingEvents) :
    Ordered { before with state, functors := functors.push .resetChannel, stack } entering := by
  have none := ordered.busy (by rw [connecting]; simp)
  simp only [starts] at none
  refine .of_none ?_ ?_ ?_ retry (fun connected outside => absurd (delivered connected) outside)
  · simp only [starts, FunctorQueue.outstanding_push, List.count_append,
      List.count_cons, List.count_nil, beq_iff_eq, reduceCtorEq, if_false]
    omega
  · simp only [retrying]
    omega
  · intro some
    dsimp only at some
    omega

/-- Besides the call of `startInLoop` that is being made, nothing is on its way. -/
theorem Ordered.alone {below : List ConnectorFrame} (ordered : Ordered before entering)
    (stack : before.stack = .startInLoop :: below) :
    entering + starts { before with stack := below } = 0 ∧ before.timers = 0 ∧
      below.countP ConnectorFrame.isRetry = 0 := by
  have one := ordered.one
  simp only [starts, retrying, stack, List.count_cons_self,
    List.countP_cons, ConnectorFrame.isRetry, Bool.false_eq_true, if_false] at one ⊢
  omega

theorem Ordered.startConnecting {below : List ConnectorFrame} (ordered : Ordered before entering)
    (stack : before.stack = .startInLoop :: below) :
    Ordered { before with stack := below, state := .kConnecting, handling := false }
      entering := by
  rcases ordered.alone stack with ⟨noStarts, noTimers, noRetry⟩
  refine .of_none noStarts ?_ ?_ (by simp) (by simp)
  · simp only [retrying]
    omega
  · intro some
    dsimp only at some
    omega

theorem Ordered.startRetry {sockfd : Nat} {below : List ConnectorFrame}
    (ordered : Ordered before entering) (stack : before.stack = .startInLoop :: below)
    (idle : before.state = .kDisconnected) :
    Ordered { before with stack := .retry sockfd :: below } entering := by
  rcases ordered.alone stack with ⟨noStarts, noTimers, noRetry⟩
  refine .of_none ?_ ?_ (fun _ => idle) (by simp [idle]) (by simp [idle])
  · simpa [starts] using noStarts
  · simp only [retrying, List.countP_cons, ConnectorFrame.isRetry, if_true]
    omega

/-- `retry` ends, with a timer or without. -/
theorem Ordered.endRetry {sockfd timers : Nat} {below : List ConnectorFrame}
    (ordered : Ordered before entering) (stack : before.stack = .retry sockfd :: below)
    (added : timers ≤ before.timers + 1) :
    Ordered { before with stack := below, state := .kDisconnected, timers } entering := by
  have one := ordered.one
  simp only [starts, retrying, stack, List.countP_cons, ConnectorFrame.isRetry, if_true,
    List.count_cons, beq_iff_eq, reduceCtorEq, if_false] at one
  refine .of_none ?_ ?_ (fun _ => rfl) (by simp) (by simp)
  · simp only [starts]
    omega
  · simp only [retrying]
    omega

theorem Ordered.step (ordered : Ordered before entering) (step : Step before .other after)
    (handling : Handling before) (calm : ∀ frame ∈ before.stack.tail, frame.sockfd? = none)
    (pushing : ∀ entry ∈ before.pushing, entry.2 = .startInLoop ∨ entry.2 = .stopInLoop)
    (batch : before.phase ≠ .runningFunctors → before.functors.functors = []) :
    Ordered after entering := by
  cases step with
  | stay => exact ordered
  | pushStop =>
      refine ordered.keep rfl ?_ rfl (Nat.le_refl _) (Nat.le_refl _)
        (fun other member => ⟨other, member⟩)
      simp [starts]
  | queueStop => exact ordered.queue (by simp) (by simp)
  | @push entry member =>
      refine ordered.push member ?_
      rcases pushing entry member with start | stop
      · simp [start]
      · simp [stop]
  | enterLoop outside _ => exact ordered.phase (fun _ => by rw [outside]; simp)
  | leaveLoop polling => exact ordered.phase (fun _ => by rw [polling]; simp)
  | poll _ _ _ => exact ordered.phase (fun outside => absurd rfl outside)
  | finishFunctors running _ _ => exact ordered.phase (fun _ => by rw [running]; simp)
  | swapFunctors isHandling _ _ => exact ordered.swap (batch (by rw [isHandling]; simp))
  | takeStart _ _ taken => exact ordered.take taken (by simp) (by simp)
  | takeQuiet _ noCalls taken _ | takeReset _ noCalls taken =>
      exact ordered.take taken (by simp [noCalls]) (by simp [noCalls])
  | takeStop running noCalls taken connecting =>
      have count := starts_next taken .startInLoop
      exact ordered.remove connecting (by omega) (by simp) (by simp) (by simp) (by simp)
  | dispatch _ _ _ _ => exact ordered.calls (by simp) (by simp)
  | startNothing stack _ | deliver stack _ | drop stack _ | leaveCallback stack
  | callbackNothing stack | finishEvent stack =>
      exact ordered.calls (by simp [stack]) (by simp [retrying, stack])
  | startConnecting stack _ _ => exact ordered.startConnecting stack
  | startRetry stack idle => exact ordered.startRetry stack idle
  | retryTimer stack => exact ordered.endRetry stack (Nat.le_refl _)
  | retryNothing stack => exact ordered.endRetry stack (Nat.le_succ _)
  | callbackRetry stack connecting =>
      have calmBelow := retrying_below stack calm
      exact ordered.remove connecting (Nat.le_refl _) (by simp [stack])
        (by simp [List.countP_cons, calmBelow]) (by simp [connecting]) (by simp [connecting])
  | callbackConnected stack connecting =>
      have calmBelow := retrying_below stack calm
      have isCurrent := handling.current (List.ne_nil_of_mem (handler_mem stack))
      exact ordered.remove connecting (Nat.le_refl _) (by simp [stack]) (by simp [calmBelow])
        (by simp [calmBelow]) (fun _ => isCurrent.1)

/-- The caller reaches the connector. -/
theorem Ordered.start (ordered : Ordered before (entering + 1)) (step : Step before .start after) :
    Ordered after entering := by
  have one := ordered.one
  have idle := ordered.idle (by omega)
  have ready := ordered.ready (by omega)
  cases step with
  | start =>
      refine ⟨?_, fun _ => idle, fun _ => ready, ?_, ordered.delivered⟩
      · simp only [starts, retrying, List.count_cons_self, List.countP_cons,
          ConnectorFrame.isRetry, Bool.false_eq_true, if_false] at one ⊢
        omega
      · intro _
        change before.state ≠ _
        rw [idle]
        simp
  | pushStart =>
      refine ⟨?_, fun _ => idle, fun _ => ready, ordered.retry, ordered.delivered⟩
      simp only [starts, retrying, List.map_append, List.map_singleton, List.count_append,
        List.count_singleton_self] at one ⊢
      omega

theorem Ordered.restart (ordered : Ordered before entering) (step : Step before .restart after)
    (drained : before.resets = 0) : Ordered after entering := by
  cases step with
  | restart connected =>
      have none := ordered.busy (by rw [connected]; simp)
      have noRetry : before.retrying = 0 := by
        by_contra some
        exact ordered.retry (by omega) connected
      refine ⟨?_, fun _ => rfl, fun _ => drained, by simp, by simp⟩
      simp only [starts, retrying, List.count_cons_self, List.countP_cons,
        ConnectorFrame.isRetry, Bool.false_eq_true, if_false] at none noRetry ⊢
      omega

theorem Ordered.fireTimer (ordered : Ordered before entering) (step : Step before .fireTimer after)
    (drained : before.resets = 0) : Ordered after entering := by
  cases step with
  | fireTimer _ noCalls timers =>
      have one := ordered.one
      have idle := ordered.idle (by omega)
      refine ⟨?_, fun _ => idle, fun _ => drained, ?_, ordered.delivered⟩
      · simp only [starts, retrying, noCalls, List.count_nil, List.countP_nil,
          List.count_cons_self, List.countP_cons,
          ConnectorFrame.isRetry, Bool.false_eq_true, if_false] at one ⊢
        omega
      · intro _
        change before.state ≠ _
        rw [idle]
        simp

theorem Step.timer_fired (step : Step before .fireTimer after) :
    0 < before.timers ∧ after.functors = before.functors := by
  cases step with
  | fireTimer _ _ timers => exact ⟨by omega, rfl⟩

theorem Ordered.queueOther {tag : Nat} (ordered : Ordered before entering)
    (step : Step before (.queueOther tag) after) : Ordered after entering := by
  cases step with
  | queueOther => exact ordered.queue (by simp) (by simp)

theorem Ordered.stays_connected (ordered : Ordered before entering)
    (step : Step before .other after) (connected : before.state = .kConnected) :
    after.state = .kConnected := by
  have noRetry : before.retrying = 0 := by
    by_contra some
    exact ordered.retry (by omega) connected
  cases step with
  | retryTimer stack | retryNothing stack => simp [retrying, stack] at noRetry
  | takeStop _ _ _ connecting | callbackConnected _ connecting =>
      cases connected.symm.trans connecting
  | startConnecting _ idle _ => cases connected.symm.trans idle
  | stay | pushStop | queueStop | push _ | enterLoop _ _ | leaveLoop _ | poll _ _ _
  | dispatch _ _ _ _ | swapFunctors _ _ _ | takeStart _ _ _ | takeQuiet _ _ _ _
  | takeReset _ _ _ | finishFunctors _ _ _ | startNothing _ _ | startRetry _ _ | deliver _ _
  | drop _ _ | leaveCallback _ | callbackNothing _ | callbackRetry _ _ | finishEvent _ =>
      exact connected

/-- What a step does to the functors that are outstanding: it takes some from the front
and adds some at the end. -/
def Moves (view : ConnectorView) (after : List ConnectorFunctor) : Prop :=
  ∃ taken rest notes, view.functors.outstanding = taken ++ rest ∧ after = rest ++ notes ∧
    ∀ note ∈ notes, note = .startInLoop ∨ note = .stopInLoop ∨
      note = .resetChannel ∧ view.state = .kConnecting

theorem Step.moves (step : Step before .other after)
    (pushing : ∀ entry ∈ before.pushing, entry.2 = .startInLoop ∨ entry.2 = .stopInLoop)
    (batch : before.phase ≠ .runningFunctors → before.functors.functors = []) :
    before.Moves after.functors.outstanding := by
  have unchanged : before.Moves before.functors.outstanding :=
    ⟨[], _, [], rfl, (List.append_nil _).symm, by simp⟩
  have takes : ∀ {functor rest}, before.functors.next = some (functor, rest) →
      before.Moves rest.outstanding := by
    intro functor rest taken
    refine ⟨[functor], rest.outstanding, [], ?_, (List.append_nil _).symm, by simp⟩
    exact FunctorQueue.outstanding_next taken
  cases step with
  | queueStop =>
      exact ⟨[], _, [.stopInLoop], rfl, FunctorQueue.outstanding_push _ _, by simp⟩
  | @push entry member =>
      refine ⟨[], _, [entry.2], rfl, FunctorQueue.outstanding_push _ _, ?_⟩
      intro note isNote
      rw [List.mem_singleton.mp isNote]
      rcases pushing entry member with start | stop
      · exact .inl start
      · exact .inr (.inl stop)
  | swapFunctors isHandling _ _ =>
      refine ⟨[], _, [], rfl, ?_, by simp⟩
      rw [List.append_nil]
      exact FunctorQueue.outstanding_swap (batch (by rw [isHandling]; simp))
  | takeStart _ _ taken | takeQuiet _ _ taken _ | takeReset _ _ taken => exact takes taken
  | @takeStop _ rest _ _ taken connecting =>
      refine ⟨[.stopInLoop], rest.outstanding, [.resetChannel],
        FunctorQueue.outstanding_next taken, FunctorQueue.outstanding_push _ _, ?_⟩
      simp [connecting]
  | callbackRetry _ connecting | callbackConnected _ connecting =>
      refine ⟨[], _, [.resetChannel], rfl, FunctorQueue.outstanding_push _ _, ?_⟩
      simp [connecting]
  | stay | pushStop | enterLoop _ _ | leaveLoop _ | poll _ _ _ | dispatch _ _ _ _
  | finishFunctors _ _ _ | startNothing _ _ | startConnecting _ _ _ | startRetry _ _
  | retryTimer _ | retryNothing _ | deliver _ _ | drop _ _ | leaveCallback _
  | callbackNothing _ | finishEvent _ => exact unchanged

theorem Moves.mem_other {functors : List ConnectorFunctor} {tag : Nat} (moves : view.Moves functors)
    (member : .other tag ∈ functors) : .other tag ∈ view.functors.outstanding := by
  rcases moves with ⟨taken, rest, notes, before, rfl, isNote⟩
  rcases List.mem_append.mp member with old | new
  · rw [before]
    exact List.mem_append_right _ old
  · have note := isNote _ new
    simp at note

/-- While a connection is up, no further `resetChannel` is queued. -/
theorem Moves.no_reset_behind {functors : List ConnectorFunctor} {tag : Nat}
    (moves : view.Moves functors) (connected : view.state = .kConnected)
    (noReset : ∀ ahead behind, view.functors.outstanding = ahead ++ .other tag :: behind →
      .resetChannel ∉ behind) :
    ∀ ahead behind, functors = ahead ++ .other tag :: behind → .resetChannel ∉ behind := by
  rintro ahead behind split
  rcases moves with ⟨taken, rest, notes, before, rfl, isNote⟩
  have quiet : .resetChannel ∉ notes := by
    intro member
    have note := isNote _ member
    simp [connected] at note
  rcases List.append_eq_append_iff.mp split with ⟨gap, isAhead, isNotes⟩ | ⟨gap, isRest, isBehind⟩
  · have inNotes : ∀ functor ∈ behind, functor ∈ notes := by
      intro functor member
      rw [isNotes]
      simp [member]
    exact fun member => quiet (inNotes _ member)
  · cases gap with
    | nil =>
        intro member
        exact quiet (by rw [← List.nil_append notes, ← isBehind]; simp [member])
    | cons head gap =>
        cases isBehind
        intro member
        rcases List.mem_append.mp member with old | new
        · refine noReset (taken ++ ahead) gap ?_ old
          rw [before, isRest, List.append_assoc]
        · exact quiet new

theorem Moves.resets_le (moves : view.Moves after.functors.outstanding)
    (connected : view.state = .kConnected) : after.resets ≤ view.resets := by
  rcases moves with ⟨taken, rest, notes, before, isAfter, isNote⟩
  have quiet : notes.count .resetChannel = 0 := by
    rw [List.count_eq_zero]
    intro member
    have note := isNote _ member
    simp [connected] at note
  simp only [resets, isAfter, before, List.count_append, quiet]
  omega

end ConnectorView

end Ccnet.Net
