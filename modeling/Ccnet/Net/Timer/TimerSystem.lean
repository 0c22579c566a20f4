import Ccnet.Net.Timer.Cancellation
import Ccnet.Net.EventLoop.FunctorQueue

/-! # Timers used by several threads

`addTimer` and `cancel` may be called by any thread: the loop thread runs the
`InLoop` part at once, any other thread leaves it in the loop's functor
queue. -/

namespace Ccnet.Net

inductive TimerFunctor
  | addTimerInLoop (timer : TimerPtr)
  | cancelInLoop (timerId : ActiveTimer)
  deriving DecidableEq, Repr

def TimerFunctor.serial : TimerFunctor → Nat
  | .addTimerInLoop timer => timer.serial
  | .cancelInLoop timerId => timerId.sequence

/-- The timer that the functor hands to the queue. -/
def TimerFunctor.added : TimerFunctor → Option Nat
  | .addTimerInLoop timer => some timer.serial
  | .cancelInLoop _ => none

/-- The queue, the functors of its loop that concern timers, the serial numbers
of the timers that `addTimer` has passed to `runInLoop` and of those it has
returned an identifier for, and each `cancelInLoop` that has run, with the
number of `handleRead` calls begun before it. -/
structure TimerSystem where
  queue : TimerQueue
  functors : FunctorQueue TimerFunctor
  submitted : List Nat
  returned : List Nat
  cancelled : List (Nat × Nat)

namespace TimerSystem

def create : TimerSystem where
  queue := .create
  functors := .empty
  submitted := []
  returned := []
  cancelled := []

inductive Action
  /-- `new Timer` in `addTimer`, by any thread. -/
  | newTimer (timer : Timer)
  /-- `runInLoop` in `addTimer`, by the loop thread and by another one. -/
  | addTimer (timer : TimerPtr) (clock : Int)
  | queueAddTimer (timer : TimerPtr)
  /-- `return TimerId(timer, timer->sequence())`. -/
  | returnTimerId (timer : TimerPtr)
  /-- `cancel`, by the loop thread and by another one. -/
  | cancel (timerId : ActiveTimer)
  | queueCancel (timerId : ActiveTimer)
  /-- `doPendingFunctors`. -/
  | swapFunctors
  | runFunctor (clock : Int)
  /-- The timerfd expires, and `handleRead`. -/
  | alarm
  | beginHandleRead (now : Int)
  | runCallback
  | finishCallbacks
  | resetNext
  | finishReset (clock : Int)

/-- An identifier that some call of `addTimer` has returned. -/
def Issued (system : TimerSystem) (timerId : ActiveTimer) : Prop :=
  timerId.timer ∈ system.queue.created ∧
    timerId.sequence = timerId.timer.serial ∧ timerId.sequence ∈ system.returned

def Submittable (system : TimerSystem) (timer : TimerPtr) : Prop :=
  timer ∈ system.queue.created ∧ timer.serial ∉ system.submitted

def Allowed (system : TimerSystem) : Action → Prop
  | .newTimer timer => system.queue.Allowed (.newTimer timer)
  | .addTimer timer _ => system.queue.RunsUserCode ∧ system.Submittable timer
  | .queueAddTimer timer => system.Submittable timer
  | .returnTimerId timer => timer ∈ system.queue.created ∧
      timer.serial ∈ system.submitted
  | .cancel timerId => system.queue.RunsUserCode ∧ system.Issued timerId
  | .queueCancel timerId => system.Issued timerId
  | .swapFunctors => system.queue.phase = .idle ∧ system.functors.functors = []
  | .runFunctor _ => system.queue.phase = .idle ∧ system.functors.functors ≠ []
  | .alarm => system.queue.Allowed .alarm
  | .beginHandleRead _ => system.queue.phase = .idle ∧ system.functors.functors = []
  | .runCallback => system.queue.Allowed .runCallback
  | .finishCallbacks => system.queue.Allowed .finishCallbacks
  | .resetNext => system.queue.Allowed .resetNext
  | .finishReset clock => system.queue.Allowed (.finishReset clock)

instance (system : TimerSystem) (timerId : ActiveTimer) :
    Decidable (system.Issued timerId) :=
  inferInstanceAs (Decidable (_ ∧ _))

instance (system : TimerSystem) (timer : TimerPtr) :
    Decidable (system.Submittable timer) :=
  inferInstanceAs (Decidable (_ ∧ _))

instance (system : TimerSystem) :
    (action : Action) → Decidable (system.Allowed action)
  | .newTimer timer => inferInstanceAs (Decidable (system.queue.Allowed (.newTimer timer)))
  | .queueAddTimer timer => inferInstanceAs (Decidable (system.Submittable timer))
  | .queueCancel timerId => inferInstanceAs (Decidable (system.Issued timerId))
  | .addTimer _ _ | .returnTimerId _ | .cancel _ | .swapFunctors | .runFunctor _
  | .beginHandleRead _ => inferInstanceAs (Decidable (_ ∧ _))
  | .alarm => inferInstanceAs (Decidable (system.queue.Allowed .alarm))
  | .runCallback => inferInstanceAs (Decidable (system.queue.Allowed .runCallback))
  | .finishCallbacks => inferInstanceAs (Decidable (system.queue.Allowed .finishCallbacks))
  | .resetNext => inferInstanceAs (Decidable (system.queue.Allowed .resetNext))
  | .finishReset clock =>
      inferInstanceAs (Decidable (system.queue.Allowed (.finishReset clock)))

/-- A step of the queue alone. -/
def stepQueue (system : TimerSystem) (action : TimerQueue.Action) :
    Checked TimerSystem := do
  let queue ← system.queue.step action
  return { system with queue }

def cancelInLoop (system : TimerSystem) (timerId : ActiveTimer) :
    Checked TimerSystem := do
  let queue ← system.queue.cancelInLoop timerId
  return { system with
    queue
    cancelled := system.cancelled ++ [(timerId.sequence, system.queue.reads)] }

def runFunctor (system : TimerSystem) (clock : Int) : Checked TimerSystem :=
  match system.functors.next with
  | none => return system
  | some (.addTimerInLoop timer, rest) =>
      { system with functors := rest }.stepQueue (.addTimerInLoop timer clock)
  | some (.cancelInLoop timerId, rest) =>
      { system with functors := rest }.cancelInLoop timerId

def step (system : TimerSystem) : Action → Checked TimerSystem
  | .newTimer timer => system.stepQueue (.newTimer timer)
  | .addTimer timer clock =>
      { system with submitted := system.submitted ++ [timer.serial] }.stepQueue
        (.addTimerInLoop timer clock)
  | .queueAddTimer timer =>
      return { system with
        functors := system.functors.push (.addTimerInLoop timer)
        submitted := system.submitted ++ [timer.serial] }
  | .returnTimerId timer => do
      let sequence ← system.queue.sequence timer
      return { system with returned := system.returned ++ [sequence] }
  | .cancel timerId => system.cancelInLoop timerId
  | .queueCancel timerId =>
      return { system with functors := system.functors.push (.cancelInLoop timerId) }
  | .swapFunctors => return { system with functors := system.functors.swap }
  | .runFunctor clock => system.runFunctor clock
  | .alarm => system.stepQueue .alarm
  | .beginHandleRead now => system.stepQueue (.beginHandleRead now)
  | .runCallback => system.stepQueue .runCallback
  | .finishCallbacks => system.stepQueue .finishCallbacks
  | .resetNext => system.stepQueue .resetNext
  | .finishReset clock => system.stepQueue (.finishReset clock)

def machine : Machine TimerSystem Action where
  initial system := system = create
  allowed := Allowed
  step := step

instance (system : TimerSystem) (action : Action) :
    Decidable (machine.allowed system action) :=
  inferInstanceAs (Decidable (system.Allowed action))

/-! ## The functors about one timer are in order -/

variable {system : TimerSystem}

/-- What holds of a functor while it waits. -/
def Waiting (system : TimerSystem) : TimerFunctor → Prop
  | .addTimerInLoop timer => timer ∈ system.queue.created ∧
      timer.serial ∉ system.queue.handed ∧ timer.serial ∈ system.submitted
  | .cancelInLoop timerId => timerId.timer ∈ system.queue.created ∧
      timerId.sequence = timerId.timer.serial ∧ timerId.sequence ∈ system.submitted

theorem Waiting.submitted {functor : TimerFunctor} (waiting : system.Waiting functor) :
    functor.serial ∈ system.submitted := by
  cases functor with
  | addTimerInLoop timer | cancelInLoop timerId => exact waiting.2.2

/-- A timer's `addTimerInLoop` waits behind no other functor about it. -/
def AddsFirst (functors : List TimerFunctor) : Prop :=
  functors.Pairwise fun earlier later => later.added ≠ some earlier.serial

/-- Every submitted timer was handed to the queue or is about to be. -/
def Accounted (system : TimerSystem) : Prop :=
  ∀ serial ∈ system.submitted, serial ∈ system.queue.handed ∨
    ∃ functor ∈ system.functors.outstanding, functor.added = some serial

structure Ordered (system : TimerSystem) : Prop where
  consistent : ∃ place, system.queue.Consistent place
  handed : ∀ serial ∈ system.queue.handed, serial ∈ system.submitted
  returned : ∀ serial ∈ system.returned, serial ∈ system.submitted
  accounted : system.Accounted
  waiting : ∀ functor ∈ system.functors.outstanding, system.Waiting functor
  addsFirst : AddsFirst system.functors.outstanding
  settled : ∀ record ∈ system.cancelled, system.queue.Settled record.1 record.2

theorem create_ordered : create.Ordered where
  consistent := ⟨_, TimerQueue.create_consistent⟩
  handed := by simp [create, TimerQueue.create]
  returned := by simp [create]
  accounted := by simp [create, Accounted]
  waiting := by simp [create]
  addsFirst := List.Pairwise.nil
  settled := by simp [create]

/-- A step of the queue that adds no timer to it. -/
theorem Ordered.stepQueue (ordered : system.Ordered) (action : TimerQueue.Action)
    (allowed : system.queue.Allowed action)
    (noAdd : ∀ timer clock, action ≠ .addTimerInLoop timer clock)
    {next : TimerSystem} (stepped : system.stepQueue action = .ok next) :
    next.Ordered := by
  rcases Checked.bind_eq_ok_iff.mp stepped with ⟨queue, ran, result⟩
  cases result
  rcases ordered.consistent with ⟨place, consistent⟩
  rcases TimerQueue.step_frame action consistent allowed noAdd ran with
    ⟨created, handed⟩
  rcases TimerQueue.step_consistent action consistent allowed with
    ⟨found, after, foundRan, kept⟩
  rw [foundRan] at ran
  cases ran
  refine ⟨⟨after, kept⟩, ?_, ordered.returned, ?_, ?_, ordered.addsFirst, ?_⟩
  · intro serial member
    rw [handed] at member
    exact ordered.handed serial member
  · intro serial member
    rw [handed]
    exact ordered.accounted serial member
  · intro functor member
    have waiting := ordered.waiting functor member
    cases functor with
    | addTimerInLoop timer =>
        exact ⟨created waiting.1, by rw [handed]; exact waiting.2.1, waiting.2.2⟩
    | cancelInLoop timerId => exact ⟨created waiting.1, waiting.2⟩
  · intro record member
    exact TimerQueue.step_settled action consistent (ordered.settled record member)
      allowed foundRan

/-- `addTimerInLoop` of a submitted timer that is not handed yet, and about which
no functor waits any more that could hand it. -/
theorem Ordered.addTimerInLoop (ordered : system.Ordered) {timer : TimerPtr}
    {clock : Int} {next : TimerSystem} {functors : FunctorQueue TimerFunctor}
    {submitted : List Nat}
    (userCode : system.queue.RunsUserCode) (created : timer ∈ system.queue.created)
    (notHanded : timer.serial ∉ system.queue.handed)
    (memSubmitted : ∀ serial, serial ∈ submitted ↔
      serial ∈ system.submitted ∨ serial = timer.serial)
    (remaining : ∀ functor ∈ functors.outstanding,
      functor ∈ system.functors.outstanding ∧ functor.added ≠ some timer.serial)
    (others : ∀ functor ∈ system.functors.outstanding,
      functor.added ≠ some timer.serial → functor ∈ functors.outstanding)
    (addsFirst : AddsFirst functors.outstanding)
    (stepped : TimerSystem.stepQueue { system with functors, submitted }
      (.addTimerInLoop timer clock) = .ok next) : next.Ordered := by
  rcases Checked.bind_eq_ok_iff.mp stepped with ⟨queue, ran, result⟩
  cases result
  rcases ordered.consistent with ⟨place, consistent⟩
  have allowed : system.queue.Allowed (.addTimerInLoop timer clock) :=
    ⟨userCode, created, notHanded⟩
  rcases TimerQueue.step_consistent _ consistent allowed with ⟨found, after, foundRan, kept⟩
  rcases TimerQueue.addTimerInLoop_ok consistent.represents created notHanded clock with
    ⟨added, addedRan, _, _, sameCreated, handed, _⟩
  cases foundRan.symm.trans ran
  cases addedRan.symm.trans foundRan
  refine ⟨⟨after, kept⟩, ?_, ?_, ?_, ?_, addsFirst, ?_⟩
  · intro serial member
    rw [handed, List.mem_append, List.mem_singleton] at member
    rw [memSubmitted]
    exact member.imp_left (ordered.handed serial)
  · intro serial member
    exact (memSubmitted serial).mpr (.inl (ordered.returned serial member))
  · intro serial member
    rw [handed, List.mem_append, List.mem_singleton]
    by_cases same : serial = timer.serial
    · exact .inl (.inr same)
    · rcases (memSubmitted serial).mp member with before | new
      · rcases ordered.accounted serial before with wasHanded | ⟨functor, waits, equal⟩
        · exact .inl (.inl wasHanded)
        · refine .inr ⟨functor, others functor waits ?_, equal⟩
          rw [equal]
          simpa using same
      · exact absurd new same
  · intro functor member
    rcases remaining functor member with ⟨waits, different⟩
    have waiting := ordered.waiting functor waits
    cases functor with
    | addTimerInLoop other =>
        refine ⟨?_, ?_, (memSubmitted _).mpr (.inl waiting.2.2)⟩
        · rw [sameCreated]
          exact waiting.1
        · rw [handed, List.mem_append, List.mem_singleton, not_or]
          exact ⟨waiting.2.1, fun same => different (congrArg some same)⟩
    | cancelInLoop timerId =>
        refine ⟨?_, waiting.2.1, (memSubmitted _).mpr (.inl waiting.2.2)⟩
        rw [sameCreated]
        exact waiting.1
  · intro record member
    exact TimerQueue.step_settled _ consistent (ordered.settled record member) allowed
      foundRan

theorem Ordered.cancelInLoop (ordered : system.Ordered) {timerId : ActiveTimer}
    {next : TimerSystem} (userCode : system.queue.RunsUserCode)
    (created : timerId.timer ∈ system.queue.created)
    (sequence : timerId.sequence = timerId.timer.serial)
    (handed : timerId.sequence ∈ system.queue.handed)
    (stepped : system.cancelInLoop timerId = .ok next) : next.Ordered := by
  rcases Checked.bind_eq_ok_iff.mp stepped with ⟨queue, ran, result⟩
  cases result
  have stepOrdered : TimerSystem.Ordered { system with queue } := by
    refine ordered.stepQueue (.cancelInLoop timerId) userCode (by simp) ?_
    exact Checked.bind_eq_ok_iff.mpr ⟨queue, ran, rfl⟩
  refine { stepOrdered with settled := ?_ }
  intro record member
  rcases List.mem_append.mp member with old | new
  · exact stepOrdered.settled record old
  · rw [List.mem_singleton.mp new]
    rcases ordered.consistent with ⟨place, consistent⟩
    rcases TimerQueue.cancelInLoop_ok consistent.represents timerId with
      ⟨found, foundRan, same, _⟩
    cases foundRan.symm.trans ran
    have identifier : timerId = ⟨timerId.timer, timerId.timer.serial⟩ := by
      rw [← sequence]
    rw [identifier] at ran
    rw [sequence] at handed ⊢
    rw [← same.reads]
    exact TimerQueue.settled_of_cancelInLoop consistent created handed userCode ran

/-- The loop thread itself cancels a timer only when no `addTimerInLoop` of that
timer waits in the functor queue. -/
def CancelsAfterAdd (system : TimerSystem) : Action → Prop
  | .cancel timerId => ∀ functor ∈ system.functors.outstanding,
      functor.added ≠ some timerId.sequence
  | _ => True

instance (system : TimerSystem) :
    (action : Action) → Decidable (system.CancelsAfterAdd action)
  | .cancel timerId => inferInstanceAs
      (Decidable (∀ functor ∈ system.functors.outstanding,
        functor.added ≠ some timerId.sequence))
  | .newTimer _ | .addTimer _ _ | .queueAddTimer _ | .returnTimerId _ | .queueCancel _
  | .swapFunctors | .runFunctor _ | .alarm | .beginHandleRead _ | .runCallback
  | .finishCallbacks | .resetNext | .finishReset _ => inferInstanceAs (Decidable True)

theorem Ordered.handed_of_returned (ordered : system.Ordered) {serial : Nat}
    (submitted : serial ∈ system.submitted)
    (notWaiting : ∀ functor ∈ system.functors.outstanding, functor.added ≠ some serial) :
    serial ∈ system.queue.handed := by
  rcases ordered.accounted serial submitted with handed | ⟨functor, waits, adds⟩
  · exact handed
  · exact absurd adds (notWaiting functor waits)

/-! ## One step -/

theorem Ordered.push (ordered : system.Ordered) {functor : TimerFunctor}
    {submitted : List Nat} (waiting : TimerSystem.Waiting { system with submitted } functor)
    (grows : system.submitted ⊆ submitted)
    (accounted : ∀ serial ∈ submitted, serial ∈ system.submitted ∨
      functor.added = some serial)
    (fresh : ∀ serial, functor.added = some serial → serial ∉ system.submitted) :
    TimerSystem.Ordered { system with
      functors := system.functors.push functor
      submitted } where
  consistent := ordered.consistent
  handed serial member := grows (ordered.handed serial member)
  returned serial member := grows (ordered.returned serial member)
  accounted serial member := by
    rw [FunctorQueue.outstanding_push]
    rcases accounted serial member with before | adds
    · rcases ordered.accounted serial before with handed | ⟨other, waits, adds⟩
      · exact .inl handed
      · exact .inr ⟨other, by simp [waits], adds⟩
    · exact .inr ⟨functor, by simp, adds⟩
  waiting other member := by
    rw [FunctorQueue.outstanding_push, List.mem_append, List.mem_singleton] at member
    rcases member with old | new
    · have before := ordered.waiting other old
      cases other with
      | addTimerInLoop timer | cancelInLoop timerId =>
          exact ⟨before.1, before.2.1, grows before.2.2⟩
    · rw [new]
      exact waiting
  addsFirst := by
    rw [FunctorQueue.outstanding_push]
    refine List.pairwise_append.mpr ⟨ordered.addsFirst, by simp, ?_⟩
    intro earlier member later isLast
    rw [List.mem_singleton.mp isLast]
    intro adds
    exact fresh _ adds (ordered.waiting earlier member).submitted
  settled := ordered.settled

theorem Ordered.runFunctor (ordered : system.Ordered) {clock : Int}
    {next : TimerSystem} (idle : system.queue.phase = .idle)
    (stepped : system.runFunctor clock = .ok next) : next.Ordered := by
  have userCode : system.queue.RunsUserCode := by
    simp [TimerQueue.RunsUserCode, idle, TimerPhase.isResetting]
  unfold TimerSystem.runFunctor at stepped
  split at stepped
  · cases stepped
    exact ordered
  · rename_i timer rest taken
    have outstanding := FunctorQueue.outstanding_next taken
    have waiting := ordered.waiting (.addTimerInLoop timer) (by simp [outstanding])
    have addsFirst := ordered.addsFirst
    rw [outstanding, AddsFirst, List.pairwise_cons] at addsFirst
    refine ordered.addTimerInLoop userCode waiting.1 waiting.2.1 ?_ ?_ ?_ addsFirst.2
      stepped
    · intro serial
      constructor
      · exact .inl
      · rintro (member | equal)
        · exact member
        · rw [equal]
          exact waiting.2.2
    · intro functor member
      exact ⟨by simp [outstanding, member], addsFirst.1 functor member⟩
    · intro functor member different
      rw [outstanding, List.mem_cons] at member
      rcases member with isFirst | inRest
      · rw [isFirst] at different
        exact absurd rfl different
      · exact inRest
  · rename_i timerId rest taken
    have outstanding := FunctorQueue.outstanding_next taken
    have waiting := ordered.waiting (.cancelInLoop timerId) (by simp [outstanding])
    have addsFirst := ordered.addsFirst
    rw [outstanding, AddsFirst, List.pairwise_cons] at addsFirst
    have notWaiting : ∀ functor ∈ system.functors.outstanding,
        functor.added ≠ some timerId.sequence := by
      intro functor member
      rw [outstanding, List.mem_cons] at member
      rcases member with isFirst | inRest
      · rw [isFirst]
        simp [TimerFunctor.added]
      · exact addsFirst.1 functor inRest
    have restOrdered : TimerSystem.Ordered { system with functors := rest } := by
      refine { ordered with accounted := ?_, waiting := ?_, addsFirst := addsFirst.2 }
      · intro serial member
        rcases ordered.accounted serial member with handed | ⟨functor, waits, adds⟩
        · exact .inl handed
        · rw [outstanding, List.mem_cons] at waits
          rcases waits with isFirst | inRest
          · rw [isFirst] at adds
            cases adds
          · exact .inr ⟨functor, inRest, adds⟩
      · intro functor member
        exact ordered.waiting functor (by simp [outstanding, member])
    exact restOrdered.cancelInLoop userCode waiting.1 waiting.2.1
      (ordered.handed_of_returned waiting.2.2 notWaiting) stepped

theorem step_ordered (action : Action) {next : TimerSystem} (ordered : system.Ordered)
    (allowed : system.Allowed action) (condition : system.CancelsAfterAdd action)
    (stepped : system.step action = .ok next) : next.Ordered := by
  cases action with
  | newTimer timer => exact ordered.stepQueue (.newTimer timer) allowed (by simp) stepped
  | addTimer timer clock =>
      rcases allowed with ⟨userCode, created, fresh⟩
      have different : ∀ functor ∈ system.functors.outstanding,
          functor.added ≠ some timer.serial := by
        intro functor member adds
        have submitted := (ordered.waiting functor member).submitted
        cases functor with
        | addTimerInLoop other =>
            rw [← Option.some.inj adds] at fresh
            exact fresh submitted
        | cancelInLoop timerId => cases adds
      refine ordered.addTimerInLoop userCode created
        (fun handed => fresh (ordered.handed _ handed)) ?_
        (fun functor member => ⟨member, different functor member⟩)
        (fun functor member _ => member) ordered.addsFirst stepped
      intro serial
      simp
  | queueAddTimer timer =>
      cases stepped
      rcases allowed with ⟨created, fresh⟩
      refine ordered.push ⟨created, fun handed => fresh (ordered.handed _ handed),
        by simp⟩ (List.subset_append_left _ _) ?_ ?_
      · intro serial member
        rcases List.mem_append.mp member with old | new
        · exact .inl old
        · rw [List.mem_singleton.mp new]
          exact .inr rfl
      · intro serial adds
        cases adds
        exact fresh
  | returnTimerId timer =>
      rcases Checked.bind_eq_ok_iff.mp stepped with ⟨sequence, read, result⟩
      cases result
      refine { ordered with returned := ?_ }
      intro serial member
      rcases List.mem_append.mp member with old | new
      · exact ordered.returned serial old
      · rw [List.mem_singleton.mp new, (TimerQueue.sequence_eq_ok_iff.mp read).1]
        exact allowed.2
  | cancel timerId =>
      rcases allowed with ⟨userCode, created, sequence, returned⟩
      exact ordered.cancelInLoop userCode created sequence
        (ordered.handed_of_returned (ordered.returned _ returned) condition) stepped
  | queueCancel timerId =>
      cases stepped
      rcases allowed with ⟨created, sequence, returned⟩
      exact ordered.push ⟨created, sequence, ordered.returned _ returned⟩
        (fun _ member => member) (fun _ member => .inl member)
        (fun _ adds => by cases adds)
  | swapFunctors =>
      cases stepped
      have outstanding := FunctorQueue.outstanding_swap allowed.2
      refine { ordered with accounted := ?_, waiting := ?_, addsFirst := ?_ }
      · intro serial member
        rw [outstanding]
        exact ordered.accounted serial member
      · intro functor member
        rw [outstanding] at member
        exact ordered.waiting functor member
      · rw [outstanding]
        exact ordered.addsFirst
  | runFunctor clock => exact ordered.runFunctor allowed.1 stepped
  | alarm => exact ordered.stepQueue .alarm allowed (by simp) stepped
  | beginHandleRead now =>
      exact ordered.stepQueue (.beginHandleRead now) allowed.1 (by simp) stepped
  | runCallback => exact ordered.stepQueue .runCallback allowed (by simp) stepped
  | finishCallbacks => exact ordered.stepQueue .finishCallbacks allowed (by simp) stepped
  | resetNext => exact ordered.stepQueue .resetNext allowed (by simp) stepped
  | finishReset clock => exact ordered.stepQueue (.finishReset clock) allowed (by simp) stepped

/-! ## Every run -/

theorem ordered_of_reachable
    (reachable : (machine.restrict CancelsAfterAdd).Reachable system) : system.Ordered := by
  refine reachable.invariant Ordered ?_ ?_
  · rintro _ rfl
    exact create_ordered
  · intro current action next ordered allowed stepped
    exact step_ordered action ordered allowed.1 allowed.2 stepped

/-- The callback was started by a `handleRead` that began after a
`cancelInLoop` of its timer had run. -/
def CallbackAfterCancel (system : TimerSystem) : Prop :=
  ∃ record ∈ system.cancelled, ∃ start ∈ system.queue.starts,
    start.1 = record.1 ∧ record.2 < start.2

instance (system : TimerSystem) : Decidable system.CallbackAfterCancel :=
  inferInstanceAs (Decidable (∃ _ ∈ _, _))

theorem no_callback_after_cancel {system : TimerSystem}
    (reachable : (machine.restrict CancelsAfterAdd).Reachable system) :
    ¬system.CallbackAfterCancel := by
  have ordered := ordered_of_reachable reachable
  rintro ⟨record, recorded, start, started, same, later⟩
  have bound := (ordered.settled record recorded).starts start.2
    (by rw [← same]; exact started)
  omega

/-- Another thread's repeating timer is cancelled by that thread, and by a
callback in the loop thread. -/
theorem no_callback_after_cancel_repeating :
    ∃ system, (machine.restrict CancelsAfterAdd).Reachable system ∧
      (system.queue.starts = [(1, 1), (2, 1), (2, 2)] ∧
        system.cancelled = [(1, 1), (2, 2)]) ∧
      ¬system.CallbackAfterCancel := by
  have run := Machine.exists_reachable (machine.restrict CancelsAfterAdd)
    (fun system => system.queue.starts = [(1, 1), (2, 1), (2, 2)] ∧
      system.cancelled = [(1, 1), (2, 2)])
    rfl
    [.newTimer ⟨8, 10, 5, true⟩, .queueAddTimer ⟨8, 1⟩, .returnTimerId ⟨8, 1⟩,
      .newTimer ⟨16, 12, 5, true⟩, .queueAddTimer ⟨16, 2⟩, .returnTimerId ⟨16, 2⟩,
      .swapFunctors, .runFunctor 0, .runFunctor 0, .beginHandleRead 20, .runCallback,
      .cancel ⟨⟨8, 1⟩, 1⟩, .runCallback, .finishCallbacks, .resetNext, .resetNext,
      .finishReset 21, .beginHandleRead 30, .runCallback, .finishCallbacks, .resetNext,
      .finishReset 31, .queueCancel ⟨⟨16, 2⟩, 2⟩, .swapFunctors, .runFunctor 32,
      .beginHandleRead 50, .finishCallbacks, .finishReset 51]
    (by decide)
  rcases run with ⟨system, reachable, reached⟩
  exact ⟨system, reachable, reached, no_callback_after_cancel reachable⟩

/-- The loop thread's `cancel` runs before the `addTimerInLoop` another thread
has queued, finds nothing to cancel, and the timer fires later. -/
theorem callback_after_cancel :
    ∃ system, machine.Reachable system ∧ system.CallbackAfterCancel :=
  Machine.exists_reachable machine CallbackAfterCancel rfl
    [.newTimer ⟨8, 10, 0, false⟩, .queueAddTimer ⟨8, 1⟩, .returnTimerId ⟨8, 1⟩,
      .cancel ⟨⟨8, 1⟩, 1⟩, .swapFunctors, .runFunctor 0, .alarm, .beginHandleRead 20,
      .runCallback]
    (by decide)

end TimerSystem

end Ccnet.Net
