import Ccnet.Base.Monitor

/-! # Stopping the pool

After `stop` has cleared `running_`, only the workers that are in `take` take a task, and
each of them one at most. -/

namespace Ccnet.Base

/-- The steps that a worker still takes once the pool has been stopped. -/
def WorkerPhase.remaining {Task : Type} : WorkerPhase Task → Nat
  | .taking | .waiting | .woken => 3
  | .holding _ => 2
  | .testing => 1
  | .finished => 0

namespace ThreadPool

variable {Task : Type} {before pool next : ThreadPool Task} {action : Action Task}

/-- How many workers are in `take`, blocked or not. -/
def takers (pool : ThreadPool Task) : Nat := pool.workers.countP WorkerPhase.inTake

/-- How many producers are in `run`, blocked or not. -/
def callers (pool : ThreadPool Task) : Nat := pool.producers.countP ProducerPhase.inRun

theorem inTake_of_isTaking {phase : WorkerPhase Task} (isTaking : phase.isTaking = true) :
    phase.inTake = true := by
  cases phase with
  | taking | woken => rfl
  | testing | waiting | holding _ | finished => cases isTaking

theorem inRun_of_pending {phase : ProducerPhase Task} {task : Task}
    (pending : phase.pending = some task) : phase.inRun = true := by
  cases phase with
  | entering _ | woken _ => rfl
  | idle | waiting _ => cases pending

theorem takers_setWorker {worker : Nat} {phase : WorkerPhase Task}
    (isPhase : pool.workers[worker]? = some phase) (after : WorkerPhase Task) :
    (pool.setWorker worker after).takers + phase.inTake.toNat =
      pool.takers + after.inTake.toNat :=
  countP_change isPhase after WorkerPhase.inTake

theorem takers_stop (pool : ThreadPool Task) : pool.stop.takers = pool.takers := by
  simp only [takers, stop, ConditionVariable.notifyAll, List.countP_map]
  congr 1
  funext phase
  cases phase <;> rfl

/-- With nobody blocked, a signal does nothing. -/
theorem notify_awake {notified : Option Nat} (awake : pool.Awake) (stopped : pool.running = false)
    (wakes : notEmpty.Wakes pool.workers notified) :
    notEmpty.notify pool.workers notified = pool.workers := by
  rcases ConditionVariable.notify_cases wakes with
    ⟨unchanged, _⟩ | ⟨_, phase, isPhase, isBlocked, _⟩
  · exact unchanged
  · have notBlocked : notEmpty.blocked phase = false :=
      awake stopped phase (List.mem_of_getElem? isPhase)
    rw [notBlocked] at isBlocked
    cases isBlocked

/-! ## Tasks -/

/-- What holds from the `stop` of the first pool on. -/
structure Draining (before pool : ThreadPool Task) : Prop where
  stopped : pool.running = false
  called : pool.stopping ≠ .notCalled
  maxQueueSize : pool.maxQueueSize = before.maxQueueSize
  accepted : before.accepted <+: pool.accepted
  atMost : pool.taken.length + pool.takers ≤ before.taken.length + before.takers
  atLeast : before.queue.length ≤ before.takers →
    before.accepted.length ≤ pool.taken.length + pool.takers
  returned : pool.stopping = .returned → ∀ phase ∈ pool.workers, phase = .finished

theorem stop_draining (monitored : before.Monitored) : Draining before before.stop where
  stopped := rfl
  called := StopPhase.noConfusion
  maxQueueSize := rfl
  accepted := List.prefix_refl _
  atMost := by
    rw [takers_stop]
    exact Nat.le_refl _
  atLeast few := by
    rw [takers_stop, monitored.conserved.1, List.length_append]
    exact Nat.add_le_add_left few _
  returned := StopPhase.noConfusion

/-- A worker goes on that has not finished. -/
theorem Draining.setWorker {worker : Nat} {phase after : WorkerPhase Task}
    (draining : Draining before pool) (isPhase : pool.workers[worker]? = some phase)
    (working : phase ≠ .finished) (workers : next.workers = pool.workers.set worker after)
    (running : next.running = pool.running) (stopping : next.stopping = pool.stopping)
    (maxQueueSize : next.maxQueueSize = pool.maxQueueSize)
    (accepted : next.accepted = pool.accepted)
    (atMost : next.taken.length + after.inTake.toNat ≤ pool.taken.length + phase.inTake.toNat)
    (atLeast : before.accepted.length ≤ pool.taken.length ∨
      pool.taken.length + phase.inTake.toNat ≤ next.taken.length + after.inTake.toNat)
    (taken : pool.taken.length ≤ next.taken.length) : Draining before next := by
  have count := takers_setWorker isPhase after
  have takers : next.takers = (pool.setWorker worker after).takers := by
    simp only [ThreadPool.takers, workers, ThreadPool.setWorker]
  have bound := draining.atMost
  constructor
  case stopped => exact running.trans draining.stopped
  case called =>
    rw [stopping]
    exact draining.called
  case maxQueueSize => exact maxQueueSize.trans draining.maxQueueSize
  case accepted =>
    rw [accepted]
    exact draining.accepted
  case atMost => omega
  case atLeast =>
    intro few
    have enough := draining.atLeast few
    rcases atLeast with already | kept <;> omega
  case returned =>
    intro isReturned
    rw [stopping] at isReturned
    exact absurd (draining.returned isReturned phase (List.mem_of_getElem? isPhase)) working

theorem Draining.step (draining : Draining before pool) (monitored : pool.Monitored)
    (step : pool.Step action next) : Draining before next := by
  have stopped := draining.stopped
  cases step with
  | call _ | block _ _ _ | wakeProducer _ _ => exact { draining with }
  | push _ _ _ wakes =>
      -- A `run` after `stop` may still add a task; its signal finds nobody.
      rw [notify_awake monitored.awake stopped wakes]
      exact { draining with accepted := draining.accepted.trans (List.prefix_append _ _) }
  | enterTake _ running | wait _ _ _ running =>
      rw [stopped] at running
      cases running
  | finish isPhase _ =>
      exact draining.setWorker isPhase (by simp) rfl rfl rfl rfl rfl (Nat.le_refl _)
        (.inr (Nat.le_refl _)) (Nat.le_refl _)
  | @leave worker notified phase isPhase isTaking empty _ =>
      -- An empty queue means that everything accepted was taken, so this worker may leave.
      have all := monitored.conserved.1
      rw [empty, List.append_nil] at all
      have length := draining.accepted.length_le
      rw [all] at length
      exact draining.setWorker isPhase (by rintro rfl; cases isTaking) rfl rfl rfl rfl rfl
        (Nat.le_add_right _ _) (.inl length) (Nat.le_refl _)
  | @take worker notified phase task rest producers isPhase isTaking _ _ _ =>
      -- The worker is in `take` no more, and has one task to show for it.
      have one : phase.inTake.toNat = 1 := congrArg Bool.toNat (inTake_of_isTaking isTaking)
      have gone : (WorkerPhase.holding task).inTake.toNat = 0 := rfl
      refine draining.setWorker isPhase (by rintro rfl; cases isTaking) rfl rfl rfl rfl rfl
        ?_ (.inr ?_) ?_
      all_goals
        simp only [one, gone, List.length_append, List.length_singleton]
        omega
  | @execute worker phase task isPhase isHeld =>
      have notTaking : phase.inTake = false := by
        cases phase with
        | holding _ => rfl
        | testing | taking | waiting | woken | finished => cases isHeld
      exact draining.setWorker isPhase (by rintro rfl; cases isHeld) rfl rfl rfl rfl rfl
        (Nat.le_add_right _ _) (.inr (by simp [notTaking])) (Nat.le_refl _)
  | wakeWorker isPhase =>
      have notWaiting := monitored.awake stopped _ (List.mem_of_getElem? isPhase)
      cases notWaiting
  | stop mayStop => exact absurd mayStop draining.called
  | join _ finished => exact { draining with called := by simp, returned := fun _ => finished }

/-- Every task accepted before has been run, and each of the others too that are not in
the queue, and each of them once. -/
def Executed (before later : ThreadPool Task) : Prop :=
  ∃ after, later.accepted = before.accepted ++ after ++ later.queue ∧
    later.executed.Perm (before.accepted ++ after)

theorem Draining.takers_eq_zero (draining : Draining before pool)
    (returned : pool.stopping = .returned) : pool.takers = 0 := by
  rw [takers, List.countP_eq_zero]
  intro phase member
  rw [draining.returned returned phase member]
  exact Bool.false_ne_true

theorem Draining.executed_perm (draining : Draining before pool) (monitored : pool.Monitored)
    (returned : pool.stopping = .returned) : pool.executed.Perm pool.taken := by
  have nothing : pool.held = [] := by
    rw [held, List.filterMap_eq_nil_iff]
    intro phase member
    rw [draining.returned returned phase member]
    rfl
  have once := monitored.conserved.2
  rw [nothing, List.append_nil] at once
  exact once.symm

theorem Draining.executed_iff (draining : Draining before pool) (monitored : pool.Monitored)
    (first : before.Monitored) (returned : pool.stopping = .returned) :
    Executed before pool ↔ before.queue.length ≤ before.takers := by
  have noTakers := draining.takers_eq_zero returned
  have executed := draining.executed_perm monitored returned
  have order := monitored.conserved.1
  have firstLength := congrArg List.length first.conserved.1
  rw [List.length_append] at firstLength
  constructor
  · rintro ⟨after, _, perm⟩
    have length := (executed.symm.trans perm).length_eq
    have atMost := draining.atMost
    rw [List.length_append] at length
    omega
  · intro few
    have atLeast := draining.atLeast few
    have isPrefix : before.accepted <+: pool.taken := by
      refine List.prefix_of_prefix_length_le draining.accepted ?_ (by omega)
      rw [order]
      exact List.prefix_append _ _
    rcases isPrefix with ⟨after, taken⟩
    rw [← taken] at order executed
    exact ⟨after, order, executed⟩

/-! ## Producers -/

theorem callers_setProducer {producer : Nat} {phase : ProducerPhase Task}
    (isPhase : pool.producers[producer]? = some phase) (after : ProducerPhase Task) :
    (pool.setProducer producer after).callers + phase.inRun.toNat =
      pool.callers + after.inRun.toNat :=
  countP_change isPhase after ProducerPhase.inRun

/-- A producer that is woken is still in `run`. -/
theorem inRun_wake (phase : ProducerPhase Task) : phase.wake.inRun = phase.inRun := by
  cases phase <;> rfl

/-- A waiting producer is one more than those that were woken. -/
theorem woken_lt_callers {task : Task} (waits : .waiting task ∈ pool.producers) :
    pool.producers.countP ProducerPhase.isWoken < pool.callers := by
  rcases List.getElem?_of_mem waits with ⟨producer, isPhase⟩
  rcases exists_others isPhase with ⟨others, perm, _⟩
  have fewer : others.countP ProducerPhase.isWoken ≤ others.countP ProducerPhase.inRun := by
    refine List.countP_mono_left ?_
    intro phase _ isWoken
    cases phase with
    | woken _ => rfl
    | idle | entering _ | waiting _ => cases isWoken
  rw [callers, perm.countP_eq, perm.countP_eq, List.countP_cons_of_neg Bool.false_ne_true,
    List.countP_cons_of_pos rfl]
  exact Nat.lt_succ_of_le fewer

/-- Nobody calls `run`. -/
def Quiet (_ : ThreadPool Task) : Action Task → Prop
  | .call _ _ => False
  | .run _ _ | .test _ | .take _ _ | .execute _ | .wakeWorker _ | .wakeProducer _ | .stop
  | .join => True

instance (pool : ThreadPool Task) : (action : Action Task) → Decidable (pool.Quiet action)
  | .call _ _ => .isFalse id
  | .run _ _ | .test _ | .take _ _ | .execute _ | .wakeWorker _ | .wakeProducer _ | .stop
  | .join => .isTrue trivial

/-- The producers that are still in `run` all find room, once the tasks accepted before are
out of the queue. -/
def Roomy (before pool : ThreadPool Task) : Prop :=
  pool.callers + pool.queue.length ≤
    before.maxQueueSize + (before.accepted.length - pool.taken.length)

theorem stop_roomy (monitored : before.Monitored) (few : before.callers ≤ before.maxQueueSize) :
    Roomy before before.stop := by
  have length := congrArg List.length monitored.conserved.1
  rw [List.length_append] at length
  change before.callers + before.queue.length ≤
    before.maxQueueSize + (before.accepted.length - before.taken.length)
  omega

theorem Roomy.step (roomy : Roomy before pool) (quiet : pool.Quiet action)
    (step : pool.Step action next) : Roomy before next := by
  unfold Roomy at roomy ⊢
  cases step with
  | call _ => exact quiet.elim
  | @block _ _ _ task isPhase pending _ =>
      have count := callers_setProducer isPhase (.waiting task)
      rw [inRun_of_pending pending] at count
      rw [Nat.add_right_cancel count]
      exact roomy
  | @push producer _ _ task isPhase pending _ _ =>
      have count := callers_setProducer isPhase .idle
      rw [inRun_of_pending pending] at count
      have gone : (pool.setProducer producer .idle).callers + 1 = pool.callers := count
      have length : (pool.queue ++ [task]).length = pool.queue.length + 1 := List.length_append
      change (pool.setProducer producer .idle).callers + (pool.queue ++ [task]).length ≤ _
      rw [length]
      change _ ≤ before.maxQueueSize + (before.accepted.length - pool.taken.length)
      omega
  | @take _ _ _ task rest producers _ _ queue wakes isProducers =>
      have same : producers.countP ProducerPhase.inRun = pool.callers := by
        rw [isProducers]
        split
        · exact ConditionVariable.countP_notify wakes (fun phase _ => inRun_wake phase)
        · rfl
      rw [queue, List.length_cons] at roomy
      change producers.countP ProducerPhase.inRun + rest.length ≤
        before.maxQueueSize + (before.accepted.length - (pool.taken ++ [task]).length)
      rw [same, List.length_append, List.length_singleton]
      omega
  | @wakeProducer _ phase isPhase _ =>
      have count := callers_setProducer isPhase phase.wake
      rw [inRun_wake] at count
      rw [Nat.add_right_cancel count]
      exact roomy
  | enterTake _ _ | finish _ _ | wait _ _ _ _ | leave _ _ _ _ | execute _ _ | wakeWorker _
  | stop _ | join _ _ => exact roomy

theorem Draining.no_producer_waits (draining : Draining before pool) (monitored : pool.Monitored)
    (returned : pool.stopping = .returned) (few : before.queue.length ≤ before.takers)
    (roomy : Roomy before pool) (task : Task) : .waiting task ∉ pool.producers := by
  intro waits
  have noTakers := draining.takers_eq_zero returned
  have atLeast := draining.atLeast few
  have served := monitored.producersServed ⟨.waiting task, waits, rfl⟩
  have fewer := woken_lt_callers waits
  unfold Roomy at roomy
  rw [draining.maxQueueSize] at served
  omega

/-! ## Workers -/

def remaining (pool : ThreadPool Task) : Nat :=
  (pool.workers.map WorkerPhase.remaining).sum

def Action.byWorker : Action Task → Bool
  | .test _ | .take _ _ | .execute _ => true
  | .call _ _ | .run _ _ | .wakeWorker _ | .wakeProducer _ | .stop | .join => false

theorem remaining_of_isTaking {phase : WorkerPhase Task} (isTaking : phase.isTaking = true) :
    phase.remaining = 3 := by
  cases phase with
  | taking | woken => rfl
  | testing | waiting | holding _ | finished => cases isTaking

theorem remaining_setWorker {worker : Nat} {phase : WorkerPhase Task}
    (isPhase : pool.workers[worker]? = some phase) (after : WorkerPhase Task)
    (less : after.remaining < phase.remaining)
    (workers : next.workers = pool.workers.set worker after) :
    next.remaining < pool.remaining := by
  have sum := sum_change isPhase after WorkerPhase.remaining
  unfold remaining
  rw [workers]
  omega

theorem Draining.remaining_lt (draining : Draining before pool) (byWorker : action.byWorker = true)
    (step : pool.Step action next) : next.remaining < pool.remaining := by
  have stopped := draining.stopped
  cases step with
  | enterTake _ running | wait _ _ _ running =>
      rw [stopped] at running
      cases running
  | finish isPhase _ => exact remaining_setWorker isPhase .finished Nat.zero_lt_one rfl
  | leave isPhase isTaking _ _ =>
      refine remaining_setWorker isPhase .testing ?_ rfl
      rw [remaining_of_isTaking isTaking]
      exact Nat.lt_of_lt_of_le Nat.one_lt_two (Nat.le_succ 2)
  | @take _ _ _ task _ _ isPhase isTaking _ _ _ =>
      refine remaining_setWorker isPhase (.holding task) ?_ rfl
      rw [remaining_of_isTaking isTaking]
      exact Nat.lt_succ_self 2
  | @execute worker phase task isPhase isHeld =>
      cases phase with
      | holding _ => exact remaining_setWorker isPhase .testing Nat.one_lt_two rfl
      | testing | taking | waiting | woken | finished => cases isHeld
  | call _ | block _ _ _ | push _ _ _ _ | wakeWorker _ | wakeProducer _ _ | stop _ | join _ _ =>
      cases byWorker

/-- A worker that has not finished can go on. -/
theorem Draining.worker_allowed (draining : Draining before pool) (monitored : pool.Monitored)
    {phase : WorkerPhase Task} (member : phase ∈ pool.workers) (working : phase ≠ .finished) :
    ∃ action, action.byWorker = true ∧ pool.Allowed action := by
  rcases List.getElem?_of_mem member with ⟨worker, isPhase⟩
  have notWaiting := monitored.awake draining.stopped phase member
  rcases ConditionVariable.exists_wakes notFull pool.producers with ⟨notified, wakes⟩
  cases phase with
  | testing => exact ⟨.test worker, rfl, isPhase⟩
  | taking | woken => exact ⟨.take worker notified, rfl, ⟨_, isPhase, rfl⟩, wakes⟩
  | waiting => cases notWaiting
  | holding task => exact ⟨.execute worker, rfl, _, isPhase, rfl⟩
  | finished => exact absurd rfl working

/-! ## Every run -/

theorem step_of_ok (threads : pool.workers ≠ []) (allowed : pool.Allowed action)
    (ran : pool.step action = .ok next) : pool.Step action next := by
  rcases step_cases threads allowed with ⟨found, foundRan, step⟩
  rw [foundRan] at ran
  cases ran
  exact step

theorem reachable_draining (monitored : before.Monitored) (mayStop : before.stopping = .notCalled)
    {later : ThreadPool Task}
    (reachable : ((machine Task).startingAt before.stop).Reachable later) :
    later.Monitored ∧ Draining before later := by
  refine reachable.invariant (fun pool => pool.Monitored ∧ Draining before pool) ?_ ?_
  · rintro _ rfl
    exact ⟨monitored.step (.stop mayStop), stop_draining monitored⟩
  · intro pool action next holds allowed ran
    have step := step_of_ok holds.1.threads allowed ran
    exact ⟨holds.1.step step, holds.2.step holds.1 step⟩

/-- Each step of a worker brings `stop` nearer to its end, and there is one until then. -/
theorem Draining.returns (draining : Draining before pool) (monitored : pool.Monitored) :
    ∃ later, ((machine Task).startingAt pool).Reachable later ∧ later.stopping = .returned := by
  induction bound : pool.remaining using Nat.strongRecOn generalizing pool with
  | ind rest induction =>
      by_cases finished : ∀ phase ∈ pool.workers, phase = .finished
      · cases stopping : pool.stopping with
        | notCalled => exact absurd stopping draining.called
        | joining =>
            have joins : ((machine Task).startingAt pool).allowed pool .join :=
              ⟨stopping, finished⟩
            exact ⟨_, .step (.initial rfl) joins rfl, rfl⟩
        | returned => exact ⟨pool, .initial rfl, stopping⟩
      · rw [not_forall] at finished
        rcases finished with ⟨phase, unfinished⟩
        rcases Classical.not_imp.mp unfinished with ⟨member, working⟩
        rcases draining.worker_allowed monitored member working with ⟨action, byWorker, allowed⟩
        rcases step_cases monitored.threads allowed with ⟨next, ran, step⟩
        have less := draining.remaining_lt byWorker step
        rw [bound] at less
        rcases induction _ less (draining.step monitored step) (monitored.step step) rfl with
          ⟨later, reachable, returned⟩
        have moved : ((machine Task).startingAt pool).Reachable next :=
          .step (.initial rfl) allowed ran
        exact ⟨later, moved.startingAt_trans reachable, returned⟩

/-- Whatever has happened since `stop` was called, it can return. Every task is taken to return:
one that waits for ever, for instance in `run` of its own pool, keeps its thread from being
joined. -/
theorem stop_returns (reachable : (machine Task).Reachable before)
    (mayStop : before.stopping = .notCalled)
    (afterwards : ((machine Task).startingAt before.stop).Reachable pool) :
    ∃ later, ((machine Task).startingAt pool).Reachable later ∧ later.stopping = .returned := by
  have first := reachable_monitored.2 before reachable
  rcases reachable_draining first mayStop afterwards with ⟨monitored, draining⟩
  exact draining.returns monitored

theorem stop_returns_waiting :
    ∃ before later, (machine Nat).Reachable before ∧ before.producers = [.waiting 12] ∧
      ((machine Nat).startingAt before.stop).Reachable later ∧ later.stopping = .returned := by
  rcases (machine Nat).exists_reachable
    (fun before => before.producers = [.waiting 12] ∧ before.stopping = .notCalled)
    ⟨1, 1, 1, by decide, rfl⟩ [.test 0, .call 0 11, .run 0 none, .call 0 12, .run 0 none]
    (by decide) with ⟨before, reachable, producers, mayStop⟩
  rcases stop_returns reachable mayStop (.initial rfl) with ⟨later, afterwards, returned⟩
  exact ⟨before, later, reachable, producers, afterwards, returned⟩

theorem reachable_roomy (monitored : before.Monitored) (mayStop : before.stopping = .notCalled)
    (few : before.callers ≤ before.maxQueueSize) {later : ThreadPool Task}
    (reachable : (((machine Task).startingAt before.stop).restrict Quiet).Reachable later) :
    Roomy before later := by
  refine reachable.invariant_knowing
    (fun _ quietly => (reachable_draining monitored mayStop quietly.of_restrict).1)
    (Roomy before) ?_ ?_
  · rintro _ rfl
    exact stop_roomy monitored few
  · intro pool action next known roomy allowed ran
    exact roomy.step allowed.2 (step_of_ok known.threads allowed.1 ran)

/-- Evaluating two lists of actions exhibits a run through `stop`. -/
theorem exists_stopped [DecidableEq Task] (Property : ThreadPool Task → ThreadPool Task → Prop)
    [∀ before, DecidablePred (Property before)] {first : ThreadPool Task}
    (starts : (machine Task).initial first) (actions afterwards : List (Action Task))
    (holds : ((machine Task).execute first actions).any (fun before =>
      ((((machine Task).startingAt before.stop).restrict Quiet).execute before.stop
        afterwards).any (fun later => Property before later)) = true) :
    ∃ before later, (machine Task).Reachable before ∧
      (((machine Task).startingAt before.stop).restrict Quiet).Reachable later ∧
      Property before later := by
  rw [Option.any_eq_true] at holds
  rcases holds with ⟨before, ran, holds⟩
  rw [Option.any_eq_true] at holds
  rcases holds with ⟨later, ranOn, property⟩
  exact ⟨before, later, (Machine.Reachable.initial starts).execute ran,
    (Machine.Reachable.initial rfl).execute ranOn, of_decide_eq_true property⟩

/-- When `stop` has returned, the tasks accepted before have been run exactly if no more of
them were queued than workers were in `take`. No producer is then left waiting, if the
queue has no bound, or as many places as producers were in `run` and no other came. -/
theorem stop_barrier {later : ThreadPool Task} (reachable : (machine Task).Reachable before)
    (mayStop : before.stopping = .notCalled)
    (afterwards : ((machine Task).startingAt before.stop).Reachable later)
    (returned : later.stopping = .returned) :
    (Executed before later ↔ before.queue.length ≤ before.takers) ∧
    (before.queue.length ≤ before.takers →
      before.maxQueueSize = 0 ∨ (before.callers ≤ before.maxQueueSize ∧
        (((machine Task).startingAt before.stop).restrict Quiet).Reachable later) →
      ∀ task, .waiting task ∉ later.producers) := by
  have first := reachable_monitored.2 before reachable
  rcases reachable_draining first mayStop afterwards with ⟨monitored, draining⟩
  refine ⟨draining.executed_iff monitored first returned, ?_⟩
  intro few places task waits
  rcases places with zero | ⟨fit, quietly⟩
  · rw [← draining.maxQueueSize] at zero
    cases monitored.bounded.unbounded zero _ waits
  · exact draining.no_producer_waits monitored returned few
      (reachable_roomy first mayStop fit quietly) task waits

/-- A worker takes the queued task when the pool has been stopped, and the one place it
frees goes to the one producer that waits. -/
theorem stop_barrier_drained :
    ∃ before later, (machine Nat).Reachable before ∧ before.queue = [11] ∧
      before.producers = [.waiting 12] ∧ later.stopping = .returned ∧
      Executed before later ∧ .waiting 12 ∉ later.producers := by
  have run := exists_stopped
    (fun before later : ThreadPool Nat => before.queue = [11] ∧ before.takers = 1 ∧
      before.producers = [.waiting 12] ∧ before.maxQueueSize = 1 ∧
      before.stopping = .notCalled ∧ later.stopping = .returned)
    ⟨1, 1, 1, by decide, rfl⟩
    [.test 0, .call 0 11, .run 0 none, .call 0 12, .run 0 none]
    [.take 0 (some 0), .run 0 none, .execute 0, .test 0, .join]
    (by decide)
  rcases run with ⟨before, later, reachable, quietly, queue, takers, producers, size, mayStop,
    returned⟩
  have few : before.queue.length ≤ before.takers := by
    rw [queue, takers]
    exact Nat.le_refl 1
  have fit : before.callers ≤ before.maxQueueSize := by
    rw [callers, producers, size]
    exact Nat.le_refl 1
  rcases stop_barrier reachable mayStop quietly.of_restrict returned with ⟨executed, none⟩
  exact ⟨before, later, reachable, queue, producers, returned, executed.mpr few,
    none few (.inr ⟨fit, quietly⟩) 12⟩

/-- A task is dropped that was queued while the worker was on its way to `take`, and a
producer is left waiting, for which a queue of one has no place. -/
theorem stop_drops_task_and_producer :
    (∃ before later, (machine Nat).Reachable before ∧ before.stopping = .notCalled ∧
      ((machine Nat).startingAt before.stop).Reachable later ∧ later.stopping = .returned ∧
      before.accepted = [10] ∧ later.executed = []) ∧
    ∃ before later, (machine Nat).Reachable before ∧ before.stopping = .notCalled ∧
      ((machine Nat).startingAt before.stop).Reachable later ∧ later.stopping = .returned ∧
      before.producers = [.waiting 12, .waiting 13] ∧ later.workers = [.finished] ∧
      later.producers = [.idle, .waiting 13] := by
  constructor
  · have run := exists_stopped
      (fun before later : ThreadPool Nat => before.stopping = .notCalled ∧
        later.stopping = .returned ∧ before.accepted = [10] ∧ later.executed = [])
      ⟨0, 1, 1, by decide, rfl⟩ [.call 0 10, .run 0 none] [.test 0, .join] (by decide)
    rcases run with ⟨before, later, reachable, quietly, mayStop, found⟩
    exact ⟨before, later, reachable, mayStop, quietly.of_restrict, found⟩
  · have run := exists_stopped
      (fun before later : ThreadPool Nat => before.stopping = .notCalled ∧
        later.stopping = .returned ∧ before.producers = [.waiting 12, .waiting 13] ∧
        later.workers = [.finished] ∧ later.producers = [.idle, .waiting 13])
      ⟨1, 1, 2, by decide, rfl⟩
      [.test 0, .call 0 11, .run 0 none, .call 0 12, .run 0 none, .call 1 13, .run 1 none]
      [.take 0 (some 0), .run 0 none, .execute 0, .test 0, .join]
      (by decide)
    rcases run with ⟨before, later, reachable, quietly, mayStop, found⟩
    exact ⟨before, later, reachable, mayStop, quietly.of_restrict, found⟩

end ThreadPool

end Ccnet.Base
