import Ccnet.Base.ThreadPool

/-! # The pool as a monitor

No task is lost or run twice, the queue stays within its bound, and no thread sleeps on
work or room that nobody else is on the way to. -/

namespace Ccnet.Base

namespace ThreadPool

variable {Task : Type} {pool next : ThreadPool Task} {action : Action Task}

/-! ## What a step can do -/

inductive Step (pool : ThreadPool Task) : Action Task → ThreadPool Task → Prop
  | call {producer : Nat} {task : Task} : pool.producers[producer]? = some .idle →
      Step pool (.call producer task) (pool.setProducer producer (.entering task))
  /-- `run` finds the queue full. -/
  | block {producer : Nat} {notified : Option Nat} {phase : ProducerPhase Task} {task : Task} :
      pool.producers[producer]? = some phase → phase.pending = some task → pool.isFull →
      Step pool (.run producer notified) (pool.setProducer producer (.waiting task))
  | push {producer : Nat} {notified : Option Nat} {phase : ProducerPhase Task} {task : Task} :
      pool.producers[producer]? = some phase → phase.pending = some task → ¬pool.isFull →
      notEmpty.Wakes pool.workers notified →
      Step pool (.run producer notified) { pool with
        queue := pool.queue ++ [task]
        accepted := pool.accepted ++ [task]
        workers := notEmpty.notify pool.workers notified
        producers := pool.producers.set producer .idle }
  | enterTake {worker : Nat} : pool.workers[worker]? = some .testing → pool.running = true →
      Step pool (.test worker) (pool.setWorker worker .taking)
  | finish {worker : Nat} : pool.workers[worker]? = some .testing → pool.running = false →
      Step pool (.test worker) (pool.setWorker worker .finished)
  /-- `take` finds the queue empty. -/
  | wait {worker : Nat} {notified : Option Nat} {phase : WorkerPhase Task} :
      pool.workers[worker]? = some phase → phase.isTaking = true → pool.queue = [] →
      pool.running = true → Step pool (.take worker notified) (pool.setWorker worker .waiting)
  /-- `take` finds the queue empty, and the pool stopped. -/
  | leave {worker : Nat} {notified : Option Nat} {phase : WorkerPhase Task} :
      pool.workers[worker]? = some phase → phase.isTaking = true → pool.queue = [] →
      pool.running = false → Step pool (.take worker notified) (pool.setWorker worker .testing)
  | take {worker : Nat} {notified : Option Nat} {phase : WorkerPhase Task} {task : Task}
      {rest : List Task} {producers : List (ProducerPhase Task)} :
      pool.workers[worker]? = some phase → phase.isTaking = true → pool.queue = task :: rest →
      notFull.Wakes pool.producers notified →
      producers = (if pool.maxQueueSize > 0 then notFull.notify pool.producers notified
        else pool.producers) →
      Step pool (.take worker notified) { pool with
        queue := rest
        taken := pool.taken ++ [task]
        workers := pool.workers.set worker (.holding task)
        producers }
  | execute {worker : Nat} {phase : WorkerPhase Task} {task : Task} :
      pool.workers[worker]? = some phase → phase.held = some task →
      Step pool (.execute worker) { pool with
        executed := pool.executed ++ [task]
        workers := pool.workers.set worker .testing }
  | wakeWorker {worker : Nat} : pool.workers[worker]? = some .waiting →
      Step pool (.wakeWorker worker) (pool.setWorker worker .woken)
  | wakeProducer {producer : Nat} {phase : ProducerPhase Task} :
      pool.producers[producer]? = some phase → phase.isWaiting = true →
      Step pool (.wakeProducer producer) (pool.setProducer producer phase.wake)
  | stop : pool.stopping = .notCalled → Step pool .stop pool.stop
  | join : pool.stopping = .joining → (∀ phase ∈ pool.workers, phase = .finished) →
      Step pool .join { pool with stopping := .returned }

/-- Each allowed step succeeds, and is one of these. -/
theorem step_cases (threads : pool.workers ≠ []) (allowed : pool.Allowed action) :
    ∃ next, pool.step action = .ok next ∧ pool.Step action next := by
  cases action with
  | call producer task => exact ⟨_, rfl, .call allowed⟩
  | run producer notified =>
      rcases allowed with ⟨⟨phase, isPhase, isPending⟩, wakes⟩
      rcases Option.isSome_iff_exists.mp isPending with ⟨task, pending⟩
      simp only [step, Option.mem_def.mp isPhase, Option.bind_some, pending, run,
        List.isEmpty_iff, threads, if_false]
      split
      · rename_i full
        exact ⟨_, rfl, .block isPhase pending full⟩
      · rename_i notFull
        rw [Checked.check_bind_of notFull]
        exact ⟨_, rfl, .push isPhase pending notFull wakes⟩
  | test worker =>
      refine ⟨_, rfl, ?_⟩
      cases running : pool.running with
      | true => exact .enterTake allowed running
      | false => exact .finish allowed running
  | take worker notified =>
      rcases allowed with ⟨⟨phase, isPhase, isTaking⟩, wakes⟩
      refine ⟨_, rfl, ?_⟩
      unfold ThreadPool.take
      split
      · rename_i empty
        split
        · rename_i running
          exact .wait isPhase isTaking empty running
        · rename_i stopped
          exact .leave isPhase isTaking empty (Bool.eq_false_iff.mpr stopped)
      · rename_i task rest queue
        exact .take isPhase isTaking queue wakes rfl
  | execute worker =>
      rcases allowed with ⟨phase, isPhase, isHeld⟩
      rcases Option.isSome_iff_exists.mp isHeld with ⟨task, held⟩
      simp only [step, Option.mem_def.mp isPhase, Option.bind_some, held]
      exact ⟨_, rfl, .execute isPhase held⟩
  | wakeWorker worker =>
      refine ⟨_, rfl, ?_⟩
      have isPhase : pool.workers[worker]? = some .waiting := allowed
      simp only [ConditionVariable.notify, List.modify_eq_set_getElem?, isPhase]
      exact .wakeWorker isPhase
  | wakeProducer producer =>
      rcases allowed with ⟨phase, isPhase, isWaiting⟩
      refine ⟨_, rfl, ?_⟩
      simp only [ConditionVariable.notify, List.modify_eq_set_getElem?, Option.mem_def.mp isPhase]
      exact .wakeProducer isPhase isWaiting
  | stop => exact ⟨_, rfl, .stop allowed⟩
  | join => exact ⟨_, rfl, .join allowed.1 allowed.2⟩

/-! ## Tasks -/

/-- The tasks that a worker has taken and not yet run. -/
def held (pool : ThreadPool Task) : List Task := pool.workers.filterMap WorkerPhase.held

theorem held_none_of_isTaking {phase : WorkerPhase Task} (isTaking : phase.isTaking = true) :
    phase.held = none := by
  cases phase with
  | taking | woken => rfl
  | testing | waiting | holding _ | finished => cases isTaking

/-- A worker that holds no task goes on without one. -/
theorem held_setWorker {worker : Nat} {before after : WorkerPhase Task}
    (isPhase : pool.workers[worker]? = some before) (emptyBefore : before.held = none)
    (emptyAfter : after.held = none) : (pool.setWorker worker after).held.Perm pool.held := by
  rcases filterMap_change isPhase WorkerPhase.held with ⟨others, isBefore, isAfter⟩
  have now := isAfter after
  rw [emptyBefore] at isBefore
  rw [emptyAfter] at now
  exact now.trans isBefore.symm

theorem held_stop (pool : ThreadPool Task) : pool.stop.held = pool.held := by
  simp only [held, stop, ConditionVariable.notifyAll, List.filterMap_map]
  congr 1
  funext phase
  cases phase <;> rfl

/-- Each task that was taken is with a worker or has been run. -/
def Conserved (pool : ThreadPool Task) : Prop :=
  pool.accepted = pool.taken ++ pool.queue ∧ pool.taken.Perm (pool.executed ++ pool.held)

theorem Conserved.of_held (conserved : pool.Conserved) (accepted : next.accepted = pool.accepted)
    (taken : next.taken = pool.taken) (queue : next.queue = pool.queue)
    (executed : next.executed = pool.executed) (held : next.held.Perm pool.held) :
    next.Conserved := by
  unfold Conserved
  rw [accepted, taken, queue, executed]
  exact ⟨conserved.1, conserved.2.trans (held.symm.append_left _)⟩

theorem Conserved.step (conserved : pool.Conserved) (step : pool.Step action next) :
    next.Conserved := by
  cases step with
  | call _ | block _ _ _ | wakeProducer _ _ | join _ _ => exact conserved
  | push isPhase pending notFull wakes =>
      refine ⟨?_, conserved.2.trans ?_⟩
      · simp [conserved.1]
      · refine List.Perm.append_left _ (List.Perm.symm ?_)
        refine ConditionVariable.filterMap_notify wakes ?_
        intro phase isWaiting
        cases phase with
        | waiting => rfl
        | testing | taking | woken | holding _ | finished => cases isWaiting
  | enterTake isPhase _ | finish isPhase _ | wakeWorker isPhase =>
      exact conserved.of_held rfl rfl rfl rfl (held_setWorker isPhase rfl rfl)
  | wait isPhase isTaking _ _ | leave isPhase isTaking _ _ =>
      exact conserved.of_held rfl rfl rfl rfl
        (held_setWorker isPhase (held_none_of_isTaking isTaking) rfl)
  | @take worker notified phase task rest producers isPhase isTaking queue _ _ =>
      refine ⟨?_, ?_⟩
      · simp [conserved.1, queue]
      · rcases filterMap_change isPhase WorkerPhase.held with ⟨others, before, after⟩
        rw [held_none_of_isTaking isTaking] at before
        have now : pool.held.Perm others := before
        calc pool.taken ++ [task]
          _ |>.Perm (pool.executed ++ pool.held ++ [task]) := conserved.2.append_right _
          _ |>.Perm (pool.executed ++ ([task] ++ others)) := by
            rw [List.append_assoc]
            exact (List.perm_append_comm.trans (now.append_left _)).append_left _
          _ |>.Perm _ := (after (.holding task)).symm.append_left _
  | @execute worker phase task isPhase isHeld =>
      refine ⟨conserved.1, ?_⟩
      rcases filterMap_change isPhase WorkerPhase.held with ⟨others, before, after⟩
      rw [isHeld] at before
      calc pool.taken
        _ |>.Perm (pool.executed ++ ([task] ++ others)) :=
          conserved.2.trans (before.append_left _)
        _ = pool.executed ++ [task] ++ others := (List.append_assoc ..).symm
        _ |>.Perm _ := (after .testing).symm.append_left _
  | stop _ =>
      exact conserved.of_held rfl rfl rfl rfl (by rw [held_stop])

/-! ## The bound -/

/-- The queue is within its bound, and without one nobody waits for room. -/
structure Bounded (pool : ThreadPool Task) : Prop where
  length : 0 < pool.maxQueueSize → pool.queue.length ≤ pool.maxQueueSize
  unbounded : pool.maxQueueSize = 0 → ∀ phase ∈ pool.producers, phase.isWaiting = false

theorem Bounded.setProducer {producer : Nat} {phase : ProducerPhase Task} (bounded : pool.Bounded)
    (notWaiting : pool.maxQueueSize = 0 → phase.isWaiting = false) :
    Bounded (pool.setProducer producer phase) where
  length := bounded.length
  unbounded zero found member := by
    rcases List.mem_or_eq_of_mem_set member with old | rfl
    · exact bounded.unbounded zero found old
    · exact notWaiting zero

theorem Bounded.step (bounded : pool.Bounded) (step : pool.Step action next) : next.Bounded := by
  cases step with
  | call _ => exact bounded.setProducer (fun _ => rfl)
  | block _ _ full =>
      refine bounded.setProducer (fun zero => ?_)
      have positive := full.1
      omega
  | @push producer _ _ _ _ _ notFull _ =>
      have freed : (pool.setProducer producer .idle).Bounded := bounded.setProducer (fun _ => rfl)
      refine ⟨?_, freed.unbounded⟩
      intro positive
      have positive : 0 < pool.maxQueueSize := positive
      have room : ¬pool.maxQueueSize ≤ pool.queue.length := fun full => notFull ⟨positive, full⟩
      simp only [List.length_append, List.length_singleton]
      omega
  | take _ _ queue wakes isProducers =>
      refine ⟨?_, ?_⟩
      · intro positive
        have before := bounded.length positive
        rw [queue, List.length_cons] at before
        exact Nat.le_of_succ_le before
      · intro zero
        have zero : pool.maxQueueSize = 0 := zero
        rw [isProducers, if_neg (by omega)]
        exact bounded.unbounded zero
  | wakeProducer isPhase isWaiting =>
      refine bounded.setProducer (fun zero => ?_)
      rw [bounded.unbounded zero _ (List.mem_of_getElem? isPhase)] at isWaiting
      cases isWaiting
  | enterTake _ _ | finish _ _ | wait _ _ _ _ | leave _ _ _ _ | execute _ _ | wakeWorker _
  | stop _ | join _ _ => exact ⟨bounded.length, bounded.unbounded⟩

/-! ## Signals -/

/-- After `stop`, no worker is blocked. -/
def Awake (pool : ThreadPool Task) : Prop :=
  pool.running = false → ∀ phase ∈ pool.workers, phase.isWaiting = false

theorem notEmpty_wake (phase : WorkerPhase Task) (isWaiting : notEmpty.blocked phase = true) :
    notEmpty.blocked (notEmpty.wake phase) = false ∧
      (notEmpty.wake phase).isTaking = true ∧ phase.isTaking = false := by
  cases phase with
  | waiting => exact ⟨rfl, rfl, rfl⟩
  | testing | taking | woken | holding _ | finished => cases isWaiting

theorem notFull_wake (phase : ProducerPhase Task) (isWaiting : notFull.blocked phase = true) :
    notFull.blocked (notFull.wake phase) = false ∧
      (notFull.wake phase).isWoken = true ∧ phase.isWoken = false := by
  cases phase with
  | waiting task => exact ⟨rfl, rfl, rfl⟩
  | idle | entering _ | woken _ => cases isWaiting

theorem Awake.setWorker {worker : Nat} {phase : WorkerPhase Task} (awake : pool.Awake)
    (notWaiting : pool.running = false → phase.isWaiting = false) :
    Awake (pool.setWorker worker phase) := by
  intro stopped found member
  rcases List.mem_or_eq_of_mem_set member with old | rfl
  · exact awake stopped found old
  · exact notWaiting stopped

theorem Awake.step (awake : pool.Awake) (step : pool.Step action next) : next.Awake := by
  cases step with
  | push _ _ _ wakes =>
      intro stopped phase member
      exact ConditionVariable.not_blocked_notify wakes (fun phase blocked =>
        (notEmpty_wake phase blocked).1) (awake stopped) member
  | enterTake _ _ | finish _ _ | leave _ _ _ _ | take _ _ _ _ _ | execute _ _ | wakeWorker _ =>
      exact awake.setWorker (fun _ => rfl)
  | wait _ _ _ running =>
      refine awake.setWorker (fun stopped => ?_)
      rw [running] at stopped
      cases stopped
  | stop _ =>
      intro _ phase member
      rcases List.mem_map.mp member with ⟨before, _, rfl⟩
      cases before <;> rfl
  | call _ | block _ _ _ | wakeProducer _ _ | join _ _ => exact awake

/-- No worker sleeps on a task that nobody else is on the way to. -/
def WorkersServed (pool : ThreadPool Task) : Prop :=
  notEmpty.Served WorkerPhase.isTaking pool.workers pool.queue.length

theorem WorkersServed.step (served : pool.WorkersServed) (awake : pool.Awake)
    (step : pool.Step action next) : next.WorkersServed := by
  cases step with
  | call _ | block _ _ _ | wakeProducer _ _ | join _ _ => exact served
  | push _ _ _ wakes =>
      unfold WorkersServed
      rw [List.length_append]
      exact ConditionVariable.Served.notify served wakes notEmpty_wake
  | enterTake isPhase _ | wakeWorker isPhase =>
      exact ConditionVariable.Served.change served isPhase rfl (Nat.le_succ _)
  | finish isPhase _ => exact ConditionVariable.Served.change served isPhase rfl (Nat.le_refl _)
  | wait _ _ empty _ | leave _ _ empty _ =>
      unfold WorkersServed
      change notEmpty.Served _ _ pool.queue.length
      rw [empty]
      exact .zero
  | take isPhase isTaking queue _ _ =>
      refine ConditionVariable.Served.change served isPhase rfl ?_
      rw [isTaking, queue]
      exact Nat.le_refl _
  | @execute worker phase task isPhase isHeld =>
      refine ConditionVariable.Served.change served isPhase rfl ?_
      cases phase with
      | holding task => exact Nat.le_refl _
      | testing | taking | waiting | woken | finished => cases isHeld
  | stop mayStop => exact .of_none (awake.step (.stop mayStop) rfl)

/-- No producer sleeps on room that nobody else is on the way to. -/
def ProducersServed (pool : ThreadPool Task) : Prop :=
  notFull.Served ProducerPhase.isWoken pool.producers
    (pool.maxQueueSize - pool.queue.length)

theorem ProducersServed.unbounded (zero : pool.maxQueueSize = 0) : pool.ProducersServed := by
  unfold ProducersServed
  rw [zero, Nat.zero_sub]
  exact .zero

theorem ProducersServed.step (served : pool.ProducersServed) (bounded : pool.Bounded)
    (step : pool.Step action next) : next.ProducersServed := by
  cases step with
  | call isPhase => exact ConditionVariable.Served.change served isPhase rfl (Nat.le_refl _)
  | block _ _ full =>
      unfold ProducersServed
      have none : pool.maxQueueSize - pool.queue.length = 0 := Nat.sub_eq_zero_of_le full.2
      change notFull.Served _ _ (pool.maxQueueSize - pool.queue.length)
      rw [none]
      exact .zero
  | @push producer notified phase task isPhase pending notFull _ =>
      by_cases zero : pool.maxQueueSize = 0
      · exact .unbounded zero
      · have room : pool.queue.length < pool.maxQueueSize := by
          by_contra full
          exact notFull ⟨by omega, by omega⟩
        refine ConditionVariable.Served.change served isPhase rfl ?_
        have woken := Bool.toNat_le phase.isWoken
        have idle : (ProducerPhase.idle : ProducerPhase Task).isWoken.toNat = 0 := rfl
        simp only [List.length_append, List.length_singleton, idle]
        omega
  | @take _ _ _ _ rest _ _ _ queue wakes isProducers =>
      by_cases positive : pool.maxQueueSize > 0
      · have before := bounded.length positive
        have more := ConditionVariable.Served.notify served wakes notFull_wake
        rw [queue, List.length_cons] at before more
        unfold ProducersServed
        rw [isProducers, if_pos positive]
        have freed : pool.maxQueueSize - rest.length =
            pool.maxQueueSize - (rest.length + 1) + 1 := by omega
        dsimp only
        rw [freed]
        exact more
      · exact .unbounded (Nat.eq_zero_of_not_pos positive)
  | wakeProducer isPhase isWaiting =>
      rcases notFull_wake _ isWaiting with ⟨notBlocked, isWoken, notWoken⟩
      refine ConditionVariable.Served.change served isPhase notBlocked ?_
      rw [notWoken]
      exact Nat.le_add_right _ _
  | enterTake _ _ | finish _ _ | wait _ _ _ _ | leave _ _ _ _ | execute _ _ | wakeWorker _
  | stop _ | join _ _ => exact served

/-! ## Every run -/

structure Monitored (pool : ThreadPool Task) : Prop where
  threads : pool.workers ≠ []
  conserved : pool.Conserved
  bounded : pool.Bounded
  awake : pool.Awake
  workersServed : pool.WorkersServed
  producersServed : pool.ProducersServed

theorem Step.threads (step : pool.Step action next) (threads : pool.workers ≠ []) :
    next.workers ≠ [] := by
  have length : next.workers.length = pool.workers.length := by
    cases step with
    | push _ _ _ wakes =>
        rcases ConditionVariable.notify_cases wakes with ⟨unchanged, _⟩ | ⟨_, _, _, _, changed⟩
        · exact congrArg List.length unchanged
        · exact (congrArg List.length changed).trans List.length_set
    | stop _ => exact List.length_map _
    | call _ | block _ _ _ | wakeProducer _ _ | join _ _ => rfl
    | enterTake _ _ | finish _ _ | wait _ _ _ _ | leave _ _ _ _ | take _ _ _ _ _ | execute _ _
    | wakeWorker _ => exact List.length_set
  intro empty
  rw [empty] at length
  exact threads (List.length_eq_zero_iff.mp length.symm)

theorem Monitored.step (monitored : pool.Monitored) (step : pool.Step action next) :
    next.Monitored where
  threads := step.threads monitored.threads
  conserved := monitored.conserved.step step
  bounded := monitored.bounded.step step
  awake := monitored.awake.step step
  workersServed := monitored.workersServed.step monitored.awake step
  producersServed := monitored.producersServed.step monitored.bounded step

theorem create_monitored {numThreads : Nat} (positive : 0 < numThreads)
    (maxQueueSize numProducers : Nat) :
    (create maxQueueSize numThreads numProducers : ThreadPool Task).Monitored where
  threads := by
    simp [create]
    omega
  conserved := by simp [Conserved, held, create, WorkerPhase.held]
  bounded := ⟨fun _ => Nat.zero_le _, by simp [create, ProducerPhase.isWaiting]⟩
  awake stopped := by cases stopped
  workersServed := .zero
  producersServed := .of_none (by simp [create, notFull, ProducerPhase.isWaiting])

theorem reachable_monitored :
    (machine Task).Safe ∧ ∀ pool, (machine Task).Reachable pool → pool.Monitored := by
  refine Machine.safe_of_invariant Monitored ?_ ?_
  · rintro _ ⟨maxQueueSize, numThreads, numProducers, positive, rfl⟩
    exact create_monitored positive maxQueueSize numProducers
  · intro pool action monitored allowed
    rcases step_cases monitored.threads allowed with ⟨next, ran, step⟩
    exact ⟨next, ran, monitored.step step⟩

end ThreadPool

end Ccnet.Base
