import Ccnet.Foundation.Condition
import Ccnet.Foundation.Machine

namespace Ccnet.Base

/-! `base/thread_pool.cc`. What a thread does from getting the lock to releasing it, or
to blocking in `wait`, is one step. The threads read `running_` between two tasks
without the lock. -/

/-- Where a thread of the pool is. -/
inductive WorkerPhase (Task : Type)
  /-- Before the test of `running_`. -/
  | testing
  /-- In `take`, before it has the lock. -/
  | taking
  /-- In `notEmpty_.wait`. -/
  | waiting
  /-- Woken there, before it has the lock again. -/
  | woken
  | holding (task : Task)
  | finished
  deriving DecidableEq, Repr

/-- Where a thread is that adds tasks. -/
inductive ProducerPhase (Task : Type)
  | idle
  /-- In `run`, before it has the lock. -/
  | entering (task : Task)
  /-- In `notFull_.wait`. -/
  | waiting (task : Task)
  /-- Woken there, before it has the lock again. -/
  | woken (task : Task)
  deriving DecidableEq, Repr

inductive StopPhase
  | notCalled
  /-- After the block with the lock. -/
  | joining
  | returned
  deriving DecidableEq, Repr

namespace WorkerPhase

variable {Task : Type}

def isWaiting : WorkerPhase Task → Bool
  | .waiting => true
  | .testing | .taking | .woken | .holding _ | .finished => false

/-- In `take`, and not blocked. -/
def isTaking : WorkerPhase Task → Bool
  | .taking | .woken => true
  | .testing | .waiting | .holding _ | .finished => false

def inTake : WorkerPhase Task → Bool
  | .taking | .waiting | .woken => true
  | .testing | .holding _ | .finished => false

def held : WorkerPhase Task → Option Task
  | .holding task => some task
  | .testing | .taking | .waiting | .woken | .finished => none

end WorkerPhase

namespace ProducerPhase

variable {Task : Type}

def isWaiting : ProducerPhase Task → Bool
  | .waiting _ => true
  | .idle | .entering _ | .woken _ => false

def isWoken : ProducerPhase Task → Bool
  | .woken _ => true
  | .idle | .entering _ | .waiting _ => false

def inRun : ProducerPhase Task → Bool
  | .idle => false
  | .entering _ | .waiting _ | .woken _ => true

/-- The task of a producer that can get the lock. -/
def pending : ProducerPhase Task → Option Task
  | .entering task | .woken task => some task
  | .idle | .waiting _ => none

def wake : ProducerPhase Task → ProducerPhase Task
  | .waiting task => .woken task
  | .idle => .idle
  | .entering task => .entering task
  | .woken task => .woken task

end ProducerPhase

/-- The pool with all its threads. `accepted` are the tasks that were put into the queue,
`taken` those that were taken out of it, and `executed` those that have been run. -/
structure ThreadPool (Task : Type) where
  maxQueueSize : Nat
  running : Bool
  queue : List Task
  workers : List (WorkerPhase Task)
  producers : List (ProducerPhase Task)
  stopping : StopPhase
  accepted : List Task
  taken : List Task
  executed : List Task
  deriving DecidableEq, Repr

namespace ThreadPool

variable {Task : Type}

def notEmpty : ConditionVariable (WorkerPhase Task) where
  blocked := WorkerPhase.isWaiting
  wake _ := .woken

def notFull : ConditionVariable (ProducerPhase Task) where
  blocked := ProducerPhase.isWaiting
  wake := ProducerPhase.wake

def setWorker (pool : ThreadPool Task) (worker : Nat) (phase : WorkerPhase Task) :
    ThreadPool Task :=
  { pool with workers := pool.workers.set worker phase }

def setProducer (pool : ThreadPool Task) (producer : Nat) (phase : ProducerPhase Task) :
    ThreadPool Task :=
  { pool with producers := pool.producers.set producer phase }

/-! ## The pool -/

def isFull (pool : ThreadPool Task) : Prop :=
  0 < pool.maxQueueSize ∧ pool.maxQueueSize ≤ pool.queue.length

instance (pool : ThreadPool Task) : Decidable pool.isFull := inferInstanceAs (Decidable (_ ∧ _))

/-- One round of the loop in `run`, with the worker that `notify` wakes. -/
def run (pool : ThreadPool Task) (producer : Nat) (task : Task) (notified : Option Nat) :
    Checked (ThreadPool Task) :=
  if pool.workers.isEmpty then
    return { pool with executed := pool.executed ++ [task] }.setProducer producer .idle
  else if pool.isFull then
    return pool.setProducer producer (.waiting task)
  else do
    check (¬pool.isFull)
    return { pool with
      queue := pool.queue ++ [task]
      accepted := pool.accepted ++ [task]
      workers := notEmpty.notify pool.workers notified }.setProducer producer .idle

/-- One round of the loop in `take`, with the producer that `notify` wakes. -/
def take (pool : ThreadPool Task) (worker : Nat) (notified : Option Nat) : ThreadPool Task :=
  match pool.queue with
  | [] =>
      if pool.running then
        pool.setWorker worker .waiting
      else
        pool.setWorker worker .testing
  | task :: rest =>
      { pool with
        queue := rest
        taken := pool.taken ++ [task]
        producers := if pool.maxQueueSize > 0 then notFull.notify pool.producers notified
          else pool.producers }.setWorker worker (.holding task)

/-- The block with the lock. -/
def stop (pool : ThreadPool Task) : ThreadPool Task :=
  { pool with
    running := false
    workers := notEmpty.notifyAll pool.workers
    stopping := .joining }

/-! ## Runs -/

inductive Action (Task : Type)
  /-- A producer calls `run`. -/
  | call (producer : Nat) (task : Task)
  | run (producer : Nat) (notified : Option Nat)
  | test (worker : Nat)
  | take (worker : Nat) (notified : Option Nat)
  | execute (worker : Nat)
  /-- A worker is woken for no reason. -/
  | wakeWorker (worker : Nat)
  | wakeProducer (producer : Nat)
  | stop
  | join
  deriving Repr

def Allowed (pool : ThreadPool Task) : Action Task → Prop
  | .call producer _ => pool.producers[producer]? = some .idle
  | .run producer notified =>
      (∃ phase ∈ pool.producers[producer]?, phase.pending.isSome = true) ∧
        notEmpty.Wakes pool.workers notified
  | .test worker => pool.workers[worker]? = some .testing
  | .take worker notified => (∃ phase ∈ pool.workers[worker]?, phase.isTaking = true) ∧
      notFull.Wakes pool.producers notified
  | .execute worker => ∃ phase ∈ pool.workers[worker]?, phase.held.isSome = true
  | .wakeWorker worker => pool.workers[worker]? = some .waiting
  | .wakeProducer producer => ∃ phase ∈ pool.producers[producer]?, phase.isWaiting = true
  | .stop => pool.stopping = .notCalled
  | .join => pool.stopping = .joining ∧ ∀ phase ∈ pool.workers, phase = .finished

def step (pool : ThreadPool Task) : Action Task → Checked (ThreadPool Task)
  | .call producer task => return pool.setProducer producer (.entering task)
  | .run producer notified =>
      match pool.producers[producer]?.bind ProducerPhase.pending with
      | none => return pool
      | some task => pool.run producer task notified
  | .test worker => return pool.setWorker worker (if pool.running then .taking else .finished)
  | .take worker notified => return pool.take worker notified
  | .execute worker =>
      match pool.workers[worker]?.bind WorkerPhase.held with
      | none => return pool
      | some task =>
          return { pool with executed := pool.executed ++ [task] }.setWorker worker .testing
  | .wakeWorker worker => return { pool with workers := notEmpty.notify pool.workers (some worker) }
  | .wakeProducer producer =>
      return { pool with producers := notFull.notify pool.producers (some producer) }
  | .stop => return pool.stop
  | .join => return { pool with stopping := .returned }

/-- A pool that `start` has returned from. -/
def create (maxQueueSize numThreads numProducers : Nat) : ThreadPool Task where
  maxQueueSize
  running := true
  queue := []
  workers := List.replicate numThreads .testing
  producers := List.replicate numProducers .idle
  stopping := .notCalled
  accepted := []
  taken := []
  executed := []

def machine (Task : Type) : Machine (ThreadPool Task) (Action Task) where
  initial pool := ∃ maxQueueSize numThreads numProducers, 0 < numThreads ∧
    pool = create maxQueueSize numThreads numProducers
  allowed := Allowed
  step := step

/-! ## Evaluation -/

instance [DecidableEq Task] (pool : ThreadPool Task) :
    (action : Action Task) → Decidable (pool.Allowed action)
  | .call _ _ | .test _ | .wakeWorker _ | .stop => inferInstanceAs (Decidable (_ = _))
  | .run _ _ | .take _ _ | .join => inferInstanceAs (Decidable (_ ∧ _))
  | .execute worker => inferInstanceAs (Decidable
      (∃ phase ∈ pool.workers[worker]?, phase.held.isSome = true))
  | .wakeProducer producer => inferInstanceAs (Decidable
      (∃ phase ∈ pool.producers[producer]?, phase.isWaiting = true))

instance [DecidableEq Task] (pool : ThreadPool Task) (action : Action Task) :
    Decidable ((machine Task).allowed pool action) :=
  inferInstanceAs (Decidable (pool.Allowed action))

end ThreadPool

end Ccnet.Base
