import Ccnet.Foundation.Condition
import Ccnet.Foundation.Machine

namespace Ccnet.Base

/-! `base/bounded_blocking_queue.h`. What a thread does from getting the lock to
releasing it, or to blocking in `wait`, is one step. Any thread may put and take. -/

/-- What the queue uses of a `boost::circular_buffer<T>`. `items` are its elements, first element
first. -/
structure CircularBuffer (T Buffer : Type) where
  create : Nat → Buffer
  items : Buffer → List T
  capacity : Buffer → Nat
  full : Buffer → Bool
  empty : Buffer → Bool
  pushBack : Buffer → T → Buffer
  front : Buffer → Checked T
  popFront : Buffer → Buffer

namespace CircularBuffer

variable {T Buffer : Type} {buffers : CircularBuffer T Buffer} {buffer : Buffer}

/-- What is assumed of it. Nothing is said of adding to a full buffer, and of the first element of
an empty one. -/
structure Lawful (buffers : CircularBuffer T Buffer) : Prop where
  create_items : ∀ capacity, buffers.items (buffers.create capacity) = []
  create_capacity : ∀ capacity, buffers.capacity (buffers.create capacity) = capacity
  within : ∀ buffer, (buffers.items buffer).length ≤ buffers.capacity buffer
  full_iff : ∀ buffer,
    buffers.full buffer = true ↔ (buffers.items buffer).length = buffers.capacity buffer
  empty_iff : ∀ buffer, buffers.empty buffer = true ↔ buffers.items buffer = []
  pushBack_items : ∀ buffer item, buffers.full buffer = false →
    buffers.items (buffers.pushBack buffer item) = buffers.items buffer ++ [item]
  pushBack_capacity : ∀ buffer item, buffers.full buffer = false →
    buffers.capacity (buffers.pushBack buffer item) = buffers.capacity buffer
  front_items : ∀ buffer first rest, buffers.items buffer = first :: rest →
    buffers.front buffer = .ok first
  popFront_items : ∀ buffer first rest, buffers.items buffer = first :: rest →
    buffers.items (buffers.popFront buffer) = rest
  popFront_capacity : ∀ buffer first rest, buffers.items buffer = first :: rest →
    buffers.capacity (buffers.popFront buffer) = buffers.capacity buffer

theorem Lawful.length_lt_of_not_full (lawful : buffers.Lawful)
    (room : buffers.full buffer = false) :
    (buffers.items buffer).length < buffers.capacity buffer := by
  refine Nat.lt_of_le_of_ne (lawful.within buffer) fun isFull => ?_
  rw [(lawful.full_iff buffer).mpr isFull] at room
  cases room

theorem Lawful.exists_items_of_not_empty (lawful : buffers.Lawful)
    (some : buffers.empty buffer = false) : ∃ first rest,
      buffers.items buffer = first :: rest ∧ buffers.front buffer = .ok first := by
  cases items : buffers.items buffer with
  | nil =>
      rw [(lawful.empty_iff buffer).mpr items] at some
      cases some
  | cons first rest => exact ⟨first, rest, rfl, lawful.front_items buffer first rest items⟩

end CircularBuffer

/-- Where a thread is that uses the queue. -/
inductive QueuePhase (T : Type)
  /-- Outside the queue. -/
  | idle
  /-- In `put`, before it has the lock. -/
  | putting (item : T)
  /-- In `notFull_.wait`. -/
  | waitingFull (item : T)
  /-- Woken there, before it has the lock again. -/
  | wokenFull (item : T)
  /-- In `take`, before it has the lock. -/
  | taking
  /-- In `notEmpty_.wait`. -/
  | waitingEmpty
  /-- Woken there, before it has the lock again. -/
  | wokenEmpty
  deriving DecidableEq, Repr

namespace QueuePhase

variable {T : Type}

def isWaitingFull : QueuePhase T → Bool
  | .waitingFull _ => true
  | .idle | .putting _ | .wokenFull _ | .taking | .waitingEmpty | .wokenEmpty => false

def isWaitingEmpty : QueuePhase T → Bool
  | .waitingEmpty => true
  | .idle | .putting _ | .waitingFull _ | .wokenFull _ | .taking | .wokenEmpty => false

def isWokenFull : QueuePhase T → Bool
  | .wokenFull _ => true
  | .idle | .putting _ | .waitingFull _ | .taking | .waitingEmpty | .wokenEmpty => false

def isWokenEmpty : QueuePhase T → Bool
  | .wokenEmpty => true
  | .idle | .putting _ | .waitingFull _ | .wokenFull _ | .taking | .waitingEmpty => false

def isBlocked (phase : QueuePhase T) : Bool := phase.isWaitingFull || phase.isWaitingEmpty

/-- What a thread in `put` is about to add, once it has the lock. -/
def offered : QueuePhase T → Option T
  | .putting item | .wokenFull item => some item
  | .idle | .waitingFull _ | .taking | .waitingEmpty | .wokenEmpty => none

/-- In `take`, and not blocked. -/
def isTaking : QueuePhase T → Bool
  | .taking | .wokenEmpty => true
  | .idle | .putting _ | .waitingFull _ | .wokenFull _ | .waitingEmpty => false

def wakeFull : QueuePhase T → QueuePhase T
  | .waitingFull item => .wokenFull item
  | phase => phase

end QueuePhase

/-- The queue with all its threads. `accepted` are the values that were put, and `returned`
those that were taken, in the order of the locked regions. -/
structure BoundedBlockingQueue (T Buffer : Type) where
  queue : Buffer
  threads : List (QueuePhase T)
  accepted : List T
  returned : List T

namespace BoundedBlockingQueue

variable {T Buffer : Type}

def notFull : ConditionVariable (QueuePhase T) where
  blocked := QueuePhase.isWaitingFull
  wake := QueuePhase.wakeFull

def notEmpty : ConditionVariable (QueuePhase T) where
  blocked := QueuePhase.isWaitingEmpty
  wake _ := .wokenEmpty

def setThread (queue : BoundedBlockingQueue T Buffer) (thread : Nat) (phase : QueuePhase T) :
    BoundedBlockingQueue T Buffer :=
  { queue with threads := queue.threads.set thread phase }

/-- One round of the loop in `put`, with the thread that `notify` wakes. -/
def put (buffers : CircularBuffer T Buffer) (queue : BoundedBlockingQueue T Buffer)
    (thread : Nat) (item : T) (notified : Option Nat) :
    Checked (BoundedBlockingQueue T Buffer) :=
  if buffers.full queue.queue then
    return queue.setThread thread (.waitingFull item)
  else do
    check (¬buffers.full queue.queue)
    return { queue with
      queue := buffers.pushBack queue.queue item
      accepted := queue.accepted ++ [item]
      threads := (notEmpty.notify queue.threads notified).set thread .idle }

/-- One round of the loop in `take`, with the thread that `notify` wakes. -/
def take (buffers : CircularBuffer T Buffer) (queue : BoundedBlockingQueue T Buffer)
    (thread : Nat) (notified : Option Nat) : Checked (BoundedBlockingQueue T Buffer) :=
  if buffers.empty queue.queue then
    return queue.setThread thread .waitingEmpty
  else do
    check (¬buffers.empty queue.queue)
    let front ← buffers.front queue.queue
    return { queue with
      queue := buffers.popFront queue.queue
      returned := queue.returned ++ [front]
      threads := (notFull.notify queue.threads notified).set thread .idle }

/-! ## Runs -/

inductive Action (T : Type)
  /-- A thread calls `put`. -/
  | callPut (thread : Nat) (item : T)
  /-- A thread calls `take`. -/
  | callTake (thread : Nat)
  | put (thread : Nat) (notified : Option Nat)
  | take (thread : Nat) (notified : Option Nat)
  /-- A thread is woken for no reason. -/
  | wakePut (thread : Nat)
  | wakeTake (thread : Nat)
  deriving Repr

def Allowed (queue : BoundedBlockingQueue T Buffer) : Action T → Prop
  | .callPut thread _ | .callTake thread => ∃ phase ∈ queue.threads[thread]?, phase = .idle
  | .put thread notified =>
      (∃ phase ∈ queue.threads[thread]?, phase.offered.isSome = true) ∧
        notEmpty.Wakes queue.threads notified
  | .take thread notified =>
      (∃ phase ∈ queue.threads[thread]?, phase.isTaking = true) ∧
        notFull.Wakes queue.threads notified
  | .wakePut thread => ∃ phase ∈ queue.threads[thread]?, phase.isWaitingFull = true
  | .wakeTake thread => ∃ phase ∈ queue.threads[thread]?, phase.isWaitingEmpty = true

def step (buffers : CircularBuffer T Buffer) (queue : BoundedBlockingQueue T Buffer) :
    Action T → Checked (BoundedBlockingQueue T Buffer)
  | .callPut thread item => return queue.setThread thread (.putting item)
  | .callTake thread => return queue.setThread thread .taking
  | .put thread notified =>
      match queue.threads[thread]?.bind QueuePhase.offered with
      | none => return queue
      | some item => queue.put buffers thread item notified
  | .take thread notified => queue.take buffers thread notified
  | .wakePut thread => return { queue with threads := notFull.notify queue.threads (some thread) }
  | .wakeTake thread =>
      return { queue with threads := notEmpty.notify queue.threads (some thread) }

def create (buffers : CircularBuffer T Buffer) (maxSize numThreads : Nat) :
    BoundedBlockingQueue T Buffer where
  queue := buffers.create maxSize
  threads := List.replicate numThreads .idle
  accepted := []
  returned := []

/-- Any number of threads share a queue of the given capacity. -/
def machine (buffers : CircularBuffer T Buffer) (maxSize : Nat) :
    Machine (BoundedBlockingQueue T Buffer) (Action T) where
  initial queue := ∃ numThreads, queue = create buffers maxSize numThreads
  allowed := Allowed
  step := step buffers

instance (queue : BoundedBlockingQueue T Buffer) [DecidableEq T] :
    (action : Action T) → Decidable (queue.Allowed action)
  | .callPut thread _ | .callTake thread => inferInstanceAs (Decidable
      (∃ phase ∈ queue.threads[thread]?, phase = .idle))
  | .put _ _ | .take _ _ => inferInstanceAs (Decidable (_ ∧ _))
  | .wakePut thread => inferInstanceAs (Decidable
      (∃ phase ∈ queue.threads[thread]?, phase.isWaitingFull = true))
  | .wakeTake thread => inferInstanceAs (Decidable
      (∃ phase ∈ queue.threads[thread]?, phase.isWaitingEmpty = true))

instance [DecidableEq T] (buffers : CircularBuffer T Buffer) (maxSize : Nat)
    (queue : BoundedBlockingQueue T Buffer) (action : Action T) :
    Decidable ((machine buffers maxSize).allowed queue action) :=
  inferInstanceAs (Decidable (queue.Allowed action))

/-! ## What a step can do -/

variable {buffers : CircularBuffer T Buffer} {queue next : BoundedBlockingQueue T Buffer}
  {action : Action T} {maxSize : Nat}

inductive Step (buffers : CircularBuffer T Buffer) (queue : BoundedBlockingQueue T Buffer) :
    BoundedBlockingQueue T Buffer → Prop
  | callPut {thread : Nat} {item : T} : queue.threads[thread]? = some .idle →
      Step buffers queue (queue.setThread thread (.putting item))
  | callTake {thread : Nat} : queue.threads[thread]? = some .idle →
      Step buffers queue (queue.setThread thread .taking)
  /-- `put` finds the queue full. -/
  | blockPut {thread : Nat} {phase : QueuePhase T} {item : T} :
      queue.threads[thread]? = some phase → phase.offered = some item →
      buffers.full queue.queue = true →
      Step buffers queue (queue.setThread thread (.waitingFull item))
  | push {thread : Nat} {notified : Option Nat} {phase : QueuePhase T} {item : T} :
      queue.threads[thread]? = some phase → phase.offered = some item →
      buffers.full queue.queue = false → notEmpty.Wakes queue.threads notified →
      Step buffers queue { queue with
        queue := buffers.pushBack queue.queue item
        accepted := queue.accepted ++ [item]
        threads := (notEmpty.notify queue.threads notified).set thread .idle }
  /-- `take` finds the queue empty. -/
  | blockTake {thread : Nat} {phase : QueuePhase T} :
      queue.threads[thread]? = some phase → phase.isTaking = true →
      buffers.items queue.queue = [] → Step buffers queue (queue.setThread thread .waitingEmpty)
  | pop {thread : Nat} {notified : Option Nat} {phase : QueuePhase T} {first : T}
      {rest : List T} :
      queue.threads[thread]? = some phase → phase.isTaking = true →
      buffers.items queue.queue = first :: rest → notFull.Wakes queue.threads notified →
      Step buffers queue { queue with
        queue := buffers.popFront queue.queue
        returned := queue.returned ++ [first]
        threads := (notFull.notify queue.threads notified).set thread .idle }
  | wakePut {thread : Nat} {phase : QueuePhase T} : queue.threads[thread]? = some phase →
      notFull.blocked phase = true →
      Step buffers queue (queue.setThread thread (notFull.wake phase))
  | wakeTake {thread : Nat} {phase : QueuePhase T} : queue.threads[thread]? = some phase →
      notEmpty.blocked phase = true →
      Step buffers queue (queue.setThread thread (notEmpty.wake phase))

/-- Each allowed step succeeds, and is one of these. -/
theorem step_cases (lawful : buffers.Lawful) (allowed : queue.Allowed action) :
    ∃ next, queue.step buffers action = .ok next ∧ queue.Step buffers next := by
  cases action with
  | callPut thread item =>
      rcases allowed with ⟨phase, isPhase, rfl⟩
      exact ⟨_, rfl, .callPut isPhase⟩
  | callTake thread =>
      rcases allowed with ⟨phase, isPhase, rfl⟩
      exact ⟨_, rfl, .callTake isPhase⟩
  | put thread notified =>
      rcases allowed with ⟨⟨phase, isPhase, isOffered⟩, wakes⟩
      rcases Option.isSome_iff_exists.mp isOffered with ⟨item, offered⟩
      simp only [step, Option.mem_def.mp isPhase, Option.bind_some, offered, put]
      cases full : buffers.full queue.queue with
      | true => exact ⟨_, rfl, .blockPut isPhase offered full⟩
      | false =>
          rw [if_neg Bool.false_ne_true, Checked.check_bind_of Bool.false_ne_true]
          exact ⟨_, rfl, .push isPhase offered full wakes⟩
  | take thread notified =>
      rcases allowed with ⟨⟨phase, isPhase, isTaking⟩, wakes⟩
      simp only [step, take]
      cases empty : buffers.empty queue.queue with
      | true => exact ⟨_, rfl, .blockTake isPhase isTaking ((lawful.empty_iff _).mp empty)⟩
      | false =>
          rcases lawful.exists_items_of_not_empty empty with ⟨first, rest, items, front⟩
          rw [if_neg Bool.false_ne_true, Checked.check_bind_of Bool.false_ne_true, front]
          exact ⟨_, rfl, .pop isPhase isTaking items wakes⟩
  | wakePut thread =>
      rcases allowed with ⟨phase, isPhase, isWaiting⟩
      refine ⟨_, rfl, ?_⟩
      simp only [ConditionVariable.notify, List.modify_eq_set_getElem?, Option.mem_def.mp isPhase]
      exact .wakePut isPhase isWaiting
  | wakeTake thread =>
      rcases allowed with ⟨phase, isPhase, isWaiting⟩
      refine ⟨_, rfl, ?_⟩
      simp only [ConditionVariable.notify, List.modify_eq_set_getElem?, Option.mem_def.mp isPhase]
      exact .wakeTake isPhase isWaiting

/-! ## Values -/

/-- The values that were put are those that were taken, and then those in the queue. -/
def Conserved (buffers : CircularBuffer T Buffer) (queue : BoundedBlockingQueue T Buffer) : Prop :=
  queue.accepted = queue.returned ++ buffers.items queue.queue

theorem Conserved.step (conserved : queue.Conserved buffers) (lawful : buffers.Lawful)
    (step : queue.Step buffers next) : next.Conserved buffers := by
  unfold Conserved at conserved
  cases step with
  | push _ _ room _ =>
      rw [Conserved, lawful.pushBack_items _ _ room]
      simp [conserved]
  | pop _ _ items _ =>
      rw [Conserved]
      simp [lawful.popFront_items _ _ _ items, conserved, items]
  | callPut _ | callTake _ | blockPut _ _ _ | blockTake _ _ _ | wakePut _ _ | wakeTake _ _ =>
      exact conserved

theorem Step.capacity (step : queue.Step buffers next) (lawful : buffers.Lawful) :
    buffers.capacity next.queue = buffers.capacity queue.queue := by
  cases step with
  | push _ _ room _ => exact lawful.pushBack_capacity _ _ room
  | pop _ _ items _ => exact lawful.popFront_capacity _ _ _ items
  | callPut _ | callTake _ | blockPut _ _ _ | blockTake _ _ _ | wakePut _ _ | wakeTake _ _ => rfl

/-! ## Signals -/

theorem notFull_wake (phase : QueuePhase T) (isWaiting : notFull.blocked phase = true) :
    notFull.blocked (notFull.wake phase) = false ∧
      (notFull.wake phase).isWokenFull = true ∧ phase.isWokenFull = false := by
  cases phase with
  | waitingFull item => exact ⟨rfl, rfl, rfl⟩
  | idle | putting _ | wokenFull _ | taking | waitingEmpty | wokenEmpty => cases isWaiting

theorem notEmpty_wake (phase : QueuePhase T) (isWaiting : notEmpty.blocked phase = true) :
    notEmpty.blocked (notEmpty.wake phase) = false ∧
      (notEmpty.wake phase).isWokenEmpty = true ∧ phase.isWokenEmpty = false := by
  cases phase with
  | waitingEmpty => exact ⟨rfl, rfl, rfl⟩
  | idle | putting _ | waitingFull _ | wokenFull _ | taking | wokenEmpty => cases isWaiting

/-- A thread that waits for room is none that waits for a value. -/
theorem notFull_elsewhere (phase : QueuePhase T) (isWaiting : notFull.blocked phase = true) :
    notEmpty.blocked (notFull.wake phase) = false ∧ phase.isWokenEmpty = false := by
  cases phase with
  | waitingFull item => exact ⟨rfl, rfl⟩
  | idle | putting _ | wokenFull _ | taking | waitingEmpty | wokenEmpty => cases isWaiting

theorem notEmpty_elsewhere (phase : QueuePhase T) (isWaiting : notEmpty.blocked phase = true) :
    notFull.blocked (notEmpty.wake phase) = false ∧ phase.isWokenFull = false := by
  cases phase with
  | waitingEmpty => exact ⟨rfl, rfl⟩
  | idle | putting _ | waitingFull _ | wokenFull _ | taking | wokenEmpty => cases isWaiting

theorem offered_phase {phase : QueuePhase T} {item : T} (offered : phase.offered = some item) :
    notEmpty.blocked phase = false ∧ phase.isWokenEmpty = false := by
  cases phase with
  | putting _ | wokenFull _ => exact ⟨rfl, rfl⟩
  | idle | waitingFull _ | taking | waitingEmpty | wokenEmpty => cases offered

theorem taking_phase {phase : QueuePhase T} (isTaking : phase.isTaking = true) :
    notFull.blocked phase = false ∧ phase.isWokenFull = false := by
  cases phase with
  | taking | wokenEmpty => exact ⟨rfl, rfl⟩
  | idle | putting _ | waitingFull _ | wokenFull _ | waitingEmpty => cases isTaking

/-- While a thread waits for a value, a thread has been woken for each value there is. -/
def TakersServed (buffers : CircularBuffer T Buffer) (queue : BoundedBlockingQueue T Buffer) :
    Prop :=
  notEmpty.Served QueuePhase.isWokenEmpty queue.threads (buffers.items queue.queue).length

theorem TakersServed.step (served : queue.TakersServed buffers) (lawful : buffers.Lawful)
    (step : queue.Step buffers next) : next.TakersServed buffers := by
  cases step with
  | callPut isPhase | callTake isPhase =>
      exact ConditionVariable.Served.change served isPhase rfl (Nat.le_refl _)
  | blockPut isPhase offered _ =>
      refine ConditionVariable.Served.change served isPhase rfl ?_
      rw [(offered_phase offered).2]
      exact Nat.le_refl _
  | push isPhase offered room wakes =>
      rcases offered_phase offered with ⟨notBlocked, notReady⟩
      have more := ConditionVariable.Served.notify served wakes notEmpty_wake
      refine more.change (ConditionVariable.getElem?_notify wakes isPhase notBlocked) rfl ?_
      rw [lawful.pushBack_items _ _ room, List.length_append, notReady]
      exact Nat.le_refl _
  | blockTake _ _ empty =>
      unfold TakersServed
      change notEmpty.Served _ _ (buffers.items queue.queue).length
      rw [empty]
      exact .zero
  | @pop thread notified phase first rest isPhase isTaking items wakes =>
      have same := ConditionVariable.Served.notify_other served wakes notFull_elsewhere
      refine same.change
        (ConditionVariable.getElem?_notify wakes isPhase (taking_phase isTaking).1) rfl ?_
      have woken := Bool.toNat_le phase.isWokenEmpty
      rw [lawful.popFront_items _ _ _ items, items, List.length_cons]
      omega
  | wakePut isPhase isWaiting =>
      rcases notFull_elsewhere _ isWaiting with ⟨notBlocked, notReady⟩
      refine ConditionVariable.Served.change served isPhase notBlocked ?_
      rw [notReady]
      exact Nat.le_add_right _ _
  | wakeTake isPhase isWaiting =>
      rcases notEmpty_wake _ isWaiting with ⟨notBlocked, _, notReady⟩
      refine ConditionVariable.Served.change served isPhase notBlocked ?_
      rw [notReady]
      exact Nat.le_add_right _ _

/-- While a thread waits for room, a thread has been woken for each free place. -/
def PuttersServed (buffers : CircularBuffer T Buffer) (queue : BoundedBlockingQueue T Buffer) :
    Prop :=
  notFull.Served QueuePhase.isWokenFull queue.threads
    (buffers.capacity queue.queue - (buffers.items queue.queue).length)

theorem PuttersServed.step (served : queue.PuttersServed buffers) (lawful : buffers.Lawful)
    (step : queue.Step buffers next) : next.PuttersServed buffers := by
  cases step with
  | callPut isPhase | callTake isPhase =>
      exact ConditionVariable.Served.change served isPhase rfl (Nat.le_refl _)
  | blockPut _ _ full =>
      have none : buffers.capacity queue.queue - (buffers.items queue.queue).length = 0 := by
        rw [(lawful.full_iff _).mp full, Nat.sub_self]
      unfold PuttersServed
      change notFull.Served _ _
        (buffers.capacity queue.queue - (buffers.items queue.queue).length)
      rw [none]
      exact .zero
  | @push thread notified phase item isPhase offered room wakes =>
      have same := ConditionVariable.Served.notify_other served wakes notEmpty_elsewhere
      refine same.change
        (ConditionVariable.getElem?_notify wakes isPhase (offered_phase offered).1) rfl ?_
      have woken := Bool.toNat_le phase.isWokenFull
      have free := lawful.length_lt_of_not_full room
      rw [lawful.pushBack_items _ _ room, lawful.pushBack_capacity _ _ room,
        List.length_append, List.length_singleton]
      omega
  | blockTake isPhase isTaking _ =>
      refine ConditionVariable.Served.change served isPhase rfl ?_
      rw [(taking_phase isTaking).2]
      exact Nat.le_refl _
  | pop isPhase isTaking items wakes =>
      rcases taking_phase isTaking with ⟨notBlocked, notReady⟩
      have more := ConditionVariable.Served.notify served wakes notFull_wake
      refine more.change (ConditionVariable.getElem?_notify wakes isPhase notBlocked) rfl ?_
      have within := lawful.within queue.queue
      rw [items, List.length_cons] at within
      rw [lawful.popFront_items _ _ _ items, lawful.popFront_capacity _ _ _ items, notReady, items,
        List.length_cons, Bool.toNat_false]
      omega
  | wakePut isPhase isWaiting =>
      rcases notFull_wake _ isWaiting with ⟨notBlocked, _, notReady⟩
      refine ConditionVariable.Served.change served isPhase notBlocked ?_
      rw [notReady]
      exact Nat.le_add_right _ _
  | wakeTake isPhase isWaiting =>
      rcases notEmpty_elsewhere _ isWaiting with ⟨notBlocked, notReady⟩
      refine ConditionVariable.Served.change served isPhase notBlocked ?_
      rw [notReady]
      exact Nat.le_add_right _ _

/-! ## Every run -/

structure Monitored (buffers : CircularBuffer T Buffer) (maxSize : Nat)
    (queue : BoundedBlockingQueue T Buffer) : Prop where
  capacity : buffers.capacity queue.queue = maxSize
  conserved : queue.Conserved buffers
  takersServed : queue.TakersServed buffers
  puttersServed : queue.PuttersServed buffers

theorem Monitored.step (monitored : queue.Monitored buffers maxSize) (lawful : buffers.Lawful)
    (step : queue.Step buffers next) : next.Monitored buffers maxSize where
  capacity := (step.capacity lawful).trans monitored.capacity
  conserved := monitored.conserved.step lawful step
  takersServed := monitored.takersServed.step lawful step
  puttersServed := monitored.puttersServed.step lawful step

theorem create_monitored (lawful : buffers.Lawful) (maxSize numThreads : Nat) :
    (create buffers maxSize numThreads).Monitored buffers maxSize where
  capacity := lawful.create_capacity maxSize
  conserved := (lawful.create_items maxSize).symm
  takersServed := by
    rw [TakersServed, create, lawful.create_items]
    exact .zero
  puttersServed := .of_none (by simp [create, notFull, QueuePhase.isWaitingFull])

theorem reachable_monitored (lawful : buffers.Lawful) : (machine buffers maxSize).Safe ∧
    ∀ queue, (machine buffers maxSize).Reachable queue → queue.Monitored buffers maxSize := by
  refine Machine.safe_of_invariant (Monitored buffers maxSize) ?_ ?_
  · rintro _ ⟨numThreads, rfl⟩
    exact create_monitored lawful maxSize numThreads
  · intro queue action monitored allowed
    rcases step_cases lawful allowed with ⟨next, ran, step⟩
    exact ⟨next, ran, monitored.step lawful step⟩

/-- Some thread waits for what is there. -/
def Stranded (buffers : CircularBuffer T Buffer) (queue : BoundedBlockingQueue T Buffer) : Prop :=
  (∃ phase ∈ queue.threads, phase.isWaitingEmpty = true) ∧ buffers.items queue.queue ≠ [] ∨
    (∃ phase ∈ queue.threads, phase.isWaitingFull = true) ∧ buffers.full queue.queue = false

/-- Where a thread waits for what is there, another has been woken. -/
theorem Monitored.exists_awake (monitored : queue.Monitored buffers maxSize)
    (lawful : buffers.Lawful) (stranded : queue.Stranded buffers) :
    ∃ phase ∈ queue.threads, phase.isBlocked = false := by
  rcases stranded with ⟨waits, some⟩ | ⟨waits, room⟩
  · have signalled := monitored.takersServed waits
    have positive := List.length_pos_iff.mpr some
    rcases List.countP_pos_iff.mp (Nat.lt_of_lt_of_le positive signalled) with
      ⟨phase, member, woken⟩
    refine ⟨phase, member, ?_⟩
    cases phase with
    | wokenEmpty => rfl
    | idle | putting _ | waitingFull _ | wokenFull _ | taking | waitingEmpty => cases woken
  · have signalled := monitored.puttersServed waits
    have positive := Nat.sub_pos_of_lt (lawful.length_lt_of_not_full room)
    rcases List.countP_pos_iff.mp (Nat.lt_of_lt_of_le positive signalled) with
      ⟨phase, member, woken⟩
    refine ⟨phase, member, ?_⟩
    cases phase with
    | wokenFull _ => rfl
    | idle | putting _ | waitingFull _ | taking | waitingEmpty | wokenEmpty => cases woken

/-- No assertion fails, the queue is within its bound and loses no value, the values leave it
in the order in which they entered, and the threads are never all blocked while one of them
waits for what is there. -/
theorem fifo_channel (lawful : buffers.Lawful)
    (reachable : (machine buffers maxSize).Reachable queue) :
    (∀ action, queue.Allowed action → ∃ next, queue.step buffers action = .ok next) ∧
    buffers.capacity queue.queue = maxSize ∧ (buffers.items queue.queue).length ≤ maxSize ∧
    queue.accepted = queue.returned ++ buffers.items queue.queue ∧
    queue.returned <+: queue.accepted ∧
    ¬((∀ phase ∈ queue.threads, phase.isBlocked = true) ∧ queue.Stranded buffers) := by
  rcases reachable_monitored lawful with ⟨safe, monitor⟩
  have monitored := monitor queue reachable
  have conserved : queue.accepted = queue.returned ++ buffers.items queue.queue :=
    monitored.conserved
  refine ⟨safe queue reachable, monitored.capacity, ?_, conserved, ?_, ?_⟩
  · rw [← monitored.capacity]
    exact lawful.within queue.queue
  · rw [conserved]
    exact List.prefix_append _ _
  · rintro ⟨blocked, stranded⟩
    rcases monitored.exists_awake lawful stranded with ⟨phase, member, awake⟩
    rw [blocked phase member] at awake
    cases awake

/-- A list that stays within a bound. -/
structure BoundedList (T : Type) where
  capacity : Nat
  items : List T
  within : items.length ≤ capacity

/-- Circular buffers as bounded lists. On a full one the first element is overwritten. -/
def boundedList : CircularBuffer T (BoundedList T) where
  create capacity := ⟨capacity, [], Nat.zero_le _⟩
  items := BoundedList.items
  capacity := BoundedList.capacity
  full buffer := buffer.items.length == buffer.capacity
  empty buffer := buffer.items.isEmpty
  pushBack buffer item :=
    if room : buffer.items.length < buffer.capacity then
      ⟨buffer.capacity, buffer.items ++ [item], by simpa using Nat.succ_le_of_lt room⟩
    else
      ⟨buffer.capacity, (buffer.items ++ [item]).tail, by simpa using buffer.within⟩
  front buffer := element buffer.items 0
  popFront buffer :=
    ⟨buffer.capacity, buffer.items.tail,
      Nat.le_trans (List.tail_sublist _).length_le buffer.within⟩

theorem boundedList_lawful : (boundedList : CircularBuffer T (BoundedList T)).Lawful := by
  have room : ∀ buffer : BoundedList T, boundedList.full buffer = false →
      buffer.items.length < buffer.capacity := by
    intro buffer notFull
    have within := buffer.within
    have different : buffer.items.length ≠ buffer.capacity := by simpa [boundedList] using notFull
    omega
  exact {
    create_items := fun _ => rfl
    create_capacity := fun _ => rfl
    within := BoundedList.within
    full_iff := fun _ => beq_iff_eq
    empty_iff := fun _ => List.isEmpty_iff
    pushBack_items := fun buffer _ notFull => by simp [boundedList, room buffer notFull]
    pushBack_capacity := fun buffer _ notFull => by simp [boundedList, room buffer notFull]
    front_items := fun _ _ _ items => element_of (congrArg (·[0]?) items)
    popFront_items := fun _ _ _ items => congrArg List.tail items
    popFront_capacity := fun _ _ _ _ => rfl }

/-- Two threads wait for a value, and a third has put one: the queue is not empty, one of the
two still waits, and the other is on its way. -/
theorem fifo_channel_woken :
    ∃ queue, (machine (boundedList : CircularBuffer Nat (BoundedList Nat)) 1).Reachable queue ∧
      queue.threads = [.wokenEmpty, .waitingEmpty, .idle] ∧ queue.Stranded boundedList ∧
      queue.accepted = [10] ++ queue.queue.items ∧
      ¬∀ phase ∈ queue.threads, phase.isBlocked = true := by
  have run := Machine.exists_reachable
    (machine (boundedList : CircularBuffer Nat (BoundedList Nat)) 1)
    (fun queue => queue.threads = [.wokenEmpty, .waitingEmpty, .idle] ∧
      queue.queue.items = [11] ∧ queue.returned = [10])
    ⟨3, rfl⟩
    [.callPut 2 10, .put 2 none, .callTake 2, .take 2 none, .callTake 0, .take 0 none,
      .callTake 1, .take 1 none, .callPut 2 11, .put 2 (some 0)]
    (by decide)
  rcases run with ⟨queue, reachable, threads, items, returned⟩
  rcases fifo_channel boundedList_lawful reachable with ⟨_, _, _, conserved, _, awake⟩
  have stranded : queue.Stranded boundedList := by
    refine .inl ⟨⟨.waitingEmpty, ?_, rfl⟩, ?_⟩
    · simp [threads]
    · simp [boundedList, items]
  rw [returned] at conserved
  exact ⟨queue, reachable, threads, stranded, conserved, fun blocked => awake ⟨blocked, stranded⟩⟩

end BoundedBlockingQueue

end Ccnet.Base
