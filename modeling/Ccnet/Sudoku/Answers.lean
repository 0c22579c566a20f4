import Mathlib.Data.List.Perm.Basic
import Ccnet.Net.Connection.Issued
import Ccnet.Sudoku.Service

/-! # One answer for each request

However the threads of the pool, the loop and the network interleave, each request that was handed
to the pool has one reply at most, and the replies go out as whole lines. -/

namespace Ccnet.Base.ThreadPool

variable {Task : Type} {pool next : ThreadPool Task} {action : Action Task}

/-! ## Tasks that are not done -/

def tasks (pool : ThreadPool Task) : List Task := pool.queue ++ pool.held

/-- What a step adds to the tasks and what it finishes. -/
inductive Turnover (pool next : ThreadPool Task) : Action Task → Prop
  | keep {action : Action Task} : next.tasks.Perm pool.tasks → Turnover pool next action
  | add {producer : Nat} {notified : Option Nat} {phase : ProducerPhase Task} {task : Task} :
      pool.producers[producer]? = some phase → phase.pending = some task →
      next.tasks.Perm (task :: pool.tasks) → Turnover pool next (.run producer notified)
  | finish {worker : Nat} {phase : WorkerPhase Task} {task : Task} :
      pool.workers[worker]? = some phase → phase.held = some task →
      (task :: next.tasks).Perm pool.tasks → Turnover pool next (.execute worker)

/-- `run` puts a task into the queue. -/
theorem tasks_push {producer : Nat} {notified : Option Nat} {task : Task}
    (wakes : notEmpty.Wakes pool.workers notified) :
    (tasks { pool with
      queue := pool.queue ++ [task]
      accepted := pool.accepted ++ [task]
      workers := notEmpty.notify pool.workers notified
      producers := pool.producers.set producer .idle }).Perm (task :: pool.tasks) := by
  have held : ((notEmpty.notify pool.workers notified).filterMap WorkerPhase.held).Perm
      pool.held := by
    refine ConditionVariable.filterMap_notify wakes ?_
    intro phase isWaiting
    cases phase with
    | waiting => rfl
    | testing | taking | woken | holding _ | finished => cases isWaiting
  calc (pool.queue ++ [task]) ++ (notEmpty.notify pool.workers notified).filterMap WorkerPhase.held
    _ |>.Perm (pool.queue ++ [task] ++ pool.held) := held.append_left _
    _ |>.Perm (task :: (pool.queue ++ pool.held)) := by
      rw [List.append_assoc]
      exact List.perm_middle

theorem Step.turnover (step : pool.Step action next) : Turnover pool next action := by
  cases step with
  | call _ | block _ _ _ | wakeProducer _ _ | join _ _ => exact .keep (.refl _)
  | enterTake isPhase _ | finish isPhase _ | wakeWorker isPhase =>
      exact .keep ((held_setWorker isPhase rfl rfl).append_left _)
  | wait isPhase isTaking _ _ | leave isPhase isTaking _ _ =>
      exact .keep ((held_setWorker isPhase (held_none_of_isTaking isTaking) rfl).append_left _)
  | push isPhase pending _ wakes => exact .add isPhase pending (tasks_push wakes)
  | @take worker notified phase task rest producers isPhase isTaking queue _ _ =>
      refine .keep ?_
      rcases filterMap_change isPhase WorkerPhase.held with ⟨others, before, after⟩
      rw [held_none_of_isTaking isTaking] at before
      have now : pool.held.Perm others := before
      calc rest ++ (pool.workers.set worker (.holding task)).filterMap WorkerPhase.held
        _ |>.Perm (rest ++ ([task] ++ others)) := (after (.holding task)).append_left _
        _ |>.Perm (rest ++ (task :: pool.held)) := (now.symm.cons task).append_left _
        _ |>.Perm (task :: (rest ++ pool.held)) := List.perm_middle
        _ = pool.tasks := by rw [tasks, queue, List.cons_append]
  | @execute worker phase task isPhase isHeld =>
      refine .finish isPhase isHeld ?_
      rcases filterMap_change isPhase WorkerPhase.held with ⟨others, before, after⟩
      rw [isHeld] at before
      calc task :: (pool.queue ++ (pool.workers.set worker .testing).filterMap WorkerPhase.held)
        _ |>.Perm (task :: (pool.queue ++ others)) := ((after .testing).append_left _).cons _
        _ |>.Perm (pool.queue ++ task :: others) := List.perm_middle.symm
        _ |>.Perm pool.tasks := before.symm.append_left _
  | stop _ =>
      refine .keep ?_
      rw [tasks, held_stop]
      exact .refl _

end Ccnet.Base.ThreadPool

namespace Ccnet.Sudoku.SudokuService

open Ccnet.Net
open Ccnet.Base

variable {service next : SudokuService}

/-! ## Requests -/

/-- The requests that were handed over and have no reply yet. -/
def outstanding (service : SudokuService) : List Content :=
  service.reader.content?.toList ++ service.pool.tasks.filterMap SudokuTask.content?

/-- Each request is with a reply, dropped or outstanding, and the replies are what the
connection was given. -/
structure Recorded (service : SudokuService) (outstanding : List Content) : Prop where
  accounted : (service.outgoing.filterMap (fun entry => entry.1.content?) ++ service.dropped ++
    outstanding).Perm service.handed
  issued : service.outgoing.map (fun entry => entry.2) = service.connection.history.issued
  messages : ∀ entry ∈ service.outgoing, entry.1.message = .ok entry.2.2

theorem send_ok {caller : Caller} {reply : Reply} {result : WriteResult}
    (ran : service.send caller reply result = .ok next) :
    ∃ message connection, reply.message = .ok message ∧
      service.connection.step (.call caller (.send message) result) = .ok connection ∧
      (service.connection.connection.state = .kConnected ∧ next = { service with
          connection
          outgoing := service.outgoing ++ [(reply, caller, message)] } ∨
        service.connection.connection.state ≠ .kConnected ∧ next = { service with
          connection
          dropped := service.dropped ++ reply.content?.toList }) := by
  rcases Checked.bind_eq_ok_iff.mp ran with ⟨message, isMessage, rest⟩
  rcases Checked.bind_eq_ok_iff.mp rest with ⟨connection, sent, result⟩
  refine ⟨message, connection, isMessage, sent, ?_⟩
  split at result
  · rename_i connected
    cases result
    exact .inl ⟨connected, rfl⟩
  · rename_i notConnected
    cases result
    exact .inr ⟨notConnected, rfl⟩

namespace Recorded

variable {outstanding : List Content}

theorem send {caller : Caller} {reply : Reply} {result : WriteResult}
    (recorded : service.Recorded (reply.content?.toList ++ outstanding))
    (ran : service.send caller reply result = .ok next) : next.Recorded outstanding := by
  rcases send_ok ran with ⟨message, connection, isMessage, sent, sending⟩
  have issued := (ConnectionSystem.send_transmits sent).issued
  have accounted := recorded.accounted
  rcases sending with ⟨connected, rfl⟩ | ⟨notConnected, rfl⟩
  · rw [if_pos connected] at issued
    refine ⟨?_, ?_, ?_⟩
    · have found : [(reply, caller, message)].filterMap (fun entry => entry.1.content?) =
          reply.content?.toList := by
        cases isContent : reply.content? <;> simp [isContent]
      refine List.Perm.trans ?_ accounted
      simp only [List.filterMap_append, found, List.append_assoc]
      refine List.Perm.append_left _ ?_
      rw [← List.append_assoc, ← List.append_assoc]
      exact List.perm_append_comm.append_right _
    · rw [issued, List.map_append, recorded.issued]
      rfl
    · intro entry member
      rcases List.mem_append.mp member with old | new
      · exact recorded.messages entry old
      · rw [List.mem_singleton.mp new]
        exact isMessage
  · rw [if_neg notConnected] at issued
    refine ⟨?_, recorded.issued.trans issued.symm, recorded.messages⟩
    rw [← List.append_assoc] at accounted
    rw [← List.append_assoc]
    exact accounted

theorem keep (recorded : service.Recorded outstanding) {connection : ConnectionSystem}
    (issued : connection.history.issued = service.connection.history.issued) :
    Recorded { service with connection } outstanding :=
  ⟨recorded.accounted, recorded.issued.trans issued.symm, recorded.messages⟩

theorem perm (recorded : service.Recorded outstanding) {same : List Content}
    (permuted : same.Perm outstanding) : service.Recorded same :=
  ⟨(permuted.append_left _).trans recorded.accounted, recorded.issued, recorded.messages⟩

end Recorded

/-! ## The pool -/

/-- The producers of the pool are the loops. Without threads it has no queue. -/
structure PoolSound (pool : ThreadPool SudokuTask) (reader : ReaderPhase) : Prop where
  unbounded : pool.maxQueueSize = 0
  queue : pool.workers = [] → pool.queue = []
  own : pool.producers[0]? = some (match reader.content? with
    | some content => .entering (.solve content)
    | none => .idle)
  others : ∀ producer phase, producer ≠ 0 → pool.producers[producer]? = some phase →
    phase = .idle ∨ phase = .entering .other

namespace PoolSound

variable {pool after : ThreadPool SudokuTask} {reader : ReaderPhase}

theorem notFull (sound : PoolSound pool reader) : ¬pool.isFull := by
  intro full
  have positive := full.1
  rw [sound.unbounded] at positive
  cases positive

/-- Another loop goes on. -/
theorem setProducer (sound : PoolSound pool reader) {producer : Nat}
    {phase : ProducerPhase SudokuTask} (different : producer ≠ 0)
    (isOther : phase = .idle ∨ phase = .entering .other)
    (maxQueueSize : after.maxQueueSize = pool.maxQueueSize)
    (queue : after.workers = [] → after.queue = [])
    (producers : after.producers = pool.producers.set producer phase) :
    PoolSound after reader where
  unbounded := maxQueueSize.trans sound.unbounded
  queue := queue
  own := by
    rw [producers, List.getElem?_set_ne different]
    exact sound.own
  others found foundPhase foundDifferent isPhase := by
    rw [producers] at isPhase
    by_cases same : producer = found
    · subst same
      rw [List.getElem?_set, if_pos rfl] at isPhase
      split at isPhase
      · cases isPhase
        exact isOther
      · cases isPhase
    · rw [List.getElem?_set_ne same] at isPhase
      exact sound.others found foundPhase foundDifferent isPhase

theorem keep (sound : PoolSound pool reader) {next : ReaderPhase}
    (content? : next.content? = reader.content?)
    (maxQueueSize : after.maxQueueSize = pool.maxQueueSize)
    (queue : after.workers = [] → after.queue = [])
    (producers : after.producers = pool.producers) : PoolSound after next where
  unbounded := maxQueueSize.trans sound.unbounded
  queue := queue
  own := by
    rw [producers, content?]
    exact sound.own
  others := by
    rw [producers]
    exact sound.others

theorem pending (sound : PoolSound pool reader) {producer : Nat} (different : producer ≠ 0)
    {phase : ProducerPhase SudokuTask} {task : SudokuTask}
    (isPhase : pool.producers[producer]? = some phase) (isPending : phase.pending = some task) :
    task = .other := by
  rcases sound.others producer phase different isPhase with rfl | rfl
  · cases isPending
  · cases isPending
    rfl

theorem not_waiting (sound : PoolSound pool reader) {producer : Nat}
    {phase : ProducerPhase SudokuTask} (isPhase : pool.producers[producer]? = some phase) :
    phase.isWaiting = false := by
  by_cases first : producer = 0
  · subst first
    rw [sound.own] at isPhase
    cases isPhase
    cases reader.content? <;> rfl
  · rcases sound.others producer phase first isPhase with rfl | rfl <;> rfl

end PoolSound

/-- A step of the pool's threads, or of another loop that uses it. -/
theorem PoolSound.step (sound : PoolSound service.pool service.reader)
    {action : ThreadPool.Action SudokuTask} (allowed : service.pool.Allowed action)
    (isPools : service.isPools action = true) {pool : ThreadPool SudokuTask}
    (ran : service.pool.step action = .ok pool) :
    PoolSound pool service.reader ∧
      (pool.tasks.filterMap SudokuTask.content?).Perm
        (service.pool.tasks.filterMap SudokuTask.content?) := by
  by_cases threads : service.pool.workers = []
  · -- Without threads only the other loops run.
    have noWorker : ∀ worker : Nat, service.pool.workers[worker]? = none := by
      intro worker
      rw [threads]
      rfl
    cases action with
    | call producer task =>
        cases ran
        have other := of_decide_eq_true isPools
        rw [other.2]
        exact ⟨sound.setProducer other.1 (.inr rfl) rfl sound.queue rfl, .refl _⟩
    | run producer notified =>
        have different : producer ≠ 0 := of_decide_eq_true isPools
        simp only [ThreadPool.step] at ran
        split at ran
        · cases ran
          exact ⟨sound, .refl _⟩
        · rw [ThreadPool.run, threads, List.isEmpty_nil, if_pos rfl] at ran
          cases ran
          refine ⟨sound.setProducer different (.inl rfl) rfl (fun _ => sound.queue threads) rfl, ?_⟩
          rw [ThreadPool.tasks, ThreadPool.tasks, ThreadPool.held, ThreadPool.held, threads]
          exact .refl _
    | test worker | wakeWorker worker =>
        have isPhase : service.pool.workers[worker]? = some _ := allowed
        rw [noWorker] at isPhase
        cases isPhase
    | take worker notified =>
        rcases allowed.1 with ⟨phase, isPhase, _⟩
        rw [noWorker] at isPhase
        cases isPhase
    | execute worker =>
        rcases allowed with ⟨phase, isPhase, _⟩
        rw [noWorker] at isPhase
        cases isPhase
    | wakeProducer producer =>
        rcases allowed with ⟨phase, isPhase, isWaiting⟩
        rw [sound.not_waiting isPhase] at isWaiting
        cases isWaiting
    | stop | join => cases isPools
  · rcases ThreadPool.step_cases threads allowed with ⟨found, foundRan, stepped⟩
    rw [ran] at foundRan
    cases foundRan
    have stillThreads := stepped.threads threads
    have queue : pool.workers = [] → pool.queue = [] := (absurd · stillThreads)
    constructor
    · cases stepped with
      | call _ =>
          have other := of_decide_eq_true isPools
          rw [other.2]
          exact sound.setProducer other.1 (.inr rfl) rfl queue rfl
      | block _ _ full => exact absurd full sound.notFull
      | push _ _ _ _ =>
          exact sound.setProducer (of_decide_eq_true isPools) (.inl rfl) rfl queue rfl
      | take _ _ _ _ isProducers =>
          refine sound.keep rfl rfl queue ?_
          rw [isProducers, sound.unbounded]
          rfl
      | wakeProducer isPhase isWaiting =>
          rw [sound.not_waiting isPhase] at isWaiting
          cases isWaiting
      | stop _ | join _ _ => cases isPools
      | enterTake _ _ | finish _ _ | wait _ _ _ _ | leave _ _ _ _ | execute _ _ | wakeWorker _ =>
          exact sound.keep rfl rfl queue rfl
    · cases stepped.turnover with
      | keep same => exact same.filterMap _
      | add isPhase isPending same =>
          rw [sound.pending (of_decide_eq_true isPools) isPhase isPending] at same
          exact same.filterMap _
      | finish isPhase isHeld same =>
          rw [(of_decide_eq_true isPools).1] at isPhase
          cases isPhase
          cases isHeld
          exact same.filterMap SudokuTask.content?

namespace PoolSound

variable {pool after : ThreadPool SudokuTask} {reader : ReaderPhase}

/-- The loop of the connection goes on. -/
theorem setOwn (sound : PoolSound pool reader) {next : ReaderPhase}
    (maxQueueSize : after.maxQueueSize = pool.maxQueueSize)
    (queue : after.workers = [] → after.queue = [])
    (producers : after.producers = pool.producers.set 0 (match next.content? with
      | some content => .entering (.solve content)
      | none => .idle)) : PoolSound after next where
  unbounded := maxQueueSize.trans sound.unbounded
  queue := queue
  own := by
    rcases List.getElem?_eq_some_iff.mp sound.own with ⟨inside, _⟩
    rw [producers, List.getElem?_set_self inside]
  others producer phase different isPhase := by
    rw [producers, List.getElem?_set_ne different.symm] at isPhase
    exact sound.others producer phase different isPhase

end PoolSound

/-- `run` returns to `onMessage`. -/
theorem PoolSound.run (sound : PoolSound service.pool service.reader) {content : Content}
    (submitting : service.reader.content? = some content) {notified : Option Nat}
    (allowed : service.pool.Allowed (.run 0 notified))
    {pool : ThreadPool SudokuTask} (ran : service.pool.step (.run 0 notified) = .ok pool) :
    PoolSound pool .looping ∧
      (pool.tasks.filterMap SudokuTask.content?).Perm
        ((if service.pool.workers.isEmpty then [] else [content]) ++
          service.pool.tasks.filterMap SudokuTask.content?) := by
  have own := sound.own
  rw [submitting] at own
  by_cases threads : service.pool.workers = []
  · simp only [ThreadPool.step, own, Option.bind_some, ProducerPhase.pending, ThreadPool.run,
      threads, List.isEmpty_nil, if_true] at ran
    cases ran
    refine ⟨sound.setOwn rfl (fun _ => sound.queue threads) rfl, ?_⟩
    rw [threads, ThreadPool.tasks, ThreadPool.tasks, ThreadPool.held, ThreadPool.held, threads]
    exact .refl _
  · rcases ThreadPool.step_cases threads allowed with ⟨found, foundRan, stepped⟩
    rw [ran] at foundRan
    cases foundRan
    have stillThreads := stepped.threads threads
    rw [if_neg (by simpa using threads)]
    cases stepped with
    | block _ _ full => exact absurd full sound.notFull
    | push isPhase isPending _ wakes =>
        cases own.symm.trans isPhase
        cases isPending
        refine ⟨sound.setOwn rfl (absurd · stillThreads) rfl, ?_⟩
        exact (ThreadPool.tasks_push wakes).filterMap SudokuTask.content?

theorem workers_of_solving {worker : Nat} {content : Content}
    (solving : service.solving worker = some content) :
    service.pool.workers[worker]? = some (.holding (.solve content)) := by
  rcases Option.bind_eq_some_iff.mp solving with ⟨task, held, isContent⟩
  rcases Option.bind_eq_some_iff.mp held with ⟨phase, isPhase, isHeld⟩
  cases phase with
  | holding found =>
      cases isHeld
      cases task with
      | solve found =>
          cases isContent
          exact isPhase
      | other => cases isContent
  | testing | taking | waiting | woken | finished => cases isHeld

/-- A thread of the pool has sent its answer. -/
theorem PoolSound.answered {pool : ThreadPool SudokuTask} {reader : ReaderPhase}
    (sound : PoolSound pool reader) {worker : Nat} {content : Content}
    (isPhase : pool.workers[worker]? = some (.holding (.solve content))) :
    PoolSound (pool.setWorker worker (.holding .other)) reader ∧
      (pool.tasks.filterMap SudokuTask.content?).Perm (content ::
        (pool.setWorker worker (.holding .other)).tasks.filterMap SudokuTask.content?) := by
  constructor
  · refine sound.keep rfl rfl (fun noThreads => ?_) rfl
    have noWorkers : pool.workers = [] := by
      simpa [ThreadPool.setWorker] using noThreads
    rw [noWorkers] at isPhase
    cases isPhase
  · rcases filterMap_change isPhase WorkerPhase.held with ⟨others, before, after⟩
    have perm : (pool.tasks).Perm (.solve content :: (pool.queue ++ others)) :=
      (before.append_left _).trans List.perm_middle
    have permAfter : ((pool.setWorker worker (.holding .other)).tasks).Perm
        (.other :: (pool.queue ++ others)) :=
      ((after (.holding .other)).append_left _).trans List.perm_middle
    refine (perm.filterMap SudokuTask.content?).trans ?_
    exact (permAfter.filterMap SudokuTask.content?).symm.cons content

/-! ## Every run -/

structure Sound (service : SudokuService) : Prop where
  reachable : ConnectionSystem.machine.Reachable service.connection
  pool : PoolSound service.pool service.reader
  recorded : service.Recorded service.outstanding

theorem inOnMessage.runsUserCode (inside : service.inOnMessage) :
    service.connection.runsUserCode = true := by
  rcases List.head?_eq_some_iff.mp inside.2 with ⟨below, stack⟩
  rw [ConnectionSystem.runsUserCode, stack]
  rfl

theorem inOnMessage.mayReturn (inside : service.inOnMessage) :
    service.connection.Allowed .returnCallback :=
  ⟨inside.1, .messageCallback, inside.2, rfl⟩

namespace Sound

/-- `send` of the loop thread, or of another one that has no other call of it under way. What is
answered is no longer outstanding. -/
theorem send {caller : Caller} {reply : Reply} {result : WriteResult}
    (ran : service.send caller reply result = .ok next)
    (reachable : ConnectionSystem.machine.Reachable service.connection)
    (pool : PoolSound service.pool service.reader)
    (recorded : service.Recorded (reply.content?.toList ++ service.outstanding))
    (mayCall : service.connection.MayCall caller) (takes : Takes reply result) :
    next.Sound := by
  have sent := recorded.send ran
  rcases send_ok ran with ⟨message, connection, isMessage, sends, sending⟩
  rcases sending with ⟨connected, rfl⟩ | ⟨notConnected, rfl⟩
  · have running := ConnectionSystem.running_of_connected reachable connected
    have allowed : ConnectionSystem.machine.allowed service.connection
        (.call caller (.send message) result) := by
      refine ⟨running, mayCall, takes message ?_⟩
      rw [isMessage]
      rfl
    exact ⟨reachable.step allowed sends, pool, sent⟩
  · simp only [ConnectionSystem.step, ConnectionSystem.send, if_neg notConnected] at sends
    cases sends
    exact ⟨reachable, pool, sent⟩

theorem connection (sound : service.Sound) {action : ConnectionSystem.Action}
    {connection : ConnectionSystem} (allowed : service.connection.Allowed action)
    (notCall : ∀ caller call result, action ≠ .call caller call result)
    (ran : service.connection.step action = .ok connection) :
    Sound { service with connection } where
  reachable := sound.reachable.step allowed ran
  pool := sound.pool
  recorded := sound.recorded.keep (ConnectionSystem.step_issued allowed notCall ran)

theorem restage (sound : service.Sound) {reader : ReaderPhase}
    (same : reader.content? = service.reader.content?) : Sound { service with reader } where
  reachable := sound.reachable
  pool := sound.pool.keep same rfl sound.pool.queue rfl
  recorded := by
    have recorded := sound.recorded
    rw [outstanding, ← same] at recorded
    exact { recorded with }

theorem retrieve (sound : service.Sound) (inside : service.inOnMessage) {len : Nat}
    {connection : ConnectionSystem}
    (ran : service.connection.step (.retrieveInput len) = .ok connection) :
    Sound { service with connection } := by
  have allowed : service.connection.Allowed (.retrieveInput len) := by
    rcases Checked.bind_eq_ok_iff.mp ran with ⟨inputBuffer, retrieved, _⟩
    exact ⟨inside.1, inside.runsUserCode, (Checked.check_bind_eq_ok_iff.mp retrieved).1⟩
  exact sound.connection allowed nofun ran

theorem loop (sound : service.Sound) (inside : service.inOnMessage)
    (looping : service.reader = .looping) (ran : service.loop = .ok next) : next.Sound := by
  rcases Checked.bind_eq_ok_iff.mp ran with ⟨found, _, rest⟩
  cases found with
  | finished =>
      rcases Checked.bind_eq_ok_iff.mp rest with ⟨connection, returned, result⟩
      cases result
      refine (sound.connection inside.mayReturn nofun returned).restage ?_
      rw [looping]
      rfl
  | request content len =>
      rcases Checked.bind_eq_ok_iff.mp rest with ⟨connection, retrieved, handing⟩
      cases handing
      have kept := sound.retrieve inside retrieved
      have recorded := kept.recorded
      rw [outstanding, looping] at recorded
      exact {
        reachable := kept.reachable
        pool := kept.pool.setOwn rfl kept.pool.queue rfl
        recorded := {
          accounted := by
            refine List.Perm.trans ?_ (recorded.accounted.append_right [content])
            rw [List.append_assoc _ _ [content]]
            exact List.perm_append_comm.append_left _
          issued := recorded.issued
          messages := recorded.messages } }
  | badRequest len =>
      rcases Checked.bind_eq_ok_iff.mp rest with ⟨connection, retrieved, result⟩
      cases result
      refine (sound.retrieve inside retrieved).restage ?_
      rw [looping]
      rfl
  | idTooLong =>
      cases rest
      refine sound.restage ?_
      rw [looping]
      rfl

theorem submit (sound : service.Sound) (inside : service.inOnMessage) {content : Content}
    (submitting : service.reader.content? = some content) {notified : Option Nat}
    (allowed : service.pool.Allowed (.run 0 notified)) {result : WriteResult}
    (takes : Takes (.answer content) result)
    (ran : service.submit content notified result = .ok next) : next.Sound := by
  rcases Checked.bind_eq_ok_iff.mp ran with ⟨pool, poolRan, rest⟩
  rcases sound.pool.run submitting allowed poolRan with ⟨stillSound, tasks⟩
  have recorded := sound.recorded
  rw [outstanding, submitting] at recorded
  dsimp only at rest
  split at rest
  · rename_i noThreads
    rw [if_pos noThreads] at tasks
    have permuted := recorded.perm (tasks.append_left _)
    exact .send rest sound.reachable stillSound { permuted with } inside.runsUserCode takes
  · rename_i threads
    rw [if_neg threads] at tasks
    cases rest
    have permuted := recorded.perm tasks
    exact ⟨sound.reachable, stillSound, { permuted with }⟩

theorem answer (sound : service.Sound) {worker : Nat} {content : Content}
    (solving : service.solving worker = some content)
    (mayCall : service.connection.MayCall (some worker)) {result : WriteResult}
    (takes : Takes (.answer content) result)
    (ran : service.answer worker result = .ok next) : next.Sound := by
  unfold SudokuService.answer at ran
  rw [solving] at ran
  rcases sound.pool.answered (workers_of_solving solving) with ⟨stillSound, tasks⟩
  have recorded : service.Recorded ([content] ++ (service.reader.content?.toList ++
      (service.pool.setWorker worker (.holding .other)).tasks.filterMap SudokuTask.content?)) :=
    sound.recorded.perm
      ((List.perm_append_comm_assoc [content] _ _).trans (tasks.symm.append_left _))
  exact .send ran sound.reachable stillSound { recorded with } mayCall takes

theorem reject (sound : service.Sound) (inside : service.inOnMessage) {reply : ErrorReply}
    (rejecting : service.reader.error? = some reply) {result : WriteResult}
    (takes : Takes (.error reply) result) (ran : service.reject reply result = .ok next) :
    next.Sound := by
  have closing : Sound { service with reader := .closing } := by
    refine sound.restage ?_
    cases isReader : service.reader with
    | submitting _ =>
        rw [isReader] at rejecting
        cases rejecting
    | outside | looping | rejecting _ | closing => rfl
  exact .send ran closing.reachable closing.pool closing.recorded inside.runsUserCode takes

theorem shutdown (sound : service.Sound) (inside : service.inOnMessage)
    (closing : service.reader = .closing) {result : WriteResult} (writes : result.count = 0)
    (ran : service.shutdown result = .ok next) : next.Sound := by
  rcases Checked.bind_eq_ok_iff.mp ran with ⟨closed, closes, rest⟩
  rcases Checked.bind_eq_ok_iff.mp rest with ⟨connection, returned, finished⟩
  cases finished
  have allowed : ConnectionSystem.machine.allowed service.connection
      (.call none .shutdown result) := ⟨inside.1, inside.runsUserCode, writes.le⟩
  have issued := (ConnectionSystem.call_transmits closes nofun).issued
  rcases ConnectionSystem.shutdown_stack closes with ⟨stack, removed⟩
  have closedSound : Sound { service with connection := closed } :=
    ⟨sound.reachable.step allowed closes, sound.pool, sound.recorded.keep issued⟩
  have mayReturn : closed.Allowed .returnCallback := by
    refine ⟨removed.trans inside.1, .messageCallback, ?_, rfl⟩
    rw [stack]
    exact inside.2
  refine (closedSound.connection mayReturn nofun returned).restage ?_
  rw [closing]
  rfl

theorem step (sound : service.Sound) {action : Action} (allowed : service.Allowed action)
    (ran : service.step action = .ok next) : next.Sound := by
  cases action with
  | connection action =>
      rcases Checked.bind_eq_ok_iff.mp ran with ⟨connection, stepped, result⟩
      cases result
      refine sound.connection allowed.1 ?_ stepped
      rintro caller call result rfl
      cases allowed.2
  | onMessage =>
      cases ran
      refine sound.restage ?_
      rw [allowed.2]
      rfl
  | loop => exact sound.loop allowed.1 allowed.2 ran
  | submit notified result =>
      rcases allowed with ⟨inside, poolAllowed, content, submitting, takes⟩
      simp only [SudokuService.step, Option.mem_def.mp submitting] at ran
      exact sound.submit inside submitting poolAllowed takes ran
  | reject result =>
      rcases allowed with ⟨inside, reply, rejecting, takes⟩
      simp only [SudokuService.step, Option.mem_def.mp rejecting] at ran
      exact sound.reject inside rejecting takes ran
  | shutdown result => exact sound.shutdown allowed.1 allowed.2.1 allowed.2.2 ran
  | pool action =>
      rcases Checked.bind_eq_ok_iff.mp ran with ⟨pool, stepped, result⟩
      cases result
      rcases sound.pool.step allowed.1 allowed.2 stepped with ⟨stillSound, tasks⟩
      have recorded := sound.recorded.perm (tasks.append_left _)
      exact ⟨sound.reachable, stillSound, { recorded with }⟩
  | answer worker result =>
      rcases allowed with ⟨mayCall, content, solving, takes⟩
      exact sound.answer solving mayCall takes ran

end Sound

theorem reachable_sound (reachable : machine.Reachable service) : service.Sound := by
  refine reachable.invariant Sound ?_ (fun _ _ _ sound allowed ran => sound.step allowed ran)
  rintro first ⟨connection, numThreads, numLoops, initial, rfl⟩
  have notIssued : connection.history.issued = [] := by
    rcases initial with ⟨_, _, _, _, _, _, _, _, _, _, rfl⟩
    rfl
  have notHeld : (create connection numThreads numLoops).outstanding = [] := by
    simp [outstanding, create, ThreadPool.tasks, ThreadPool.held, ThreadPool.create,
      ReaderPhase.content?, List.filterMap_replicate, WorkerPhase.held]
  exact {
    reachable := .initial initial
    pool := {
      unbounded := rfl
      queue := fun _ => rfl
      own := rfl
      others := by
        intro producer phase _ isPhase
        exact .inl (List.eq_of_mem_replicate (List.mem_of_getElem? isPhase)) }
    recorded := by
      rw [notHeld]
      exact ⟨.refl _, notIssued.symm, by rintro _ ⟨⟩⟩ }

/-- A choice from the image of a list comes from a choice of the list. -/
theorem exists_of_subperm_map {Source Target : Type} {image : Source → Target}
    {sources : List Source} {targets : List Target}
    (sub : targets.Subperm (sources.map image)) :
    ∃ chosen : List Source, chosen.map image = targets ∧ chosen.Subperm sources := by
  rcases sub with ⟨found, permuted, sublist⟩
  rcases List.sublist_map_iff.mp sublist with ⟨chosen, within, rfl⟩
  have related : List.Forall₂ (fun target source => target = image source)
      (chosen.map image) chosen := by
    rw [List.forall₂_map_left_iff]
    exact List.forall₂_same.mpr fun _ _ => rfl
  rcases List.perm_comp_forall₂ permuted.symm related with ⟨reordered, paired, reordering⟩
  have equal : List.Forall₂ Eq targets (reordered.map image) :=
    List.forall₂_map_right_iff.mpr paired
  rw [List.forall₂_eq_eq_eq] at equal
  exact ⟨reordered, equal.symm, reordering.subperm.trans within.subperm⟩

/-- Each request that was handed to the pool has one answer at most, is still with the pool or the
loop, or was dropped because the connection was being closed. What has gone out and what waits in
the output buffer are whole lines: error texts, and answers of which no two belong to one
request. -/
theorem replies_answer_requests (reachable : machine.Reachable service) :
    (service.outgoing.filterMap (fun entry => entry.1.content?) ++ service.dropped ++
      service.outstanding).Perm service.handed ∧
    ∃ lines : List (Reply × List UInt8),
      service.connection.history.accepted ++
        service.connection.connection.outputBuffer.content = (lines.map Prod.snd).flatten ∧
      (∀ line ∈ lines, line.1.message = .ok line.2) ∧
      (lines.filterMap fun line => line.1.content?).Subperm service.handed := by
  have sound := reachable_sound reachable
  refine ⟨sound.recorded.accounted, ?_⟩
  have bytes := (ConnectionSystem.streaming_of_reachable sound.reachable).bytes.stream
  have taken : ((service.connection.history.sends.filter fun record =>
        record.fate = .taken).map fun record => (record.sender, record.message)).Subperm
      (service.outgoing.map fun entry => entry.2) := by
    rw [sound.recorded.issued]
    refine List.Subperm.trans ?_ (ConnectionSystem.sends_subperm sound.reachable)
    exact (List.filter_sublist.map _).subperm
  rcases exists_of_subperm_map taken with ⟨chosen, sent, within⟩
  refine ⟨chosen.map fun entry => (entry.1, entry.2.2), bytes.trans ?_, ?_, ?_⟩
  · have messages := congrArg (List.map Prod.snd) sent
    simp only [List.map_map] at messages ⊢
    exact congrArg List.flatten messages.symm
  · intro line member
    rcases List.mem_map.mp member with ⟨entry, isEntry, rfl⟩
    exact sound.recorded.messages entry (within.subset isEntry)
  · rcases within with ⟨found, permuted, sublist⟩
    have answered : (chosen.filterMap fun entry => entry.1.content?).Subperm
        (service.outgoing.filterMap fun entry => entry.1.content?) :=
      ⟨_, permuted.filterMap _, sublist.filterMap _⟩
    rw [List.filterMap_map]
    refine answered.trans (List.Subperm.trans ?_ sound.recorded.accounted.subperm)
    rw [List.append_assoc]
    exact (List.sublist_append_left _ _).subperm

/-- A request whose puzzle has no digits is answered by the one thread of the pool, and the kernel
has taken the start of the answer. -/
theorem replies_answer_requests_partly :
    ∃ service, machine.Reachable service ∧ service.handed = [([97], List.replicate kCells 120)] ∧
      service.connection.history.accepted = [97, colon, 78] ∧
      ∃ lines : List (Reply × List UInt8),
        [97, colon, 78] ++ service.connection.connection.outputBuffer.content =
          (lines.map Prod.snd).flatten ∧
        (∀ line ∈ lines, line.1.message = .ok line.2) ∧
        (lines.filterMap fun line => line.1.content?).Subperm
          [([97], List.replicate kCells 120)] := by
  have run := machine.exists_reachable
    (fun service => service.handed = [([97], List.replicate kCells 120)] ∧
      service.connection.history.accepted = [97, colon, 78])
    (show machine.initial (create .lone 1 0) from
      ⟨.lone, 1, 0, ConnectionSystem.lone_initial, rfl⟩)
    [.connection .connectEstablished, .connection .returnCallback,
      .connection (.poll (some { PollEvents.kNoneEvent with pollIn := true })),
      .connection .dispatch, .connection .nextCallback,
      .connection (.handleRead (.ok ([97, colon] ++ List.replicate kCells 120 ++ [13, 10]))),
      .onMessage, .loop, .submit none (.wrote 0), .loop, .pool (.test 0), .pool (.take 0 none),
      .answer 0 (.wrote 0), .connection (.push 0), .pool (.execute 0), .connection .finishEvent,
      .connection .endEvents, .connection .swapFunctors, .connection (.runFunctor (.wrote 3))]
    (by decide +kernel)
  rcases run with ⟨service, reachable, handed, accepted⟩
  have lines := (replies_answer_requests reachable).2
  rw [accepted, handed] at lines
  exact ⟨service, reachable, handed, accepted, lines⟩

end Ccnet.Sudoku.SudokuService
