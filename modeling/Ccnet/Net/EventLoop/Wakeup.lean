import Ccnet.Net.EventLoop.EventLoop

/-! # Wakeups

When the loop thread goes to sleep in `poll`, queued work must be noticed. The
test in `queueInLoop` covers calls of other threads and calls made by a running
functor, and calls made while events are handled are followed by a batch. -/

namespace Ccnet.Net.EventLoop

variable {Functor Thread : Type}

/-- The loop thread queues functors only where the loop will notice them: in
an event handler, or in a functor of the running batch. -/
def QueuesWhereNoticed (loop : EventLoop Functor Thread) :
    Action Functor Thread → Prop
  | .loopPush _ => loop.phase = .handlingEvents ∨ loop.phase = .runningFunctors
  | _ => True

instance (loop : EventLoop Functor Thread) :
    (action : Action Functor Thread) → Decidable (loop.QueuesWhereNoticed action)
  | .loopPush _ => inferInstanceAs (Decidable (_ ∨ _))
  | .push _ _ | .wakeup _ | .loopTestWakeup | .callWakeup | .callQuit
  | .enterLoop | .testQuit | .pollReturns | .handleRead | .beginFunctors
  | .swapFunctors | .startFunctor | .finishFunctors | .destroyFunctors =>
      inferInstanceAs (Decidable True)

/-- Between a batch's `swap` and the next round of event handling, pending
functors have made the eventfd readable or are about to. -/
structure Noticed (loop : EventLoop Functor Thread) : Prop where
  calling : loop.callingPendingFunctors = true ↔
    loop.phase = .enteringFunctors ∨ loop.phase = .runningFunctors
  insideQueue : loop.loopInQueue = true →
    loop.phase = .handlingEvents ∨ loop.phase = .runningFunctors
  covered : loop.phase ≠ .handlingEvents → loop.phase ≠ .enteringFunctors →
    loop.queue.pendingFunctors = [] ∨ 0 < loop.wakeupCounter ∨
      loop.waking ≠ [] ∨ loop.loopInQueue = true

theorem create_noticed : (create : EventLoop Functor Thread).Noticed where
  calling := by simp [create]
  insideQueue := by simp [create]
  covered _ _ := .inl rfl

theorem writeEventfd_pos (counter : Nat) : 0 < writeEventfd counter := by
  unfold writeEventfd
  split <;> omega

/-- A move of the loop thread between two phases in which no batch is being
called and that both count as sleeping. -/
theorem Noticed.move {loop next : EventLoop Functor Thread}
    (noticed : loop.Noticed) (queue : next.queue = loop.queue)
    (counter : next.wakeupCounter = loop.wakeupCounter)
    (waking : next.waking = loop.waking)
    (inQueue : next.loopInQueue = loop.loopInQueue)
    (quiet : loop.loopInQueue = false)
    (calling : next.callingPendingFunctors = true ↔
      next.phase = .enteringFunctors ∨ next.phase = .runningFunctors)
    (awake : loop.phase = .handlingEvents ∨ loop.phase = .enteringFunctors →
      next.phase = .handlingEvents ∨ next.phase = .enteringFunctors) :
    next.Noticed where
  calling := calling
  insideQueue inside := by simp [inQueue, quiet] at inside
  covered notHandling notEntering := by
    rw [queue, counter, waking, inQueue]
    apply noticed.covered
    · intro handling
      rcases awake (.inl handling) with impossible | impossible
      · exact notHandling impossible
      · exact notEntering impossible
    · intro entering
      rcases awake (.inr entering) with impossible | impossible
      · exact notHandling impossible
      · exact notEntering impossible

section Step

variable [DecidableEq Thread]

theorem step_noticed {loop next : EventLoop Functor Thread}
    {action : Action Functor Thread} (noticed : loop.Noticed)
    (allowed : loop.Allowed action) (placed : loop.QueuesWhereNoticed action)
    (stepped : loop.step action = .ok next) : next.Noticed := by
  have calling := noticed.calling
  cases action with
  | push thread functor =>
      cases stepped
      exact ⟨calling, noticed.insideQueue, fun _ _ => .inr (.inr (.inl (by simp)))⟩
  | wakeup thread | callWakeup =>
      cases stepped
      exact ⟨calling, noticed.insideQueue,
        fun _ _ => .inr (.inl (writeEventfd_pos _))⟩
  | loopPush functor =>
      cases stepped
      exact ⟨calling, fun _ => placed, fun _ _ => .inr (.inr (.inr rfl))⟩
  | loopTestWakeup =>
      simp only [step] at stepped
      split at stepped
      · cases stepped
        exact ⟨calling, by simp, fun _ _ => .inr (.inl (writeEventfd_pos _))⟩
      · rename_i notCalling
        cases stepped
        refine ⟨calling, by simp, ?_⟩
        intro notHandling _
        rcases noticed.insideQueue allowed with handling | running
        · exact absurd handling notHandling
        · exact absurd (calling.mpr (.inr running)) notCalling
  | callQuit =>
      cases stepped
      exact ⟨calling, noticed.insideQueue, noticed.covered⟩
  | enterLoop =>
      rcases Checked.check_bind_eq_ok_iff.mp stepped with ⟨_, returned⟩
      cases returned
      simp only [allowed.1] at calling
      exact noticed.move rfl rfl rfl rfl allowed.2 (by simpa using calling)
        (by simp [allowed.1])
  | testQuit =>
      simp only [allowed.1] at calling
      simp only [step] at stepped
      split at stepped <;> cases stepped <;>
        exact noticed.move rfl rfl rfl rfl allowed.2 (by simpa using calling)
          (by simp [allowed.1])
  | pollReturns =>
      cases stepped
      simp only [allowed.1] at calling
      exact noticed.move rfl rfl rfl rfl allowed.2 (by simpa using calling) (by simp)
  | handleRead =>
      cases stepped
      refine ⟨calling, noticed.insideQueue, ?_⟩
      intro notHandling
      exact absurd allowed.1 notHandling
  | beginFunctors =>
      cases stepped
      exact noticed.move rfl rfl rfl rfl allowed.2 (by simp) (by simp)
  | swapFunctors =>
      cases stepped
      simp only [allowed.1] at calling
      refine ⟨by simpa using calling, ?_, fun _ _ => .inl rfl⟩
      simp [allowed.2]
  | startFunctor =>
      simp only [step] at stepped
      split at stepped
      · rename_i functor rest taken
        cases stepped
        refine ⟨calling, noticed.insideQueue, ?_⟩
        simp only [(FunctorQueue.next_eq_some_iff.mp taken).2]
        exact noticed.covered
      · cases stepped
        exact noticed
  | finishFunctors =>
      cases stepped
      exact noticed.move rfl rfl rfl rfl allowed.2.1 (by simp) (by simp [allowed.1])
  | destroyFunctors =>
      cases stepped
      simp only [allowed.1] at calling
      exact noticed.move rfl rfl rfl rfl allowed.2 (by simpa using calling)
        (by simp [allowed.1])

theorem reachable_noticed {loop : EventLoop Functor Thread}
    (reachable : (machine.restrict QueuesWhereNoticed).Reachable loop) :
    loop.Noticed := by
  refine reachable.invariant Noticed ?_ ?_
  · rintro _ rfl
    exact create_noticed
  · intro current action next noticed allowed stepped
    exact step_noticed noticed allowed.1 allowed.2 stepped

/-- The loop never sleeps on queued work: if functors are pending while it is
in `poll`, the eventfd is readable or a thread is about to write to it. -/
theorem poll_noticed (loop : EventLoop Functor Thread)
    (reachable : (machine.restrict QueuesWhereNoticed).Reachable loop)
    (polling : loop.phase = .polling)
    (pending : loop.queue.pendingFunctors ≠ []) :
    0 < loop.wakeupCounter ∨ loop.waking ≠ [] := by
  have noticed := reachable_noticed reachable
  rcases noticed.covered (by simp [polling]) (by simp [polling]) with
    none | readable | waking | inside
  · exact absurd none pending
  · exact .inl readable
  · exact .inr waking
  · have impossible := noticed.insideQueue inside
    simp [polling] at impossible

/-- Another thread queues a functor before the loop is entered. -/
theorem poll_noticed_push :
    ∃ loop : EventLoop Nat Nat, loop.phase = .polling ∧
      loop.queue.pendingFunctors = [7] ∧
      (0 < loop.wakeupCounter ∨ loop.waking ≠ []) := by
  let noticing : Machine (EventLoop Nat Nat) (Action Nat Nat) :=
    machine.restrict QueuesWhereNoticed
  rcases noticing.exists_reachable
      (fun loop => loop.phase = .polling ∧ loop.queue.pendingFunctors = [7])
      rfl [.push 0 7, .enterLoop, .testQuit] (by decide) with
    ⟨loop, reachable, polling, pending⟩
  exact ⟨loop, polling, pending,
    poll_noticed loop reachable polling (by simp [pending])⟩

/-- The loop thread itself queues a functor before it enters the loop, and
sleeps on it: no wakeup is written and none is under way. -/
theorem poll_unnoticed :
    ∃ loop : EventLoop Nat Nat, machine.Reachable loop ∧ loop.phase = .polling ∧
      loop.queue.pendingFunctors ≠ [] ∧
      ¬(0 < loop.wakeupCounter ∨ loop.waking ≠ []) :=
  machine.exists_reachable _ rfl
    [.loopPush 7, .loopTestWakeup, .enterLoop, .testQuit] (by decide)

end Step

end Ccnet.Net.EventLoop
