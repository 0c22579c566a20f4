import Ccnet.Net.EventLoop.EventLoop
import Mathlib.Data.List.Forall2

/-! # Order of the functors

The loop runs functors in the order of their pushes, whatever the interleaving
of the threads that queue them with the batches that run them. -/

namespace Ccnet.Net.EventLoop

variable {Functor Thread : Type}

/-- The functors ever queued are those started, those left of the batch and
those pending, and each was queued before the batch that ran, or runs, it began. -/
structure Ordered (loop : EventLoop Functor Thread) : Prop where
  idle : loop.phase ≠ .runningFunctors → loop.queue.functors = []
  history : ∃ ran left waiting,
    loop.queued = ran ++ left ++ waiting ∧
    List.Forall₂ (fun start entry => start.1 = entry.1 ∧
      ∀ batch, entry.2 = some batch → batch < start.2) loop.started ran ∧
    left.map Prod.fst = loop.queue.functors ∧
    (∀ entry ∈ left, ∀ batch, entry.2 = some batch → batch < loop.batch) ∧
    waiting.map Prod.fst = loop.queue.pendingFunctors ∧
    ∀ entry ∈ waiting, ∀ batch, entry.2 = some batch → batch ≤ loop.batch

theorem create_ordered : (create : EventLoop Functor Thread).Ordered where
  idle _ := rfl
  history := ⟨[], [], [], rfl, .nil, rfl, by simp, rfl, by simp⟩

/-- Steps that touch neither the queue nor the history. -/
theorem Ordered.congr {loop next : EventLoop Functor Thread}
    (ordered : loop.Ordered) (queue : next.queue = loop.queue)
    (batch : next.batch = loop.batch) (queued : next.queued = loop.queued)
    (started : next.started = loop.started)
    (idle : next.phase ≠ .runningFunctors → loop.queue.functors = []) :
    next.Ordered where
  idle := by
    rw [queue]
    exact idle
  history := by
    rw [queue, batch, queued, started]
    exact ordered.history

theorem runningBatch_le {loop : EventLoop Functor Thread} {batch : Nat}
    (running : loop.runningBatch = some batch) : batch ≤ loop.batch := by
  unfold runningBatch at running
  split at running <;> simp at running <;> omega

theorem Ordered.pushFunctor {loop : EventLoop Functor Thread}
    (ordered : loop.Ordered) (functor : Functor) :
    (loop.pushFunctor functor).Ordered where
  idle := ordered.idle
  history := by
    rcases ordered.history with
      ⟨ran, left, waiting, queued, starts, batchLeft, leftBefore, pending, before⟩
    refine ⟨ran, left, waiting ++ [(functor, loop.runningBatch)], ?_, starts,
      batchLeft, leftBefore, ?_, ?_⟩
    · simp [EventLoop.pushFunctor, queued]
    · simp [EventLoop.pushFunctor, FunctorQueue.push, pending]
    · intro entry member batch entryBatch
      rcases List.mem_append.mp member with member | member
      · exact before entry member batch entryBatch
      · rw [List.mem_singleton] at member
        subst member
        exact runningBatch_le entryBatch

theorem Ordered.swapFunctors {loop : EventLoop Functor Thread}
    (ordered : loop.Ordered) (entering : loop.phase = .enteringFunctors) :
    EventLoop.Ordered { loop with
      queue := loop.queue.swap
      batch := loop.batch + 1
      phase := .runningFunctors } where
  idle notRunning := absurd rfl notRunning
  history := by
    rcases ordered.history with
      ⟨ran, left, waiting, queued, starts, batchLeft, _, pending, before⟩
    have finished : left = [] := by
      have none := ordered.idle (by simp [entering])
      rw [none] at batchLeft
      exact List.map_eq_nil_iff.mp batchLeft
    subst finished
    refine ⟨ran, waiting, [], by simpa using queued, starts, pending, ?_, rfl,
      by simp⟩
    intro entry member batch entryBatch
    exact Nat.lt_succ_of_le (before entry member batch entryBatch)

theorem Ordered.startFunctor {loop : EventLoop Functor Thread}
    (ordered : loop.Ordered) (running : loop.phase = .runningFunctors)
    {functor : Functor} {rest : FunctorQueue Functor}
    (taken : loop.queue.next = some (functor, rest)) :
    EventLoop.Ordered { loop with
      queue := rest
      started := loop.started ++ [(functor, loop.batch)] } where
  idle notRunning := absurd running notRunning
  history := by
    rcases ordered.history with
      ⟨ran, left, waiting, queued, starts, batchLeft, leftBefore, pending, before⟩
    rcases FunctorQueue.next_eq_some_iff.mp taken with ⟨functors, restPending⟩
    rw [functors] at batchLeft
    rcases List.map_eq_cons_iff.mp batchLeft with
      ⟨entry, leftRest, rfl, entryFunctor, restLeft⟩
    refine ⟨ran ++ [entry], leftRest, waiting, by simp [queued], ?_, restLeft, ?_,
      by rw [pending, restPending], before⟩
    · refine List.rel_append starts (.cons ⟨entryFunctor.symm, ?_⟩ .nil)
      exact leftBefore entry (by simp)
    · intro other member
      exact leftBefore other (by simp [member])

private theorem map_fst_eq_of_related {starts : List (Functor × Nat)}
    {entries : List (Functor × Option Nat)}
    (related : List.Forall₂ (fun start entry => start.1 = entry.1 ∧
      ∀ batch, entry.2 = some batch → batch < start.2) starts entries) :
    starts.map Prod.fst = entries.map Prod.fst := by
  induction related with
  | nil => rfl
  | cons head _ induction => simp [head.1, induction]

section Step

variable [DecidableEq Thread]

theorem step_ordered {loop next : EventLoop Functor Thread}
    {action : Action Functor Thread} (ordered : loop.Ordered)
    (allowed : loop.Allowed action) (stepped : loop.step action = .ok next) :
    next.Ordered := by
  cases action with
  | push thread functor | loopPush functor =>
      cases stepped
      exact (ordered.pushFunctor functor).congr rfl rfl rfl rfl ordered.idle
  | wakeup thread | callWakeup | callQuit | handleRead =>
      cases stepped
      exact ordered.congr rfl rfl rfl rfl ordered.idle
  | loopTestWakeup =>
      simp only [step] at stepped
      split at stepped <;> cases stepped <;>
        exact ordered.congr rfl rfl rfl rfl ordered.idle
  | enterLoop =>
      rcases Checked.check_bind_eq_ok_iff.mp stepped with ⟨_, returned⟩
      cases returned
      have idle := ordered.idle (by simp [allowed.1])
      exact ordered.congr rfl rfl rfl rfl fun _ => idle
  | testQuit =>
      have idle := ordered.idle (by simp [allowed.1])
      simp only [step] at stepped
      split at stepped <;> cases stepped <;>
        exact ordered.congr rfl rfl rfl rfl fun _ => idle
  | pollReturns | beginFunctors | destroyFunctors =>
      cases stepped
      have idle := ordered.idle (by simp [allowed.1])
      exact ordered.congr rfl rfl rfl rfl fun _ => idle
  | swapFunctors =>
      cases stepped
      exact ordered.swapFunctors allowed.1
  | startFunctor =>
      simp only [step] at stepped
      split at stepped
      · rename_i functor rest taken
        cases stepped
        exact ordered.startFunctor allowed.1 taken
      · cases stepped
        exact ordered
  | finishFunctors =>
      cases stepped
      exact ordered.congr rfl rfl rfl rfl fun _ => allowed.2.2

theorem reachable_ordered {loop : EventLoop Functor Thread}
    (reachable : machine.Reachable loop) : loop.Ordered := by
  refine reachable.invariant Ordered ?_ ?_
  · rintro _ rfl
    exact create_ordered
  · intro current action next ordered allowed stepped
    exact step_ordered ordered allowed stepped

/-- At every moment the functors started, the rest of the batch and
`pendingFunctors_` are together everything queued, in order, and no functor is
run by a batch that was running when it was queued. -/
theorem functors_in_order :
    ∀ loop : EventLoop Functor Thread, machine.Reachable loop →
      loop.started.map Prod.fst ++ loop.queue.functors ++
          loop.queue.pendingFunctors = loop.queued.map Prod.fst ∧
      ∀ (position : Nat) (start : Functor × Nat) (entry : Functor × Option Nat),
        loop.started[position]? = some start →
        loop.queued[position]? = some entry →
        start.1 = entry.1 ∧ ∀ batch, entry.2 = some batch → batch < start.2 := by
  intro loop reachable
  rcases (reachable_ordered reachable).history with
    ⟨ran, left, waiting, queued, starts, batchLeft, _, pending, _⟩
  constructor
  · rw [queued, map_fst_eq_of_related starts, ← batchLeft, ← pending]
    simp
  · intro position start entry atStarted atQueued
    have bound : position < loop.started.length :=
      (List.getElem?_eq_some_iff.mp atStarted).1
    have ranBound : position < ran.length := starts.length_eq ▸ bound
    rw [queued, List.append_assoc, List.getElem?_append_left ranBound] at atQueued
    have related := starts.get bound ranBound
    simp only [List.get_eq_getElem] at related
    rw [List.getElem?_eq_getElem bound, Option.some.injEq] at atStarted
    rw [List.getElem?_eq_getElem ranBound, Option.some.injEq] at atQueued
    rw [atStarted, atQueued] at related
    exact related

/-- A functor that queues another one: the second waits for the next batch. -/
theorem functors_in_order_requeue :
    ∃ loop : EventLoop Nat Nat, loop.started = [(5, 1)] ∧
      loop.queue.pendingFunctors = [6] ∧
      loop.started.map Prod.fst ++ loop.queue.functors ++
          loop.queue.pendingFunctors = loop.queued.map Prod.fst := by
  let loops : Machine (EventLoop Nat Nat) (Action Nat Nat) := machine
  rcases loops.exists_reachable
      (fun loop => loop.started = [(5, 1)] ∧ loop.queue.pendingFunctors = [6]) rfl
      [.push 0 5, .wakeup 0, .enterLoop, .testQuit, .pollReturns, .handleRead,
        .beginFunctors, .swapFunctors, .startFunctor, .loopPush 6, .loopTestWakeup]
      (by decide) with ⟨loop, reachable, started, pending⟩
  exact ⟨loop, started, pending, (functors_in_order loop reachable).1⟩

end Step

end Ccnet.Net.EventLoop
