import Ccnet.Net.Timer.Progress
import Ccnet.Net.Timer.TimerSystem

/-! # One call of `handleRead`

A tick is a call of `handleRead` from its beginning to its return, with whatever its
callbacks and the other threads do meanwhile. -/

namespace Ccnet.Net.TimerSystem

variable {before current next after : TimerSystem} {now : Int}

/-- The steps taken while `handleRead` runs. -/
def InHandleRead (system : TimerSystem) (_ : Action) : Prop := system.queue.phase ≠ .idle

instance (system : TimerSystem) (action : Action) : Decidable (system.InHandleRead action) :=
  inferInstanceAs (Decidable (_ ≠ _))

/-- What the program does from a state on until `handleRead` returns. -/
abbrev duringHandleRead (program : Machine TimerSystem Action) (begun : TimerSystem) :
    Machine TimerSystem Action :=
  (program.restrict InHandleRead).startingAt begun

/-- A `handleRead` that read the time `now` has led from one state to another. -/
def Ticking (program : Machine TimerSystem Action) (before : TimerSystem) (now : Int)
    (current : TimerSystem) : Prop :=
  ∃ begun, program.allowed before (.beginHandleRead now) ∧
    program.step before (.beginHandleRead now) = .ok begun ∧
    (duringHandleRead program begun).Reachable current

/-- It has returned. -/
def Tick (program : Machine TimerSystem Action) (before : TimerSystem) (now : Int)
    (after : TimerSystem) : Prop :=
  Ticking program before now after ∧ after.queue.phase = .idle

/-- The timers cancelled by the loop thread between two states. -/
def cancelledSince (before after : TimerSystem) : List Nat :=
  (after.cancelled.drop before.cancelled.length).map Prod.fst

/-- The timer was handed to the queue between two states. -/
def AddedSince (before after : TimerSystem) (serial : Nat) : Prop :=
  serial ∈ after.queue.handed ∧ serial ∉ before.queue.handed

/-- The work of a tick on the timers that were due. -/
structure ExactTick (before after : TimerSystem) (now : Int) (due : List Entry) : Prop where
  mem_due : ∀ entry, entry ∈ due ↔ entry ∈ before.queue.timers ∧ entry.expiration ≤ now
  sorted : due.Pairwise fun earlier later => earlier.key < later.key
  starts : after.queue.starts = before.queue.starts ++ due.map fun entry =>
    (entry.timer.serial, before.queue.reads + 1)
  rescheduled : ∀ entry ∈ due, ∃ timer, before.queue.Rescheduled after.queue now
    (cancelledSince before after) entry timer
  outside : ∀ serial, (∀ entry ∈ due, entry.timer.serial ≠ serial) →
    (after.queue.OwnedBy serial .timers ↔ (before.queue.OwnedBy serial .timers ∨
      AddedSince before after serial) ∧ serial ∉ cancelledSince before after)

/-! ## While `handleRead` runs -/

structure TickInvariant (before : TimerSystem) (now : Int) (current : TimerSystem) : Prop where
  ordered : current.Ordered
  progress : ∃ since, current.cancelled = before.cancelled ++ since ∧
    before.queue.Progress current.queue now (since.map Prod.fst) ∧
    ∀ record ∈ since, record.2 = before.queue.reads + 1

/-- A step of the queue that cancels nothing. -/
theorem TickInvariant.stepQueue (invariant : TickInvariant before now current)
    {system : TimerSystem} {action : TimerQueue.Action}
    (stepped : system.stepQueue action = .ok next) (ordered : next.Ordered)
    (queue : system.queue = current.queue) (cancelled : system.cancelled = current.cancelled)
    (progress : ∀ since after, current.cancelled = before.cancelled ++ since →
      before.queue.Progress current.queue now (since.map Prod.fst) →
      current.queue.step action = .ok after →
      before.queue.Progress after now (since.map Prod.fst)) :
    TickInvariant before now next := by
  rcases Checked.bind_eq_ok_iff.mp stepped with ⟨after, ran, result⟩
  cases result
  rcases invariant.progress with ⟨since, recorded, current, reads⟩
  refine ⟨ordered, since, cancelled.trans recorded, ?_, reads⟩
  exact progress since after recorded current (queue ▸ ran)

/-- A timer that was cancelled had been handed to the queue. -/
theorem Ordered.handed_of_cancelled (ordered : current.Ordered) {record : Nat × Nat}
    (recorded : record ∈ current.cancelled) : record.1 ∈ current.queue.handed := by
  rcases ordered.consistent with ⟨place, consistent⟩
  have located := consistent.represents.located record.1
  rw [located.handed]
  rcases (ordered.settled record recorded).gone with freed | ⟨_, entry, member, same, _⟩
  · exact .inr (.inr (located.freed.mp freed))
  · exact .inr (.inl (located.batch.mp ⟨entry, member, same⟩))

theorem step_tickInvariant (wasOrdered : before.Ordered) (action : Action)
    (invariant : TickInvariant before now current) (allowed : current.Allowed action)
    (condition : current.CancelsAfterAdd action) (within : current.InHandleRead action)
    (stepped : current.step action = .ok next) : TickInvariant before now next := by
  have ordered := step_ordered action invariant.ordered allowed condition stepped
  rcases wasOrdered.consistent with ⟨start, wasConsistent⟩
  rcases invariant.ordered.consistent with ⟨place, consistent⟩
  cases action with
  | newTimer timer =>
      refine invariant.stepQueue stepped ordered rfl rfl ?_
      rintro since _ _ progress ⟨⟩
      exact TimerQueue.newTimer_progress consistent progress timer
  | addTimer timer clock =>
      rcases allowed with ⟨_, created, fresh⟩
      have notHanded : timer.serial ∉ current.queue.handed :=
        fun handed => fresh (invariant.ordered.handed _ handed)
      refine invariant.stepQueue stepped ordered rfl rfl ?_
      intro since after recorded progress ran
      refine TimerQueue.addTimerInLoop_progress wasConsistent consistent progress created
        notHanded ?_ ran
      intro cancelled
      rcases List.mem_map.mp cancelled with ⟨record, isRecord, same⟩
      have inCancelled : record ∈ current.cancelled :=
        recorded ▸ List.mem_append_right _ isRecord
      exact notHanded (same ▸ invariant.ordered.handed_of_cancelled inCancelled)
  | queueAddTimer timer | queueCancel timerId =>
      cases stepped
      exact ⟨ordered, invariant.progress⟩
  | returnTimerId timer =>
      rcases Checked.bind_eq_ok_iff.mp stepped with ⟨_, _, result⟩
      cases result
      exact ⟨ordered, invariant.progress⟩
  | cancel timerId =>
      rcases allowed with ⟨userCode, created, sequence, _⟩
      rcases Checked.bind_eq_ok_iff.mp stepped with ⟨queue, ran, result⟩
      cases result
      rcases invariant.progress with ⟨since, recorded, progress, reads⟩
      have calling : current.queue.phase.isCalling = true := userCode.isCalling within
      refine ⟨ordered, since ++ [(timerId.sequence, current.queue.reads)], ?_, ?_, ?_⟩
      · rw [← List.append_assoc, ← recorded]
      · rw [List.map_append]
        exact TimerQueue.cancelInLoop_progress consistent progress calling created sequence ran
      · intro record member
        rcases List.mem_append.mp member with old | new
        · exact reads record old
        · rw [List.mem_singleton.mp new]
          exact progress.reads
  | swapFunctors | runFunctor clock | beginHandleRead later =>
      exact absurd allowed.1 within
  | alarm =>
      refine invariant.stepQueue stepped ordered rfl rfl ?_
      rintro since _ _ progress ⟨⟩
      exact progress.of_same ⟨progress.time, progress.reads, progress.calling,
        progress.called⟩ rfl rfl rfl rfl fun _ _ => rfl
  | runCallback =>
      refine invariant.stepQueue stepped ordered rfl rfl ?_
      intro since after _ progress ran
      exact TimerQueue.runCallback_progress consistent progress allowed ran
  | finishCallbacks =>
      refine invariant.stepQueue stepped ordered rfl rfl ?_
      rintro since _ _ progress ⟨⟩
      exact TimerQueue.finishCallbacks_progress progress allowed
  | resetNext =>
      refine invariant.stepQueue stepped ordered rfl rfl ?_
      intro since after _ progress ran
      exact TimerQueue.resetNext_progress wasConsistent consistent progress allowed ran
  | finishReset clock =>
      refine invariant.stepQueue stepped ordered rfl rfl ?_
      intro since after _ progress ran
      exact TimerQueue.finishReset_progress progress allowed ran

theorem Ticking.invariant (wasOrdered : before.Ordered)
    (ticking : Ticking (machine.restrict CancelsAfterAdd) before now current) :
    TickInvariant before now current := by
  rcases ticking with ⟨begun, allowed, stepped, reachable⟩
  refine reachable.invariant (TickInvariant before now) ?_ ?_
  · rintro _ rfl
    have ordered := step_ordered (.beginHandleRead now) wasOrdered allowed.1 allowed.2 stepped
    rcases wasOrdered.consistent with ⟨place, consistent⟩
    rcases Checked.bind_eq_ok_iff.mp stepped with ⟨queue, ran, result⟩
    cases result
    exact ⟨ordered, [], (List.append_nil _).symm,
      TimerQueue.beginHandleRead_progress consistent allowed.1.1 ran, by simp⟩
  · intro earlier action later invariant allowed stepped
    exact step_tickInvariant wasOrdered action invariant allowed.1.1 allowed.1.2 allowed.2
      stepped

/-! ## When `handleRead` returns -/

/-- What the invariant says of the end. -/
theorem TickInvariant.exactTick (wasOrdered : before.Ordered)
    (invariant : TickInvariant before now after) (idle : after.queue.phase = .idle) :
    ExactTick before after now (before.queue.expiredAt now) := by
  rcases wasOrdered.consistent with ⟨place, consistent⟩
  rcases invariant.progress with ⟨since, recorded, progress, _⟩
  have cancelled : cancelledSince before after = since.map Prod.fst := by
    rw [cancelledSince, recorded, List.drop_left]
  constructor
  · intro entry
    exact consistent.represents.mem_expiredAt_iff
  · exact OrderedSet.below_sorted _ _
  · rcases progress.called with ⟨called, split, starts⟩
    rw [idle] at split
    rw [starts, ← split]
    simp [TimerPhase.toCall]
  · rcases progress.reset with ⟨done, split, rescheduled⟩
    rw [TimerQueue.batch, idle, List.append_nil] at split
    rw [cancelled, ← split]
    exact rescheduled
  · intro serial outside
    rw [cancelled]
    refine progress.outside serial ?_
    intro due
    rcases TimerQueue.mem_serials.mp due with ⟨entry, member, same⟩
    exact outside entry member same

theorem stepQueue_cancelled {action : TimerQueue.Action}
    (stepped : current.stepQueue action = .ok next) : current.cancelled ⊆ next.cancelled := by
  rcases Checked.bind_eq_ok_iff.mp stepped with ⟨_, _, result⟩
  cases result
  exact fun _ member => member

theorem cancelInLoop_cancelled {timerId : ActiveTimer}
    (stepped : current.cancelInLoop timerId = .ok next) :
    current.cancelled ⊆ next.cancelled := by
  rcases Checked.bind_eq_ok_iff.mp stepped with ⟨_, _, result⟩
  cases result
  exact List.subset_append_left _ _

theorem step_cancelled (action : Action) (stepped : current.step action = .ok next) :
    current.cancelled ⊆ next.cancelled := by
  cases action with
  | addTimer timer clock =>
      exact fun _ member => stepQueue_cancelled stepped member
  | queueAddTimer timer | queueCancel timerId | swapFunctors =>
      cases stepped
      exact fun _ member => member
  | returnTimerId timer =>
      rcases Checked.bind_eq_ok_iff.mp stepped with ⟨_, _, result⟩
      cases result
      exact fun _ member => member
  | cancel timerId => exact cancelInLoop_cancelled stepped
  | runFunctor clock =>
      change current.runFunctor clock = .ok next at stepped
      unfold runFunctor at stepped
      split at stepped
      · cases stepped
        exact fun _ member => member
      · exact fun _ member => stepQueue_cancelled stepped member
      · exact fun _ member => cancelInLoop_cancelled stepped member
  | newTimer timer | alarm | beginHandleRead later | runCallback | finishCallbacks
  | resetNext | finishReset clock => exact stepQueue_cancelled stepped

/-- A timer cancelled during a tick is not run by any later one. -/
theorem TickInvariant.not_run_later (invariant : TickInvariant before now after)
    {serial : Nat} (cancelled : serial ∈ cancelledSince before after) {final : TimerSystem}
    (later : ((machine.restrict CancelsAfterAdd).startingAt after).Reachable final)
    {start : Nat × Nat} (started : start ∈ final.queue.starts) (same : start.1 = serial) :
    start.2 ≤ before.queue.reads + 1 := by
  rcases invariant.progress with ⟨since, recorded, _, reads⟩
  rw [cancelledSince, recorded, List.drop_left] at cancelled
  rcases List.mem_map.mp cancelled with ⟨record, isRecord, isSerial⟩
  have kept : final.Ordered ∧ after.cancelled ⊆ final.cancelled := by
    refine later.invariant (fun system => system.Ordered ∧ after.cancelled ⊆ system.cancelled)
      ?_ ?_
    · rintro _ rfl
      exact ⟨invariant.ordered, fun _ member => member⟩
    · rintro earlier action next ⟨ordered, contained⟩ allowed stepped
      exact ⟨step_ordered action ordered allowed.1 allowed.2 stepped,
        List.Subset.trans contained (step_cancelled action stepped)⟩
  have settled := kept.1.settled record (kept.2 (recorded ▸ List.mem_append_right _ isRecord))
  rw [← reads record isRecord]
  refine settled.starts start.2 ?_
  rw [isSerial, ← same]
  exact started

/-! ## That `handleRead` returns -/

/-- `handleRead` returns from here if the callbacks do nothing more. -/
def Returns (current : TimerSystem) : Prop :=
  ∃ after, (duringHandleRead (machine.restrict CancelsAfterAdd) current).Reachable after ∧
    after.queue.phase = .idle

theorem Returns.step {action : Action} (allowed : current.Allowed action)
    (condition : current.CancelsAfterAdd action) (within : current.InHandleRead action)
    (stepped : current.step action = .ok next) (returns : next.Returns) : current.Returns := by
  rcases returns with ⟨after, reachable, idle⟩
  refine ⟨after, Machine.Reachable.startingAt_trans ?_ reachable, idle⟩
  exact .step (.initial rfl) ⟨⟨allowed, condition⟩, within⟩ stepped

theorem returns_of_resetting {later : Int} {rest : List Entry} (ordered : current.Ordered)
    (phase : current.queue.phase = .resetting later rest) : current.Returns := by
  induction rest generalizing current with
  | nil =>
      rcases ordered.consistent with ⟨place, consistent⟩
      rcases TimerQueue.finishReset_ok consistent.represents phase 0 with
        ⟨queue, ran, _, idle, _⟩
      have allowed : current.Allowed (.finishReset 0) := by
        change current.queue.phase.isResetting = true ∧ current.queue.phase.toReset = []
        rw [phase]
        exact ⟨rfl, rfl⟩
      have stepped : current.step (.finishReset 0) = .ok { current with queue } :=
        Checked.bind_eq_ok_iff.mpr ⟨queue, ran, rfl⟩
      refine .step allowed trivial ?_ stepped ⟨_, .initial rfl, idle⟩
      simp [InHandleRead, phase]
  | cons entry rest induction =>
      rcases ordered.consistent with ⟨place, consistent⟩
      rcases TimerQueue.resetNext_ok consistent.represents phase with
        ⟨queue, ran, nextPhase, _⟩
      have allowed : current.Allowed .resetNext := by
        change current.queue.phase.toReset ≠ []
        rw [phase]
        exact List.cons_ne_nil _ _
      have stepped : current.step .resetNext = .ok { current with queue } :=
        Checked.bind_eq_ok_iff.mpr ⟨queue, ran, rfl⟩
      refine .step allowed trivial ?_ stepped (induction ?_ nextPhase)
      · simp [InHandleRead, phase]
      · exact step_ordered _ ordered allowed trivial stepped

theorem returns_of_calling {later : Int} {expired rest : List Entry}
    (ordered : current.Ordered) (phase : current.queue.phase = .calling later expired rest) :
    current.Returns := by
  induction rest generalizing current with
  | nil =>
      have allowed : current.Allowed .finishCallbacks := by
        change current.queue.phase.isCalling = true ∧ current.queue.phase.toCall = []
        rw [phase]
        exact ⟨rfl, rfl⟩
      have nextPhase : current.queue.finishCallbacks.phase = .resetting later expired := by
        rw [TimerQueue.finishCallbacks, phase]
      refine .step allowed trivial ?_ rfl (returns_of_resetting ?_ nextPhase)
      · simp [InHandleRead, phase]
      · exact step_ordered .finishCallbacks ordered allowed trivial rfl
  | cons entry rest induction =>
      rcases ordered.consistent with ⟨place, consistent⟩
      have phased := consistent.phased
      rw [TimerQueue.Phased, phase] at phased
      have ran := TimerQueue.runCallback_ok consistent.represents phase phased.2
      have allowed : current.Allowed .runCallback := by
        change current.queue.phase.toCall ≠ []
        rw [phase]
        exact List.cons_ne_nil _ _
      have stepped : current.step .runCallback = .ok { current with queue := _ } :=
        Checked.bind_eq_ok_iff.mpr ⟨_, ran, rfl⟩
      refine .step allowed trivial ?_ stepped (induction ?_ rfl)
      · simp [InHandleRead, phase]
      · exact step_ordered _ ordered allowed trivial stepped

theorem Ordered.returns (ordered : current.Ordered) : current.Returns := by
  cases phase : current.queue.phase with
  | idle => exact ⟨current, .initial rfl, phase⟩
  | calling later expired rest => exact returns_of_calling ordered phase
  | resetting later rest => exact returns_of_resetting ordered phase

/-! ## Every tick -/

/-- Evaluating lists of actions exhibits a tick, with what came before and after it. -/
theorem exists_tick (program : Machine TimerSystem Action)
    [∀ system action, Decidable (program.allowed system action)]
    (Property : TimerSystem → TimerSystem → TimerSystem → Prop)
    [∀ before after final, Decidable (Property before after final)] {first : TimerSystem}
    (starts : program.initial first) (now : Int) (earlier during later : List Action)
    (holds : (program.execute first earlier).any (fun before =>
      (program.execute before [.beginHandleRead now]).any fun begun =>
        ((duringHandleRead program begun).execute begun during).any fun after =>
          decide (after.queue.phase = .idle) &&
            ((program.startingAt after).execute after later).any fun final =>
              Property before after final) = true) :
    ∃ before after final, program.Reachable before ∧ Tick program before now after ∧
      (program.startingAt after).Reachable final ∧ Property before after final := by
  simp only [Option.any_eq_true, Bool.and_eq_true, decide_eq_true_eq] at holds
  rcases holds with ⟨before, isBefore, begun, isBegun, after, isAfter, idle, final, isFinal,
    property⟩
  simp only [Machine.execute] at isBegun
  split at isBegun
  · rename_i allowed
    split at isBegun
    · rename_i next stepped
      cases isBegun
      exact ⟨before, after, final, (Machine.Reachable.initial starts).execute isBefore,
        ⟨⟨_, allowed, stepped, (Machine.Reachable.initial rfl).execute isAfter⟩, idle⟩,
        (Machine.Reachable.initial rfl).execute isFinal, property⟩
    · cases isBegun
  · cases isBegun

/-- `handleRead` can be called whenever the loop thread is not busy, returns if its
callbacks do, and does exactly the work of the timers that were due; a timer cancelled by
one of them is not run again. -/
theorem tick_exact {before : TimerSystem}
    (reachable : (machine.restrict CancelsAfterAdd).Reachable before) (now : Int) :
    (before.Allowed (.beginHandleRead now) →
      ∃ begun, Ticking (machine.restrict CancelsAfterAdd) before now begun) ∧
    (∀ current, Ticking (machine.restrict CancelsAfterAdd) before now current →
      current.Returns) ∧
    ∀ after, Tick (machine.restrict CancelsAfterAdd) before now after →
      (∃ due, ExactTick before after now due) ∧
      ∀ serial ∈ cancelledSince before after, ∀ final,
        ((machine.restrict CancelsAfterAdd).startingAt after).Reachable final →
        ∀ start ∈ final.queue.starts, start.1 = serial → start.2 ≤ before.queue.reads + 1 := by
  have ordered := ordered_of_reachable reachable
  refine ⟨?_, ?_, ?_⟩
  · intro allowed
    rcases ordered.consistent with ⟨place, consistent⟩
    rcases TimerQueue.beginHandleRead_ok consistent.represents allowed.1 now with
      ⟨queue, ran, _⟩
    exact ⟨_, _, ⟨allowed, trivial⟩, Checked.bind_eq_ok_iff.mpr ⟨queue, ran, rfl⟩,
      .initial rfl⟩
  · intro current ticking
    exact (ticking.invariant ordered).ordered.returns
  · rintro after ⟨ticking, idle⟩
    have invariant := ticking.invariant ordered
    refine ⟨⟨_, invariant.exactTick ordered idle⟩, ?_⟩
    intro serial cancelled final later start started same
    exact invariant.not_run_later cancelled later started same

/-- Two repeating timers are due. The callback of the first cancels the second, which is run
all the same and then freed, and adds a timer that is due already and is left for later. -/
theorem tick_exact_cancelled :
    ∃ before after, (machine.restrict CancelsAfterAdd).Reachable before ∧
      Tick (machine.restrict CancelsAfterAdd) before 20 after ∧
      (after.queue.starts = [(1, 1), (2, 1)] ∧ cancelledSince before after = [2] ∧
        after.queue.timers.elements = [⟨15, ⟨24, 3⟩⟩, ⟨25, ⟨8, 1⟩⟩]) ∧
      (∃ due, ExactTick before after 20 due) ∧
      ∀ serial ∈ cancelledSince before after, ∀ final,
        ((machine.restrict CancelsAfterAdd).startingAt after).Reachable final →
        ∀ start ∈ final.queue.starts, start.1 = serial → start.2 ≤ before.queue.reads + 1 := by
  have run := exists_tick (machine.restrict CancelsAfterAdd)
    (fun before after _ => after.queue.starts = [(1, 1), (2, 1)] ∧
      cancelledSince before after = [2] ∧
      after.queue.timers.elements = [⟨15, ⟨24, 3⟩⟩, ⟨25, ⟨8, 1⟩⟩])
    rfl 20
    [.newTimer ⟨8, 10, 5, true⟩, .addTimer ⟨8, 1⟩ 0, .returnTimerId ⟨8, 1⟩,
      .newTimer ⟨16, 12, 5, true⟩, .addTimer ⟨16, 2⟩ 0, .returnTimerId ⟨16, 2⟩]
    [.runCallback, .cancel ⟨⟨16, 2⟩, 2⟩, .newTimer ⟨24, 15, 0, false⟩, .addTimer ⟨24, 3⟩ 21,
      .returnTimerId ⟨24, 3⟩, .runCallback, .finishCallbacks, .resetNext, .resetNext,
      .finishReset 22]
    [] (by decide)
  rcases run with ⟨before, after, _, reachable, tick, _, facts⟩
  exact ⟨before, after, reachable, tick, facts, (tick_exact reachable 20).2.2 after tick⟩

/-- Another thread's `addTimerInLoop` waits in the functor queue while a callback cancels
the timer. A later `handleRead` runs it. -/
theorem cancelled_run_later :
    ∃ before after final, machine.Reachable before ∧ Tick machine before 20 after ∧
      (machine.startingAt after).Reachable final ∧
      ∃ serial ∈ cancelledSince before after, ∃ start ∈ final.queue.starts,
        start.1 = serial ∧ before.queue.reads + 1 < start.2 :=
  exists_tick machine
    (fun before after final => ∃ serial ∈ cancelledSince before after,
      ∃ start ∈ final.queue.starts, start.1 = serial ∧ before.queue.reads + 1 < start.2)
    rfl 20
    [.newTimer ⟨8, 10, 0, false⟩, .addTimer ⟨8, 1⟩ 0, .returnTimerId ⟨8, 1⟩,
      .newTimer ⟨16, 12, 0, false⟩, .queueAddTimer ⟨16, 2⟩, .returnTimerId ⟨16, 2⟩]
    [.runCallback, .cancel ⟨⟨16, 2⟩, 2⟩, .finishCallbacks, .resetNext, .finishReset 21]
    [.swapFunctors, .runFunctor 22, .alarm, .beginHandleRead 30, .runCallback]
    (by decide)

end Ccnet.Net.TimerSystem
