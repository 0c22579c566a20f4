import Ccnet.Net.Timer.Ownership

/-! # A cancelled timer stays cancelled -/

namespace Ccnet.Net.TimerQueue

variable {queue next : TimerQueue} {place : Nat → TimerPlace}

/-- The timer is freed, or will be by the `handleRead` that is running; since
that one its callback has not been started. -/
structure Settled (queue : TimerQueue) (serial read : Nat) : Prop where
  starts : ∀ started, (serial, started) ∈ queue.starts → started ≤ read
  gone : serial ∈ queue.freed ∨ queue.reads = read ∧
    ∃ entry ∈ queue.batch, entry.timer.serial = serial ∧
      ∃ canceled ∈ queue.cancelingTimers,
        canceled.key = ActiveTimer.key ⟨entry.timer, serial⟩

section Settled

variable {serial read : Nat}

/-- Steps that start no callback, begin no `handleRead` and leave the batch. -/
theorem Settled.of_same (settled : queue.Settled serial read)
    (same : queue.SameCalls next)
    (freed : serial ∈ queue.freed → serial ∈ next.freed)
    (canceling : ∀ canceled ∈ queue.cancelingTimers, canceled ∈ next.cancelingTimers) :
    next.Settled serial read where
  starts := by
    rw [same.starts]
    exact settled.starts
  gone := by
    rw [same.reads, same.batch]
    rcases settled.gone with wasFreed | ⟨reads, entry, member, entrySerial, canceled,
      canceledMember, keyed⟩
    · exact .inl (freed wasFreed)
    · exact .inr ⟨reads, entry, member, entrySerial, canceled,
        canceling canceled canceledMember, keyed⟩

theorem cancelInLoop_settled (consistent : queue.Consistent place)
    (settled : queue.Settled serial read) {timerId : ActiveTimer}
    (stepped : queue.cancelInLoop timerId = .ok next) : next.Settled serial read := by
  rcases cancelInLoop_ok consistent.represents timerId with
    ⟨found, ran, same, _, outcome⟩
  rw [ran] at stepped
  cases stepped
  rcases outcome with ⟨_, _, _, canceling, freed⟩ | ⟨_, canceling, kept⟩
  · refine settled.of_same same ?_ (by rw [canceling]; exact fun _ member => member)
    intro wasFreed
    rw [(freed.located serial).freed]
    by_cases same : serial = timerId.sequence
    · rw [same, Function.update_self]
    · rw [Function.update_of_ne same]
      exact (consistent.represents.located serial).freed.mp wasFreed
  · refine settled.of_same same ?_ ?_
    · intro wasFreed
      rw [(kept.located serial).freed]
      exact (consistent.represents.located serial).freed.mp wasFreed
    · intro canceled member
      rw [canceling]
      split
      · exact OrderedSet.subset_insert member
      · exact member

theorem beginHandleRead_settled (consistent : queue.Consistent place)
    (settled : queue.Settled serial read) {now : Int} (idle : queue.phase = .idle)
    (stepped : queue.beginHandleRead now = .ok next) : next.Settled serial read := by
  rcases beginHandleRead_ok consistent.represents idle now with
    ⟨found, ran, represents, _, _, _, _, starts, _⟩
  rw [ran] at stepped
  cases stepped
  constructor
  · rw [starts]
    exact settled.starts
  · -- Between two reads there is no batch, so the timer is freed already.
    rcases settled.gone with wasFreed | ⟨_, entry, member, _⟩
    · left
      have freed := (consistent.represents.located serial).freed.mp wasFreed
      rw [(represents.located serial).freed, afterExpiry]
      split
      · rename_i moved
        rcases mem_serials.mp moved with ⟨entry, expired, same⟩
        have queued := (consistent.represents.queued_of_mem_timers
          (mem_expiredAt.mp expired).1).1
        rw [same, freed] at queued
        cases queued
      · exact freed
    · simp [TimerQueue.batch, idle] at member

theorem runCallback_settled (consistent : queue.Consistent place)
    (settled : queue.Settled serial read) (toCall : queue.phase.toCall ≠ [])
    (stepped : queue.runCallback = .ok next) : next.Settled serial read := by
  rcases TimerPhase.exists_of_toCall_ne toCall with ⟨now, expired, entry, rest, phase⟩
  have phased := consistent.phased
  simp only [Phased, phase] at phased
  rw [runCallback_ok consistent.represents phase phased.2] at stepped
  cases stepped
  have inBatch : entry ∈ queue.batch := by
    simp only [TimerQueue.batch, phase]
    exact phased.2.subset (by simp)
  constructor
  · intro started member
    rcases List.mem_append.mp member with old | new
    · exact settled.starts started old
    · simp only [List.mem_singleton, Prod.mk.injEq] at new
      rcases settled.gone with wasFreed | ⟨reads, _⟩
      · have expiredPlace := (consistent.represents.live_of_mem_batch inBatch).1
        rw [← new.1,
          (consistent.represents.located serial).freed.mp wasFreed] at expiredPlace
        cases expiredPlace
      · rw [new.2, reads]
  · have gone := settled.gone
    simpa only [TimerQueue.batch, phase] using gone

theorem finishCallbacks_settled (settled : queue.Settled serial read) :
    queue.finishCallbacks.Settled serial read := by
  rcases settled with ⟨starts, gone⟩
  unfold finishCallbacks
  split
  · rename_i now expired rest phase
    refine ⟨starts, ?_⟩
    simpa only [TimerQueue.batch, phase] using gone
  · exact ⟨starts, gone⟩

theorem resetNext_settled (consistent : queue.Consistent place)
    (settled : queue.Settled serial read) (toReset : queue.phase.toReset ≠ [])
    (stepped : queue.resetNext = .ok next) : next.Settled serial read := by
  rcases TimerPhase.exists_of_toReset_ne toReset with ⟨now, entry, rest, phase⟩
  rcases resetNext_ok consistent.represents phase with
    ⟨found, ran, nextPhase, _, canceling, reads, starts, _, expired, outcome⟩
  rw [ran] at stepped
  cases stepped
  refine ⟨by rw [starts]; exact settled.starts, ?_⟩
  rcases settled.gone with wasFreed | ⟨readsNow, other, member, otherSerial,
    canceled, canceledMember, keyed⟩
  · left
    have freed := (consistent.represents.located serial).freed.mp wasFreed
    have different : serial ≠ entry.timer.serial := by
      intro same
      rw [← same, freed] at expired
      cases expired
    rcases outcome with ⟨_, represents⟩ | represents
    · rw [(represents.located serial).freed, Function.update_of_ne different]
      exact freed
    · rw [(represents.located serial).freed, Function.update_of_ne different]
      exact freed
  · simp only [TimerQueue.batch, phase, List.mem_cons] at member
    rcases member with isEntry | inRest
    · -- `reset` finds the timer among the cancelled ones and frees it.
      left
      subst isEntry
      rw [← otherSerial]
      rcases outcome with ⟨notCanceled, _⟩ | represents
      · rw [OrderedSet.find_eq_none_iff] at notCanceled
        rw [← otherSerial] at keyed
        exact absurd keyed (notCanceled canceled canceledMember)
      · rw [(represents.located _).freed, Function.update_self]
    · right
      refine ⟨reads.trans readsNow, other, ?_, otherSerial, canceled, ?_, keyed⟩
      · simpa only [TimerQueue.batch, nextPhase] using inRest
      · rw [canceling]
        exact canceledMember

theorem finishReset_settled (consistent : queue.Consistent place)
    (settled : queue.Settled serial read)
    (reset : queue.phase.isResetting = true ∧ queue.phase.toReset = [])
    {clock : Int} (stepped : queue.finishReset clock = .ok next) :
    next.Settled serial read := by
  rcases TimerPhase.exists_of_reset reset with ⟨now, phase⟩
  rcases finishReset_ok consistent.represents phase clock with
    ⟨found, ran, represents, _, _, _, starts, _⟩
  rw [ran] at stepped
  cases stepped
  refine ⟨by rw [starts]; exact settled.starts, ?_⟩
  rcases settled.gone with wasFreed | ⟨_, entry, member, _⟩
  · left
    rw [(represents.located serial).freed]
    exact (consistent.represents.located serial).freed.mp wasFreed
  · simp [TimerQueue.batch, phase] at member

theorem addTimerInLoop_settled (consistent : queue.Consistent place)
    (settled : queue.Settled serial read) {pointer : TimerPtr} {clock : Int}
    (created : pointer ∈ queue.created) (notHanded : pointer.serial ∉ queue.handed)
    (stepped : queue.addTimerInLoop pointer clock = .ok next) :
    next.Settled serial read := by
  rcases addTimerInLoop_ok consistent.represents created notHanded clock with
    ⟨found, ran, represents, same, _, _, canceling, fresh⟩
  rw [ran] at stepped
  cases stepped
  refine settled.of_same same ?_ (by rw [canceling]; exact fun _ member => member)
  intro wasFreed
  have freed := (consistent.represents.located serial).freed.mp wasFreed
  have different : serial ≠ pointer.serial := by
    intro equal
    rw [← equal, freed] at fresh
    cases fresh
  rw [(represents.located serial).freed, Function.update_of_ne different]
  exact freed

/-- Whatever happens to the queue, a cancelled timer stays cancelled. -/
theorem step_settled (action : Action) (consistent : queue.Consistent place)
    (settled : queue.Settled serial read) (allowed : queue.Allowed action)
    (stepped : queue.step action = .ok next) : next.Settled serial read := by
  cases action with
  | newTimer timer | alarm =>
      cases stepped
      exact ⟨settled.starts, settled.gone⟩
  | addTimerInLoop timer clock =>
      exact addTimerInLoop_settled consistent settled allowed.2.1 allowed.2.2 stepped
  | cancelInLoop timerId => exact cancelInLoop_settled consistent settled stepped
  | beginHandleRead now => exact beginHandleRead_settled consistent settled allowed stepped
  | runCallback => exact runCallback_settled consistent settled allowed stepped
  | finishCallbacks =>
      cases stepped
      exact finishCallbacks_settled settled
  | resetNext => exact resetNext_settled consistent settled allowed stepped
  | finishReset clock => exact finishReset_settled consistent settled allowed stepped

end Settled

/-- A timer whose identifier is not found is not in the queue. -/
theorem Represents.not_queued_of_absent (represents : queue.Represents place)
    {pointer : TimerPtr} (created : pointer ∈ queue.created)
    (absent : ∀ active ∈ queue.activeTimers,
      active.key ≠ ActiveTimer.key ⟨pointer, pointer.serial⟩) :
    place pointer.serial ≠ .queued := by
  intro queued
  have located := represents.located pointer.serial
  have isLive : (place pointer.serial).isLive = true := by
    rw [queued]
    rfl
  rcases represents.exists_live isLive with ⟨timer, alive⟩
  have address := (located.created pointer created rfl).2 timer alive
  have active := (located.activeTimers ⟨pointer, pointer.serial⟩ rfl).mpr
    ⟨queued, rfl, timer, alive, address⟩
  exact absent _ active rfl

/-- A timer of the batch is named by any pointer that was made for it. -/
theorem Represents.key_of_mem_batch (represents : queue.Represents place)
    {pointer : TimerPtr} (created : pointer ∈ queue.created) {entry : Entry}
    (member : entry ∈ queue.batch) (same : entry.timer.serial = pointer.serial) :
    ActiveTimer.key ⟨pointer, pointer.serial⟩ =
      ActiveTimer.key ⟨entry.timer, entry.timer.serial⟩ := by
  rcases represents.live_of_mem_batch member with ⟨_, timer, alive, address⟩
  rw [same] at alive
  have pointerAddress :=
    ((represents.located pointer.serial).created pointer created rfl).2 timer alive
  simp [ActiveTimer.key, ← address, pointerAddress, same]

/-- Cancelling a timer that has been handed to the queue settles it. -/
theorem settled_of_cancelInLoop (consistent : queue.Consistent place)
    {pointer : TimerPtr} (created : pointer ∈ queue.created)
    (handed : pointer.serial ∈ queue.handed) (userCode : queue.RunsUserCode)
    (stepped : queue.cancelInLoop ⟨pointer, pointer.serial⟩ = .ok next) :
    next.Settled pointer.serial next.reads := by
  have represents := consistent.represents
  have located := represents.located pointer.serial
  rcases cancelInLoop_ok represents ⟨pointer, pointer.serial⟩ with
    ⟨found, ran, same, _, outcome⟩
  rw [ran] at stepped
  cases stepped
  constructor
  · intro started member
    rw [same.starts] at member
    rw [same.reads]
    exact consistent.starts _ member
  · rcases outcome with ⟨_, _, _, _, freed⟩ | ⟨absent, canceling, kept⟩
    · left
      rw [(freed.located _).freed, Function.update_self]
    · rcases located.handed.mp handed with queued | expired | freed
      · exact absurd queued (represents.not_queued_of_absent created absent)
      · right
        rcases located.batch.mpr expired with ⟨entry, member, entrySerial⟩
        have busy : queue.phase ≠ .idle := by
          intro idle
          simp [TimerQueue.batch, idle] at member
        have calling := consistent.callingExpiredTimers (userCode.isCalling busy)
        refine ⟨rfl, entry, by rw [same.batch]; exact member, entrySerial, ?_⟩
        rw [canceling, calling, if_pos rfl]
        rcases OrderedSet.exists_mem_insert queue.cancelingTimers
          ⟨pointer, pointer.serial⟩ with ⟨canceled, canceledMember, keyed⟩
        refine ⟨canceled, canceledMember, keyed.trans ?_⟩
        rw [represents.key_of_mem_batch created member entrySerial, entrySerial]
      · left
        rw [(kept.located _).freed]
        exact freed

end Ccnet.Net.TimerQueue
