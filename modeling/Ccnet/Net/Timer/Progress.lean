import Ccnet.Net.Timer.Inversion
import Ccnet.Net.Timer.Cancellation

/-! # How far a `handleRead` has come

What a `handleRead` that began in one queue has done when it has led to another,
with any adding and cancelling by the callbacks in between. -/

namespace Ccnet.Net.TimerQueue

variable {before queue next : TimerQueue} {place : Nat → TimerPlace} {now : Int}
  {cancelled : List Nat}

/-- What becomes of a timer of the batch: it is queued again for its next expiration, if
it repeats and was not cancelled. -/
structure Rescheduled (before queue : TimerQueue) (now : Int) (cancelled : List Nat)
    (entry : Entry) (timer : Timer) : Prop where
  live : before.live entry.timer.serial = some timer
  queued : queue.OwnedBy entry.timer.serial .timers ↔
    timer.repeats = true ∧ entry.timer.serial ∉ cancelled
  expiration : ∀ found ∈ queue.timers, found.timer.serial = entry.timer.serial →
    found.expiration = int64 (now + timer.delta)

/-- The callbacks started are those at the front of the batch. -/
structure Called (before queue : TimerQueue) (now : Int) : Prop where
  time : ∀ started ∈ queue.phase.started, started = now
  reads : queue.reads = before.reads + 1
  calling : queue.phase.isCalling = true → queue.batch = before.expiredAt now
  called : ∃ called, called ++ queue.phase.toCall = before.expiredAt now ∧
    queue.starts = before.starts ++ called.map fun entry =>
      (entry.timer.serial, before.reads + 1)

structure Progress (before queue : TimerQueue) (now : Int) (cancelled : List Nat) :
    Prop extends before.Called queue now where
  reset : ∃ done, done ++ queue.batch = before.expiredAt now ∧
    ∀ entry ∈ done, ∃ timer, before.Rescheduled queue now cancelled entry timer
  waiting : ∀ entry ∈ queue.batch,
    queue.live entry.timer.serial = before.live entry.timer.serial
  canceling : ∀ entry ∈ queue.batch, queue.cancelingTimers.find
    (ActiveTimer.key ⟨entry.timer, entry.timer.serial⟩) = none ↔
      entry.timer.serial ∉ cancelled
  handed : before.handed ⊆ queue.handed
  outside : ∀ serial, serial ∉ serials (before.expiredAt now) →
    (queue.OwnedBy serial .timers ↔ (before.OwnedBy serial .timers ∨
      serial ∈ queue.handed ∧ serial ∉ before.handed) ∧ serial ∉ cancelled)

theorem SameCalls.called (same : queue.SameCalls next) (called : before.Called queue now) :
    before.Called next now where
  time := by
    rw [same.phase]
    exact called.time
  reads := same.reads.trans called.reads
  calling := by
    rw [same.phase, same.batch]
    exact called.calling
  called := by
    rw [same.phase, same.starts]
    exact called.called

theorem Rescheduled.of_timers {entry : Entry} {timer : Timer}
    (rescheduled : before.Rescheduled queue now cancelled entry timer)
    (timers : ∀ found : Entry, found.timer.serial = entry.timer.serial →
      (found ∈ next.timers ↔ found ∈ queue.timers)) :
    before.Rescheduled next now cancelled entry timer where
  live := rescheduled.live
  queued := by
    rw [← rescheduled.queued]
    exact exists_congr fun found => and_congr_left fun same => timers found same
  expiration found member same :=
    rescheduled.expiration found ((timers found same).mp member) same

/-- The sentry of `getExpired` is beyond just the timers that are due. -/
theorem Represents.mem_expiredAt_iff (represents : queue.Represents place) {entry : Entry} :
    entry ∈ queue.expiredAt now ↔ entry ∈ queue.timers ∧ entry.expiration ≤ now := by
  rw [mem_expiredAt]
  refine and_congr_right fun member => ?_
  rcases represents.queued_of_mem_timers member with ⟨_, timer, alive, address, _⟩
  have bound := represents.address_lt _ timer alive
  rw [address] at bound
  rw [Entry.key, Prod.Lex.toLex_lt_toLex]
  constructor
  · rintro (earlier | ⟨same, _⟩)
    · exact le_of_lt earlier
    · exact le_of_eq same
  · intro due
    rcases lt_or_eq_of_le due with earlier | same
    · exact .inl earlier
    · exact .inr ⟨same, bound⟩

theorem beginHandleRead_progress (consistent : before.Consistent place)
    (idle : before.phase = .idle) (ran : before.beginHandleRead now = .ok queue) :
    before.Progress queue now [] := by
  rcases beginHandleRead_ok consistent.represents idle now with
    ⟨found, foundRan, represents, phase, _, canceling, reads, starts, same⟩
  cases foundRan.symm.trans ran
  have live : queue.live = before.live := by
    rw [(beginHandleRead_inversion ran).1]
  have batch : queue.batch = before.expiredAt now := by rw [TimerQueue.batch, phase]
  have called : before.Called queue now := by
    refine ⟨?_, reads, fun _ => batch, [], ?_, ?_⟩
    · rw [phase]
      rintro started ⟨rfl⟩
      rfl
    · rw [phase]
      rfl
    · rw [starts, List.map_nil, List.append_nil]
  refine ⟨called, ⟨[], batch, by simp⟩, ?_, ?_, ?_, ?_⟩
  · intro entry _
    rw [live]
  · intro entry _
    rw [canceling]
    simp [OrderedSet.find, OrderedSet.empty]
  · rw [same.handed]
    exact fun _ member => member
  · intro serial outside
    rw [represents.ownedBy_iff, consistent.represents.ownedBy_iff, afterExpiry, if_neg outside,
      same.handed]
    simp

/-! ## Adding and cancelling -/

/-- Steps that touch neither the timers in the queue nor those of the batch. -/
theorem Progress.of_same (progress : before.Progress queue now cancelled)
    (called : before.Called next now) (batch : next.batch = queue.batch)
    (timers : next.timers = queue.timers)
    (canceling : next.cancelingTimers = queue.cancelingTimers)
    (handed : next.handed = queue.handed)
    (live : ∀ entry ∈ queue.batch,
      next.live entry.timer.serial = queue.live entry.timer.serial) :
    before.Progress next now cancelled := by
  have owned : ∀ serial, next.OwnedBy serial .timers ↔ queue.OwnedBy serial .timers := by
    intro serial
    unfold OwnedBy
    rw [timers]
  refine ⟨called, ?_, ?_, ?_, ?_, ?_⟩
  · rcases progress.reset with ⟨done, split, rescheduled⟩
    refine ⟨done, by rw [batch, split], ?_⟩
    intro entry member
    rcases rescheduled entry member with ⟨timer, found⟩
    exact ⟨timer, found.of_timers fun _ _ => by rw [timers]⟩
  · rw [batch]
    intro entry member
    rw [live entry member]
    exact progress.waiting entry member
  · rw [batch, canceling]
    exact progress.canceling
  · rw [handed]
    exact progress.handed
  · intro serial outside
    rw [owned, handed]
    exact progress.outside serial outside

theorem newTimer_progress (consistent : queue.Consistent place)
    (progress : before.Progress queue now cancelled) (timer : Timer) :
    before.Progress (queue.newTimer timer).2 now cancelled := by
  have same : queue.SameCalls (queue.newTimer timer).2 := ⟨rfl, rfl, rfl, rfl⟩
  refine progress.of_same (same.called progress.toCalled) same.batch rfl rfl rfl ?_
  intro entry member
  have expired := (consistent.represents.live_of_mem_batch member).1
  refine Function.update_of_ne ?_ _ _
  intro isNew
  -- The number of the new timer was never used.
  have unborn := consistent.represents.unborn (queue.created.length + 1) (Nat.lt_succ_self _)
  rw [isNew, unborn] at expired
  cases expired

/-- Two queues in which a timer has the same place and object have the same entries of it. -/
theorem Represents.timers_congr {after : Nat → TimerPlace}
    (represents : queue.Represents place) (nextRepresents : next.Represents after)
    {entry : Entry} (samePlace : after entry.timer.serial = place entry.timer.serial)
    (live : next.live entry.timer.serial = queue.live entry.timer.serial) :
    entry ∈ next.timers ↔ entry ∈ queue.timers := by
  rw [(nextRepresents.located _).timers entry rfl, (represents.located _).timers entry rfl,
    samePlace, live]

theorem Represents.handed_of_due (represents : before.Represents place) {serial : Nat}
    (due : serial ∈ serials (before.expiredAt now)) : serial ∈ before.handed := by
  rcases mem_serials.mp due with ⟨entry, member, rfl⟩
  have queued := (represents.queued_of_mem_timers (mem_expiredAt.mp member).1).1
  exact (represents.located _).handed.mpr (.inl queued)

theorem addTimerInLoop_progress {start : Nat → TimerPlace}
    (wasConsistent : before.Consistent start) (consistent : queue.Consistent place)
    (progress : before.Progress queue now cancelled) {pointer : TimerPtr} {clock : Int}
    (created : pointer ∈ queue.created) (notHanded : pointer.serial ∉ queue.handed)
    (notCancelled : pointer.serial ∉ cancelled)
    (ran : queue.addTimerInLoop pointer clock = .ok next) :
    before.Progress next now cancelled := by
  rcases addTimerInLoop_ok consistent.represents created notHanded clock with
    ⟨found, foundRan, represents, same, _, handed, canceling, fresh⟩
  cases foundRan.symm.trans ran
  have live : next.live = queue.live := by
    rcases addTimerInLoop_inversion ran with ⟨_, _, fields, _⟩
    rw [fields]
  have notBefore : pointer.serial ∉ before.handed :=
    fun wasHanded => notHanded (progress.handed wasHanded)
  refine ⟨same.called progress.toCalled, ?_, ?_, ?_, ?_, ?_⟩
  · rcases progress.reset with ⟨done, split, rescheduled⟩
    refine ⟨done, by rw [same.batch, split], ?_⟩
    intro entry member
    have due : entry.timer.serial ∈ serials (before.expiredAt now) :=
      mem_serials.mpr ⟨entry, split ▸ List.mem_append_left _ member, rfl⟩
    have different : entry.timer.serial ≠ pointer.serial := by
      intro equal
      exact notBefore (equal ▸ wasConsistent.represents.handed_of_due due)
    rcases rescheduled entry member with ⟨timer, found⟩
    refine ⟨timer, found.of_timers ?_⟩
    intro other otherSerial
    refine consistent.represents.timers_congr represents ?_ (by rw [live])
    rw [otherSerial, Function.update_of_ne different]
  · rw [same.batch, live]
    exact progress.waiting
  · rw [same.batch, canceling]
    exact progress.canceling
  · rw [handed]
    exact List.subset_append_of_subset_left _ progress.handed
  · intro serial outside
    rw [represents.ownedBy_iff, handed, List.mem_append, List.mem_singleton]
    by_cases isPointer : serial = pointer.serial
    · rw [isPointer, Function.update_self]
      exact iff_of_true rfl ⟨.inr ⟨.inr rfl, notBefore⟩, notCancelled⟩
    · rw [Function.update_of_ne isPointer, ← consistent.represents.ownedBy_iff,
        progress.outside serial outside, or_iff_left isPointer]

theorem cancelInLoop_live (consistent : queue.Consistent place) {timerId : ActiveTimer}
    (ran : queue.cancelInLoop timerId = .ok next) {entry : Entry}
    (member : entry ∈ queue.batch) :
    next.live entry.timer.serial = queue.live entry.timer.serial := by
  rcases cancelInLoop_inversion ran with ⟨found, timer, search, alive, rfl⟩ | rfl
  · have active := (OrderedSet.find_eq_some_iff.mp search).1
    have queued := ((consistent.represents.located _).activeTimers found rfl).mp active
    have expired := (consistent.represents.live_of_mem_batch member).1
    refine Function.update_of_ne ?_ _ _
    intro same
    rw [same, queued.1] at expired
    cases expired
  · rfl

/-- A cancelled timer leaves the queue, or is kept from it when the batch is reset. -/
theorem cancelInLoop_progress (consistent : queue.Consistent place)
    (progress : before.Progress queue now cancelled) {timerId : ActiveTimer}
    (calling : queue.phase.isCalling = true) (created : timerId.timer ∈ queue.created)
    (sequence : timerId.sequence = timerId.timer.serial)
    (ran : queue.cancelInLoop timerId = .ok next) :
    before.Progress next now (cancelled ++ [timerId.sequence]) := by
  have represents := consistent.represents
  have identifier : timerId = ⟨timerId.timer, timerId.timer.serial⟩ := by rw [← sequence]
  have flag := consistent.callingExpiredTimers calling
  rcases cancelInLoop_ok represents timerId with ⟨found, foundRan, same, timers, outcome⟩
  cases foundRan.symm.trans ran
  refine ⟨same.called progress.toCalled, ⟨[], ?_, by simp⟩, ?_, ?_, ?_, ?_⟩
  · rw [same.batch]
    exact progress.calling calling
  · rw [same.batch]
    intro entry member
    rw [cancelInLoop_live consistent ran member]
    exact progress.waiting entry member
  · rw [same.batch]
    intro entry member
    rw [List.mem_append, List.mem_singleton, not_or, ← progress.canceling entry member]
    have expired := (represents.live_of_mem_batch member).1
    rcases outcome with ⟨active, isActive, keyed, canceling, _⟩ | ⟨_, canceling, _⟩
    · -- A timer in the queue is not in the batch.
      have different : entry.timer.serial ≠ timerId.sequence := by
        intro equal
        have queued := ((represents.located _).activeTimers active rfl).mp isActive
        simp only [ActiveTimer.key, toLex_inj, Prod.mk.injEq] at keyed
        rw [equal, ← keyed.2, queued.2.1, queued.1] at expired
        cases expired
      rw [canceling, and_iff_left different]
    · rw [canceling, flag, if_pos rfl, OrderedSet.find_insert_eq_none]
      refine and_congr_right fun _ => not_congr ?_
      constructor
      · intro keyed
        simp only [ActiveTimer.key, toLex_inj, Prod.mk.injEq] at keyed
        exact keyed.2.symm
      · intro isEntry
        rw [identifier]
        exact represents.key_of_mem_batch created member (isEntry.trans sequence)
  · rw [timers.handed]
    exact progress.handed
  · intro serial outside
    rw [timers.handed, List.mem_append, List.mem_singleton, not_or, ← and_assoc,
      ← progress.outside serial outside, represents.ownedBy_iff]
    rcases outcome with ⟨_, _, _, _, freed⟩ | ⟨absent, _, kept⟩
    · rw [freed.ownedBy_iff]
      by_cases isCancelled : serial = timerId.sequence
      · rw [isCancelled, Function.update_self]
        simp [Owner.toPlace]
      · rw [Function.update_of_ne isCancelled]
        simp [isCancelled]
    · rw [kept.ownedBy_iff]
      rw [identifier] at absent
      have notQueued := represents.not_queued_of_absent created absent
      refine (and_iff_left_of_imp ?_).symm
      rintro queued rfl
      rw [sequence] at queued
      exact notQueued queued

/-! ## The steps of `handleRead` itself -/

theorem runCallback_progress (consistent : queue.Consistent place)
    (progress : before.Progress queue now cancelled) (toCall : queue.phase.toCall ≠ [])
    (ran : queue.runCallback = .ok next) : before.Progress next now cancelled := by
  rcases TimerPhase.exists_of_toCall_ne toCall with ⟨started, expired, entry, rest, phase⟩
  have batch := (runCallback_inversion ran).2
  have phased := consistent.phased
  simp only [Phased, phase] at phased
  cases (runCallback_ok consistent.represents phase phased.2).symm.trans ran
  refine progress.of_same ⟨?_, progress.reads, ?_, ?_⟩ batch rfl rfl rfl fun _ _ => rfl
  · have time := progress.time
    rwa [phase] at time
  · intro _
    rw [batch]
    exact progress.calling (by rw [phase]; rfl)
  · rcases progress.called with ⟨called, split, starts⟩
    rw [phase] at split
    refine ⟨called ++ [entry], ?_, ?_⟩
    · rw [List.append_assoc]
      exact split
    · rw [starts, progress.reads, List.map_append, List.append_assoc]
      rfl

theorem finishCallbacks_progress (progress : before.Progress queue now cancelled)
    (finished : queue.phase.isCalling = true ∧ queue.phase.toCall = []) :
    before.Progress queue.finishCallbacks now cancelled := by
  rcases TimerPhase.exists_of_isCalling finished.1 with ⟨started, expired, rest, phase⟩
  have batch := (finishCallbacks_fields queue).2
  have resetting : queue.finishCallbacks = { queue with
      callingExpiredTimers := false
      phase := .resetting started expired } := by
    rw [finishCallbacks, phase]
  rw [resetting] at batch ⊢
  refine progress.of_same ⟨?_, progress.reads, ?_, ?_⟩ batch rfl rfl rfl fun _ _ => rfl
  · have time := progress.time
    rwa [phase] at time
  · intro impossible
    cases impossible
  · have called := progress.called
    rwa [finished.2] at called

theorem finishReset_progress (progress : before.Progress queue now cancelled)
    (reset : queue.phase.isResetting = true ∧ queue.phase.toReset = []) {clock : Int}
    (ran : queue.finishReset clock = .ok next) : before.Progress next now cancelled := by
  rcases TimerPhase.exists_of_reset reset with ⟨started, phase⟩
  have fields := (finishReset_inversion ran).1
  have batch : next.batch = queue.batch := by
    rw [fields, TimerQueue.batch, TimerQueue.batch, phase]
  rw [fields] at batch ⊢
  refine progress.of_same ⟨?_, progress.reads, ?_, ?_⟩ batch rfl rfl rfl fun _ _ => rfl
  · intro started impossible
    cases impossible
  · intro impossible
    cases impossible
  · have called := progress.called
    rwa [phase] at called

/-- `reset` moves a timer of the batch to the queue if it repeats and its identifier is
not among the cancelled ones, and frees it otherwise. -/
theorem resetNext_moved (consistent : queue.Consistent place) {started : Int}
    {entry : Entry} {rest : List Entry}
    (phase : queue.phase = .resetting started (entry :: rest))
    (ran : queue.resetNext = .ok next) :
    ∃ timer target object, queue.live entry.timer.serial = some timer ∧
      next.Represents (Function.update place entry.timer.serial target) ∧
      next.live = Function.update queue.live entry.timer.serial object ∧
      (target = .queued ↔ timer.repeats = true ∧ queue.cancelingTimers.find
        (ActiveTimer.key ⟨entry.timer, entry.timer.serial⟩) = none) ∧
      (target = .queued → object = some (timer.restart started)) := by
  rcases resetNext_ok consistent.represents phase with
    ⟨found, foundRan, _, _, _, _, _, _, expired, outcome⟩
  cases foundRan.symm.trans ran
  rcases resetNext_inversion phase ran with
    ⟨timer, alive, ⟨repeats, absent, fields⟩ | ⟨ends, fields⟩⟩
  · rcases outcome with ⟨_, represents⟩ | represents
    · exact ⟨timer, .queued, some (timer.restart started), alive, represents, by rw [fields],
        iff_of_true rfl ⟨repeats, absent⟩, fun _ => rfl⟩
    · have freed := (represents.located entry.timer.serial).freed.mpr
        (Function.update_self ..)
      rw [fields] at freed
      have wasFreed := (consistent.represents.located _).freed.mp freed
      rw [expired] at wasFreed
      cases wasFreed
  · rcases outcome with ⟨_, represents⟩ | represents
    · have isLive := (represents.located entry.timer.serial).live.mpr
        (by rw [Function.update_self]; rfl)
      rw [fields] at isLive
      simp at isLive
    · refine ⟨timer, .freed, none, alive, represents, by rw [fields], ?_, by simp⟩
      refine iff_of_false (by simp) ?_
      rintro ⟨repeats, absent⟩
      exact ends repeats absent

/-- A timer that was put back is in the queue for its next expiration. -/
theorem rescheduled_of_moved {entry : Entry} {timer : Timer} {target : TimerPlace}
    {object : Option Timer} (wasLive : before.live entry.timer.serial = some timer)
    (represents : next.Represents (Function.update place entry.timer.serial target))
    (live : next.live = Function.update queue.live entry.timer.serial object)
    (again : target = .queued ↔ timer.repeats = true ∧ entry.timer.serial ∉ cancelled)
    (restarted : target = .queued → object = some (timer.restart now)) :
    before.Rescheduled next now cancelled entry timer := by
  refine ⟨wasLive, ?_, ?_⟩
  · rw [represents.ownedBy_iff, Function.update_self]
    exact again
  · intro found member isEntry
    have located := ((represents.located entry.timer.serial).timers found isEntry).mp member
    rw [Function.update_self, live, Function.update_self] at located
    rcases located with ⟨isQueued, timer, isTimer, _, expiration⟩
    rw [restarted isQueued] at isTimer
    cases isTimer
    rw [← expiration, Timer.restart, if_pos (again.mp isQueued).1]

theorem resetNext_progress {start : Nat → TimerPlace}
    (wasConsistent : before.Consistent start) (consistent : queue.Consistent place)
    (progress : before.Progress queue now cancelled) (toReset : queue.phase.toReset ≠ [])
    (ran : queue.resetNext = .ok next) : before.Progress next now cancelled := by
  rcases TimerPhase.exists_of_toReset_ne toReset with ⟨started, entry, rest, phase⟩
  have batch : queue.batch = entry :: rest := by rw [TimerQueue.batch, phase]
  obtain rfl : started = now := progress.time started (by rw [phase]; rfl)
  rcases resetNext_ok consistent.represents phase with
    ⟨found, foundRan, nextPhase, _, canceling, reads, starts, same, expired, _⟩
  cases foundRan.symm.trans ran
  have nextBatch : next.batch = rest := by rw [TimerQueue.batch, nextPhase]
  rcases resetNext_moved consistent phase ran with
    ⟨timer, target, object, alive, represents, live, again, restarted⟩
  have member : entry ∈ queue.batch := batch ▸ List.mem_cons_self
  rw [progress.canceling entry member] at again
  rcases progress.reset with ⟨done, split, rescheduled⟩
  rw [batch] at split
  have isDue : entry.timer.serial ∈ serials (before.expiredAt started) :=
    mem_serials.mpr ⟨entry, by rw [← split]; simp, rfl⟩
  have nodup : (serials (before.expiredAt started)).Nodup :=
    wasConsistent.represents.expiredAt_nodup
  rw [← split, serials, List.map_append, List.map_cons, List.nodup_middle, List.nodup_cons,
    ← List.map_append] at nodup
  have different : ∀ other ∈ done ++ rest, other.timer.serial ≠ entry.timer.serial :=
    fun other inside equal => nodup.1 (List.mem_map.mpr ⟨other, inside, equal⟩)
  have called : before.Called next started := by
    refine ⟨?_, reads.trans progress.reads, ?_, ?_⟩
    · rw [nextPhase]
      rintro _ ⟨rfl⟩
      rfl
    · rw [nextPhase]
      intro impossible
      cases impossible
    · have called := progress.called
      rw [phase] at called
      rwa [nextPhase, starts]
  refine ⟨called, ⟨done ++ [entry], ?_, ?_⟩, ?_, ?_, ?_, ?_⟩
  · rw [nextBatch, List.append_assoc]
    exact split
  · intro other inside
    rcases List.mem_append.mp inside with old | new
    · have notEntry := different other (List.mem_append_left _ old)
      rcases rescheduled other old with ⟨otherTimer, found⟩
      refine ⟨otherTimer, found.of_timers ?_⟩
      intro queued isOther
      rw [← isOther] at notEntry
      exact consistent.represents.timers_congr represents (Function.update_of_ne notEntry ..)
        (by rw [live, Function.update_of_ne notEntry])
    · rw [List.mem_singleton.mp new]
      exact ⟨timer, rescheduled_of_moved ((progress.waiting entry member).symm.trans alive)
        represents live again restarted⟩
  · rw [nextBatch]
    intro other inside
    have notEntry := different other (List.mem_append_right _ inside)
    rw [live, Function.update_of_ne notEntry]
    exact progress.waiting other (batch ▸ List.mem_cons_of_mem _ inside)
  · rw [nextBatch, canceling]
    intro other inside
    exact progress.canceling other (batch ▸ List.mem_cons_of_mem _ inside)
  · rw [same.handed]
    exact progress.handed
  · intro serial outside
    have notEntry : serial ≠ entry.timer.serial := fun equal => outside (equal ▸ isDue)
    rw [represents.ownedBy_iff, Function.update_of_ne notEntry,
      ← consistent.represents.ownedBy_iff, same.handed]
    exact progress.outside serial outside

end Ccnet.Net.TimerQueue
