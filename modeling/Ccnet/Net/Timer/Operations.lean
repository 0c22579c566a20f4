import Ccnet.Net.Timer.Lifecycle

/-! # The operations move timers between places

One lemma for each function of the source: from a queue that represents some
places it succeeds, and its result represents the places after the move. -/

namespace Ccnet.Net

theorem Entry.address_eq_of_key_eq {left right : Entry}
    (equal : left.key = right.key) : left.timer.address = right.timer.address := by
  simp only [Entry.key, toLex_inj, Prod.mk.injEq] at equal
  exact equal.2

theorem ActiveTimer.address_eq_of_key_eq {left right : ActiveTimer}
    (equal : left.key = right.key) : left.timer.address = right.timer.address := by
  simp only [ActiveTimer.key, toLex_inj, Prod.mk.injEq] at equal
  exact equal.1

namespace TimerQueue

variable {queue next : TimerQueue} {place : Nat → TimerPlace}

theorem deref_of_live {pointer : TimerPtr} {timer : Timer}
    (alive : queue.live pointer.serial = some timer) :
    queue.deref pointer = .ok timer := by
  simp [deref, alive]

theorem sequence_of_live {pointer : TimerPtr} {timer : Timer}
    (alive : queue.live pointer.serial = some timer) :
    queue.sequence pointer = .ok pointer.serial := by
  simp [sequence, deref_of_live alive]

theorem Represents.of_fields (represents : queue.Represents place)
    (live : next.live = queue.live) (created : next.created = queue.created)
    (timers : next.timers = queue.timers)
    (activeTimers : next.activeTimers = queue.activeTimers)
    (batch : next.batch = queue.batch) (freed : next.freed = queue.freed)
    (handed : next.handed = queue.handed) : next.Represents place where
  located serial := by
    refine (represents.located serial).congr ?_
    constructor <;> simp [live, created, timers, activeTimers, batch, freed, handed]
  unborn := by
    rw [created]
    exact represents.unborn
  address_lt := by
    rw [live]
    exact represents.address_lt
  address_injective := by
    rw [live]
    exact represents.address_injective
  exists_created := by
    rw [live, created]
    exact represents.exists_created
  sizes := by
    rw [timers, activeTimers]
    exact represents.sizes
  batch_nodup := by
    rw [batch]
    exact represents.batch_nodup
  freed_nodup := by
    rw [freed]
    exact represents.freed_nodup
  handed_nodup := by
    rw [handed]
    exact represents.handed_nodup

/-! ## Insertion -/

section Insert

variable {pointer : TimerPtr} {timer : Timer}

theorem timers_absent
    (timersFree : ∀ entry ∈ queue.timers, entry.timer.address ≠ pointer.address)
    (expiration : Int) :
    ∀ entry ∈ queue.timers, entry.key ≠ Entry.key ⟨expiration, pointer⟩ := by
  intro entry member equal
  exact timersFree entry member (Entry.address_eq_of_key_eq equal)

theorem activeTimers_absent
    (activeFree : ∀ active ∈ queue.activeTimers, active.timer.address ≠ pointer.address)
    (sequence : Nat) :
    ∀ active ∈ queue.activeTimers, active.key ≠ ActiveTimer.key ⟨pointer, sequence⟩ := by
  intro active member equal
  exact activeFree active member (ActiveTimer.address_eq_of_key_eq equal)

theorem insert_ok (sizes : queue.timers.size = queue.activeTimers.size)
    (alive : queue.live pointer.serial = some timer)
    (timersFree : ∀ entry ∈ queue.timers, entry.timer.address ≠ pointer.address)
    (activeFree : ∀ active ∈ queue.activeTimers,
      active.timer.address ≠ pointer.address) :
    ∃ earliestChanged, queue.insert pointer = .ok (earliestChanged, { queue with
      timers := (queue.timers.insert ⟨timer.expiration, pointer⟩).1
      activeTimers := (queue.activeTimers.insert ⟨pointer, pointer.serial⟩).1 }) := by
  have timersAbsent := timers_absent timersFree timer.expiration
  have activeAbsent := activeTimers_absent activeFree pointer.serial
  have grownSizes :
      (queue.timers.insert ⟨timer.expiration, pointer⟩).1.size =
        (queue.activeTimers.insert ⟨pointer, pointer.serial⟩).1.size := by
    rw [OrderedSet.size_insert_of_absent timersAbsent,
      OrderedSet.size_insert_of_absent activeAbsent, sizes]
  unfold insert
  rw [Checked.check_bind_of sizes, deref_of_live alive]
  simp only [Checked.ok_bind]
  rw [Checked.check_bind_of (OrderedSet.insert_of_absent timersAbsent),
    sequence_of_live alive]
  simp only [Checked.ok_bind]
  rw [Checked.check_bind_of (OrderedSet.insert_of_absent activeAbsent),
    Checked.check_bind_of grownSizes]
  exact ⟨_, rfl⟩

/-- What entering the queue does to the fields, with the timer as it is from now on. -/
structure Enqueues (queue next : TimerQueue) (pointer : TimerPtr) (timer : Timer) : Prop where
  live : next.live = Function.update queue.live pointer.serial (some timer)
  created : next.created = queue.created
  timers : next.timers = (queue.timers.insert ⟨timer.expiration, pointer⟩).1
  activeTimers : next.activeTimers = (queue.activeTimers.insert ⟨pointer, pointer.serial⟩).1
  batch : ∀ entry, entry ∈ next.batch ↔
    entry.timer.serial ≠ pointer.serial ∧ entry ∈ queue.batch
  freed : next.freed = queue.freed
  handed : ∀ serial, serial ∈ next.handed ↔ serial = pointer.serial ∨ serial ∈ queue.handed

namespace Enqueues

theorem alive (enqueues : queue.Enqueues next pointer timer) :
    next.live pointer.serial = some timer := by
  rw [enqueues.live, Function.update_self]

theorem mem_timers (enqueues : queue.Enqueues next pointer timer)
    (timersFree : ∀ entry ∈ queue.timers, entry.timer.address ≠ pointer.address) (entry : Entry) :
    entry ∈ next.timers ↔ entry = ⟨timer.expiration, pointer⟩ ∨ entry ∈ queue.timers := by
  rw [enqueues.timers, OrderedSet.mem_insert_of_absent (timers_absent timersFree _)]

theorem mem_activeTimers (enqueues : queue.Enqueues next pointer timer)
    (activeFree : ∀ active ∈ queue.activeTimers, active.timer.address ≠ pointer.address)
    (active : ActiveTimer) :
    active ∈ next.activeTimers ↔
      active = ⟨pointer, pointer.serial⟩ ∨ active ∈ queue.activeTimers := by
  rw [enqueues.activeTimers, OrderedSet.mem_insert_of_absent (activeTimers_absent activeFree _)]

/-- The entry in `timers_` is the timer's. -/
theorem timer_iff (enqueues : queue.Enqueues next pointer timer)
    (address : timer.address = pointer.address) {entry : Entry}
    (same : entry.timer.serial = pointer.serial) :
    entry = ⟨timer.expiration, pointer⟩ ↔ ∃ found, next.live pointer.serial = some found ∧
      found.address = entry.timer.address ∧ found.expiration = entry.expiration := by
  constructor
  · rintro rfl
    exact ⟨timer, enqueues.alive, address, rfl⟩
  · rintro ⟨found, foundAlive, foundAddress, foundExpiration⟩
    rw [enqueues.alive, Option.some.injEq] at foundAlive
    subst foundAlive
    rcases entry with ⟨expiration, ⟨entryAddress, entrySerial⟩⟩
    rcases pointer with ⟨pointerAddress, pointerSerial⟩
    simp only at same foundAddress foundExpiration address ⊢
    rw [same, ← foundAddress, ← foundExpiration, address]

/-- So is that in `activeTimers_`. -/
theorem activeTimer_iff (enqueues : queue.Enqueues next pointer timer)
    (address : timer.address = pointer.address) {active : ActiveTimer}
    (same : active.timer.serial = pointer.serial) :
    active = ⟨pointer, pointer.serial⟩ ↔ active.sequence = pointer.serial ∧
      ∃ found, next.live pointer.serial = some found ∧
        found.address = active.timer.address := by
  constructor
  · rintro rfl
    exact ⟨rfl, timer, enqueues.alive, address⟩
  · rintro ⟨sequence, found, foundAlive, foundAddress⟩
    rw [enqueues.alive, Option.some.injEq] at foundAlive
    subst foundAlive
    rcases active with ⟨⟨activeAddress, activeSerial⟩, activeSequence⟩
    rcases pointer with ⟨pointerAddress, pointerSerial⟩
    simp only at same foundAddress sequence address ⊢
    rw [same, sequence, ← foundAddress, address]

/-- The other timers stay where they are. -/
theorem agreesAt (enqueues : queue.Enqueues next pointer timer)
    (timersFree : ∀ entry ∈ queue.timers, entry.timer.address ≠ pointer.address)
    (activeFree : ∀ active ∈ queue.activeTimers, active.timer.address ≠ pointer.address)
    {other : Nat} (different : other ≠ pointer.serial) : queue.AgreesAt next other where
  live := by rw [enqueues.live, Function.update_of_ne different]
  created _ _ := by rw [enqueues.created]
  timers entry same := by
    rw [enqueues.mem_timers timersFree]
    apply or_iff_right
    rintro rfl
    exact different same.symm
  activeTimers active same := by
    rw [enqueues.mem_activeTimers activeFree]
    apply or_iff_right
    rintro rfl
    exact different same.symm
  batch entry same := by
    rw [enqueues.batch, same]
    exact ⟨And.right, fun member => ⟨different, member⟩⟩
  freed := by rw [enqueues.freed]
  handed := by
    rw [enqueues.handed]
    simp [different]

/-- The timer itself is in the queue. -/
theorem located {before : Timer} {origin : TimerPlace}
    (enqueues : queue.Enqueues next pointer timer) (old : queue.At pointer.serial origin)
    (alive : queue.live pointer.serial = some before)
    (beforeAddress : before.address = pointer.address) (elsewhere : origin ≠ .queued)
    (address : timer.address = pointer.address)
    (timersFree : ∀ entry ∈ queue.timers, entry.timer.address ≠ pointer.address)
    (activeFree : ∀ active ∈ queue.activeTimers, active.timer.address ≠ pointer.address) :
    next.At pointer.serial .queued where
  live := by simp [enqueues.alive, TimerPlace.isLive]
  created other member same := by
    rw [enqueues.created] at member
    refine ⟨by simp, ?_⟩
    intro found foundAlive
    rw [enqueues.alive, Option.some.injEq] at foundAlive
    rw [← foundAlive, address, ← beforeAddress]
    exact (old.created other member same).2 before alive
  timers entry same := by
    rw [enqueues.mem_timers timersFree,
      or_iff_left fun member => elsewhere ((old.timers entry same).mp member).1,
      enqueues.timer_iff address same]
    simp
  activeTimers active same := by
    rw [enqueues.mem_activeTimers activeFree,
      or_iff_left fun member => elsewhere ((old.activeTimers active same).mp member).1,
      enqueues.activeTimer_iff address same]
    simp
  batch := by
    simp only [reduceCtorEq, iff_false, not_exists, not_and]
    intro entry member same
    exact ((enqueues.batch entry).mp member).1 same
  batch_address entry member same := absurd same ((enqueues.batch entry).mp member).1
  freed := by
    have notFreed : pointer.serial ∉ queue.freed := by
      intro member
      have isLive := old.live.mp ⟨before, alive⟩
      simp [old.freed.mp member, TimerPlace.isLive] at isLive
    rw [enqueues.freed]
    simpa using notFreed
  handed := by simp [enqueues.handed]

end Enqueues

/-- The timer enters the queue, from outside or from the batch. -/
theorem Represents.enqueue (represents : queue.Represents place) {before : Timer}
    (alive : queue.live pointer.serial = some before)
    (beforeAddress : before.address = pointer.address)
    (elsewhere : place pointer.serial ≠ .queued)
    (address : timer.address = pointer.address)
    (enqueues : queue.Enqueues next pointer timer)
    (batch_nodup : (next.batch.map fun entry => entry.timer.serial).Nodup)
    (handed_nodup : next.handed.Nodup) :
    next.Represents (Function.update place pointer.serial .queued) := by
  rcases represents.address_free alive beforeAddress elsewhere with
    ⟨timersFree, activeFree⟩
  have old := represents.located pointer.serial
  have born : place pointer.serial ≠ .unborn := by
    intro unborn
    have isLive := old.live.mp ⟨before, alive⟩
    simp [unborn, TimerPlace.isLive] at isLive
  refine represents.move
    (enqueues.located old alive beforeAddress elsewhere address timersFree activeFree)
    (fun other different => enqueues.agreesAt timersFree activeFree different)
    enqueues.created (represents.serial_le born) ?_ ?_
    batch_nodup (by rw [enqueues.freed]; exact represents.freed_nodup) handed_nodup
  · intro found foundAlive
    rw [enqueues.alive, Option.some.injEq] at foundAlive
    exact ⟨before, alive, by rw [← foundAlive, beforeAddress, address]⟩
  · rw [enqueues.timers, enqueues.activeTimers,
      OrderedSet.size_insert_of_absent (timers_absent timersFree _),
      OrderedSet.size_insert_of_absent (activeTimers_absent activeFree _), represents.sizes]

end Insert

/-- The timer is freed, out of the queue or out of the batch. -/
theorem Represents.release (represents : queue.Represents place)
    {serial : Nat} (from_ : place serial = .queued ∨ place serial = .expired)
    (live : next.live = Function.update queue.live serial none)
    (created : next.created = queue.created)
    (timers : ∀ entry, entry ∈ next.timers ↔
      entry.timer.serial ≠ serial ∧ entry ∈ queue.timers)
    (activeTimers : ∀ active, active ∈ next.activeTimers ↔
      active.timer.serial ≠ serial ∧ active ∈ queue.activeTimers)
    (sizes : next.timers.size = next.activeTimers.size)
    (batch : ∀ entry, entry ∈ next.batch ↔
      entry.timer.serial ≠ serial ∧ entry ∈ queue.batch)
    (batch_nodup : (next.batch.map fun entry => entry.timer.serial).Nodup)
    (freed : next.freed = queue.freed ++ [serial])
    (handed : next.handed = queue.handed) :
    next.Represents (Function.update place serial .freed) := by
  have old := represents.located serial
  have born : place serial ≠ .unborn := by
    rcases from_ with queued | expired
    · simp [queued]
    · simp [expired]
  have wasHanded : serial ∈ queue.handed := by
    rw [old.handed]
    rcases from_ with queued | expired
    · exact .inl queued
    · exact .inr (.inl expired)
  have notFreed : serial ∉ queue.freed := by
    rw [old.freed]
    rcases from_ with queued | expired
    · simp [queued]
    · simp [expired]
  have dead : next.live serial = none := by
    rw [live, Function.update_self]
  refine represents.move ?_ ?_ created (represents.serial_le born) ?_ sizes
    batch_nodup ?_ (by rw [handed]; exact represents.handed_nodup)
  · constructor
    · simp [dead, TimerPlace.isLive]
    · intro pointer _ _
      refine ⟨by simp, ?_⟩
      simp [dead]
    · intro entry same
      simp [timers, same]
    · intro active same
      simp [activeTimers, same]
    · simp only [reduceCtorEq, iff_false, not_exists, not_and]
      intro entry member same
      exact ((batch entry).mp member).1 same
    · intro entry member same
      exact absurd same ((batch entry).mp member).1
    · simp [freed]
    · simp [handed, wasHanded]
  · intro other different
    constructor
    · rw [live, Function.update_of_ne different]
    · intro _ _
      rw [created]
    · intro entry same
      rw [timers, same]
      exact ⟨And.right, fun member => ⟨different, member⟩⟩
    · intro active same
      rw [activeTimers, same]
      exact ⟨And.right, fun member => ⟨different, member⟩⟩
    · intro entry same
      rw [batch, same]
      exact ⟨And.right, fun member => ⟨different, member⟩⟩
    · rw [freed]
      simp [different]
    · rw [handed]
  · simp [dead]
  · rw [freed]
    refine List.nodup_append.mpr ⟨represents.freed_nodup, by simp, ?_⟩
    intro left leftMember right rightMember equal
    rw [List.mem_singleton] at rightMember
    rw [equal, rightMember] at leftMember
    exact notFreed leftMember

/-! ## Adding and cancelling -/

/-- What adding and cancelling leave alone: the progress of `handleRead` and
the callbacks started. -/
structure SameCalls (queue next : TimerQueue) : Prop where
  phase : next.phase = queue.phase
  calling : next.callingExpiredTimers = queue.callingExpiredTimers
  reads : next.reads = queue.reads
  starts : next.starts = queue.starts

/-- The same timers exist and the same have been handed to the queue. -/
structure SameTimers (queue next : TimerQueue) : Prop where
  created : next.created = queue.created
  handed : next.handed = queue.handed

theorem SameCalls.batch (same : queue.SameCalls next) : next.batch = queue.batch := by
  unfold TimerQueue.batch
  rw [same.phase]

theorem addTimerInLoop_ok (represents : queue.Represents place)
    {pointer : TimerPtr} (created : pointer ∈ queue.created)
    (notHanded : pointer.serial ∉ queue.handed) (clock : Int) :
    ∃ next, queue.addTimerInLoop pointer clock = .ok next ∧
      next.Represents (Function.update place pointer.serial .queued) ∧
      queue.SameCalls next ∧ next.created = queue.created ∧
      next.handed = queue.handed ++ [pointer.serial] ∧
      next.cancelingTimers = queue.cancelingTimers ∧
      place pointer.serial = .fresh := by
  have old := represents.located pointer.serial
  rcases old.created pointer created rfl with ⟨born, addresses⟩
  have fresh : place pointer.serial = .fresh := by
    rw [old.handed] at notHanded
    cases found : place pointer.serial <;> simp_all
  have isLive : (place pointer.serial).isLive = true := by
    simp [fresh, TimerPlace.isLive]
  rcases represents.exists_live isLive with ⟨timer, alive⟩
  have address := addresses timer alive
  rcases represents.address_free alive address (by simp [fresh]) with
    ⟨timersFree, activeFree⟩
  let handedQueue : TimerQueue :=
    { queue with handed := queue.handed ++ [pointer.serial] }
  have handedAlive : handedQueue.live pointer.serial = some timer := alive
  have handedSizes : handedQueue.timers.size = handedQueue.activeTimers.size :=
    represents.sizes
  rcases insert_ok handedSizes handedAlive timersFree activeFree with
    ⟨earliestChanged, inserted⟩
  have moved : TimerQueue.Represents { handedQueue with
      timers := (handedQueue.timers.insert ⟨timer.expiration, pointer⟩).1
      activeTimers := (handedQueue.activeTimers.insert ⟨pointer, pointer.serial⟩).1 }
      (Function.update place pointer.serial .queued) := by
    refine represents.enqueue alive address (by simp [fresh]) address
      ⟨(Function.update_eq_self_iff.mpr alive.symm).symm, rfl, rfl, rfl, ?_, rfl, ?_⟩
      represents.batch_nodup ?_
    · intro entry
      constructor
      · intro member
        refine ⟨?_, member⟩
        intro same
        have expired := old.batch.mp ⟨entry, member, same⟩
        rw [fresh] at expired
        cases expired
      · exact And.right
    · intro serial
      simp [handedQueue, or_comm]
    · refine List.nodup_append.mpr ⟨represents.handed_nodup, by simp, ?_⟩
      intro left leftMember right rightMember equal
      rw [List.mem_singleton] at rightMember
      rw [equal, rightMember] at leftMember
      exact notHanded leftMember
  unfold addTimerInLoop
  change ∃ next, (handedQueue.insert pointer >>= _) = _ ∧ _
  rw [inserted]
  simp only [Checked.ok_bind]
  split
  · simp only [deref, handedAlive, Checked.ok_bind]
    exact ⟨_, rfl, moved.of_fields rfl rfl rfl rfl rfl rfl rfl,
      ⟨rfl, rfl, rfl, rfl⟩, rfl, rfl, rfl, fresh⟩
  · exact ⟨_, rfl, moved, ⟨rfl, rfl, rfl, rfl⟩, rfl, rfl, rfl, fresh⟩

/-- A queued timer is freed; the identifier of any other timer is only
remembered, and only while callbacks run. -/
theorem cancelInLoop_ok (represents : queue.Represents place)
    (timerId : ActiveTimer) :
    ∃ next, queue.cancelInLoop timerId = .ok next ∧ queue.SameCalls next ∧
      queue.SameTimers next ∧
      ((∃ found ∈ queue.activeTimers, found.key = timerId.key ∧
          next.cancelingTimers = queue.cancelingTimers ∧
          next.Represents (Function.update place timerId.sequence .freed)) ∨
        (∀ active ∈ queue.activeTimers, active.key ≠ timerId.key) ∧
          next.cancelingTimers = (if queue.callingExpiredTimers then
            (queue.cancelingTimers.insert timerId).1 else queue.cancelingTimers) ∧
          next.Represents place) := by
  unfold cancelInLoop
  rw [Checked.check_bind_of represents.sizes]
  cases search : queue.activeTimers.find timerId.key with
  | none =>
      simp only
      have absent := OrderedSet.find_eq_none_iff.mp search
      cases calling : queue.callingExpiredTimers with
      | false =>
          simp only [Bool.false_eq_true, if_false]
          rw [Checked.check_bind_of represents.sizes]
          exact ⟨queue, rfl, ⟨rfl, rfl, rfl, rfl⟩, ⟨rfl, rfl⟩,
            .inr ⟨absent, rfl, represents⟩⟩
      | true =>
          simp only [if_true]
          rw [Checked.check_bind_of represents.sizes]
          exact ⟨_, rfl, ⟨rfl, calling.symm, rfl, rfl⟩, ⟨rfl, rfl⟩,
            .inr ⟨absent, rfl, represents.of_fields rfl rfl rfl rfl rfl rfl rfl⟩⟩
  | some found =>
      simp only
      rcases OrderedSet.find_eq_some_iff.mp search with ⟨member, keyed⟩
      have old := represents.located found.timer.serial
      rcases (old.activeTimers found rfl).mp member with
        ⟨queued, sequence, timer, alive, address⟩
      have serial : found.timer.serial = timerId.sequence := by
        simp only [ActiveTimer.key, toLex_inj, Prod.mk.injEq] at keyed
        rw [← sequence, keyed.2]
      have entryMember : Entry.mk timer.expiration found.timer ∈ queue.timers :=
        (old.timers _ rfl).mpr ⟨queued, timer, alive, address, rfl⟩
      have erasedOne := OrderedSet.erase_count_of_mem entryMember
      have activeErasedOne := OrderedSet.erase_count_of_mem member
      have timersSize := OrderedSet.size_erase_add_count queue.timers
        (Entry.key ⟨timer.expiration, found.timer⟩)
      have activeSize := OrderedSet.size_erase_add_count queue.activeTimers found.key
      have sizes : (queue.timers.erase (Entry.key ⟨timer.expiration, found.timer⟩)).2.size =
          (queue.activeTimers.erase found.key).2.size := by
        have equal := represents.sizes
        omega
      rw [deref_of_live alive]
      simp only [Checked.ok_bind]
      rw [Checked.check_bind_of erasedOne]
      simp only [delete, deref, alive, Checked.ok_bind, pure_bind]
      rw [Checked.check_bind_of sizes]
      refine ⟨_, rfl, ⟨rfl, rfl, rfl, rfl⟩, ⟨rfl, rfl⟩,
        .inl ⟨found, member, keyed, rfl, ?_⟩⟩
      rw [← serial]
      refine represents.release (.inl queued) rfl rfl ?_ ?_ sizes ?_
        represents.batch_nodup rfl rfl
      · intro entry
        rw [OrderedSet.mem_erase_key entryMember]
        refine and_congr_left fun entryIn => not_congr ?_
        exact ⟨fun equal => by rw [equal], represents.timers_unique entryIn entryMember⟩
      · intro active
        rw [OrderedSet.mem_erase_key member]
        refine and_congr_left fun activeIn => not_congr ?_
        exact ⟨fun equal => by rw [equal], represents.activeTimers_unique activeIn member⟩
      · intro entry
        constructor
        · intro inBatch
          refine ⟨?_, inBatch⟩
          intro same
          have expired := old.batch.mp ⟨entry, inBatch, same⟩
          rw [queued] at expired
          cases expired
        · exact And.right

end TimerQueue

end Ccnet.Net
