import Ccnet.Net.Timer.TimerQueue

/-! # The life of a timer

Every `Timer` object goes through a few places: created, then waiting in the
queue, then taken out by a `handleRead`, which puts it back or frees it. The
two sets, the batch and the live objects all follow from the places. -/

namespace Ccnet.Net

inductive TimerPlace
  | unborn
  | fresh
  | queued
  | expired
  | freed
  deriving DecidableEq, Repr

def TimerPlace.isLive : TimerPlace → Bool
  | .fresh | .queued | .expired => true
  | .unborn | .freed => false

namespace TimerQueue

/-- What the queue's fields say about one timer, given by its serial number. -/
structure At (queue : TimerQueue) (serial : Nat) (place : TimerPlace) : Prop where
  live : (∃ timer, queue.live serial = some timer) ↔ place.isLive = true
  created : ∀ pointer ∈ queue.created, pointer.serial = serial → place ≠ .unborn ∧
    ∀ timer, queue.live serial = some timer → timer.address = pointer.address
  timers : ∀ entry : Entry, entry.timer.serial = serial →
    (entry ∈ queue.timers ↔ place = .queued ∧
      ∃ timer, queue.live serial = some timer ∧
        timer.address = entry.timer.address ∧ timer.expiration = entry.expiration)
  activeTimers : ∀ active : ActiveTimer, active.timer.serial = serial →
    (active ∈ queue.activeTimers ↔ place = .queued ∧ active.sequence = serial ∧
      ∃ timer, queue.live serial = some timer ∧ timer.address = active.timer.address)
  batch : (∃ entry ∈ queue.batch, entry.timer.serial = serial) ↔ place = .expired
  batch_address : ∀ entry ∈ queue.batch, entry.timer.serial = serial →
    ∀ timer, queue.live serial = some timer → timer.address = entry.timer.address
  freed : serial ∈ queue.freed ↔ place = .freed
  handed : serial ∈ queue.handed ↔
    place = .queued ∨ place = .expired ∨ place = .freed

/-- The queue's fields are exactly what the places of the timers require. -/
structure Represents (queue : TimerQueue) (place : Nat → TimerPlace) : Prop where
  located : ∀ serial, queue.At serial (place serial)
  unborn : ∀ serial, queue.created.length < serial → place serial = .unborn
  address_lt : ∀ serial timer, queue.live serial = some timer →
    timer.address < uintptrMax
  address_injective : ∀ left right leftTimer rightTimer,
    queue.live left = some leftTimer → queue.live right = some rightTimer →
    leftTimer.address = rightTimer.address → left = right
  exists_created : ∀ serial timer, queue.live serial = some timer →
    ∃ pointer ∈ queue.created, pointer.serial = serial
  sizes : queue.timers.size = queue.activeTimers.size
  batch_nodup : (queue.batch.map fun entry => entry.timer.serial).Nodup
  freed_nodup : queue.freed.Nodup
  handed_nodup : queue.handed.Nodup

theorem create_represents : create.Represents fun _ => .unborn where
  located serial := {
    live := by simp [create, TimerPlace.isLive]
    created := by simp [create]
    timers := by simp [create]
    activeTimers := by simp [create]
    batch := by simp [create, TimerQueue.batch]
    batch_address := by simp [create, TimerQueue.batch]
    freed := by simp [create]
    handed := by simp [create] }
  unborn := by simp
  address_lt := by simp [create]
  address_injective := by simp [create]
  exists_created := by simp [create]
  sizes := rfl
  batch_nodup := by simp [create, TimerQueue.batch]
  freed_nodup := by simp [create]
  handed_nodup := by simp [create]

/-- Two queues say the same about one timer. -/
structure AgreesAt (queue next : TimerQueue) (serial : Nat) : Prop where
  live : next.live serial = queue.live serial
  created : ∀ pointer : TimerPtr, pointer.serial = serial →
    (pointer ∈ next.created ↔ pointer ∈ queue.created)
  timers : ∀ entry : Entry, entry.timer.serial = serial →
    (entry ∈ next.timers ↔ entry ∈ queue.timers)
  activeTimers : ∀ active : ActiveTimer, active.timer.serial = serial →
    (active ∈ next.activeTimers ↔ active ∈ queue.activeTimers)
  batch : ∀ entry : Entry, entry.timer.serial = serial →
    (entry ∈ next.batch ↔ entry ∈ queue.batch)
  freed : serial ∈ next.freed ↔ serial ∈ queue.freed
  handed : serial ∈ next.handed ↔ serial ∈ queue.handed

theorem At.congr {queue next : TimerQueue} {serial : Nat} {place : TimerPlace}
    (located : queue.At serial place) (agrees : queue.AgreesAt next serial) :
    next.At serial place where
  live := by
    rw [agrees.live]
    exact located.live
  created pointer member same := by
    rw [agrees.live]
    exact located.created pointer ((agrees.created pointer same).mp member) same
  timers entry same := by
    rw [agrees.live, agrees.timers entry same]
    exact located.timers entry same
  activeTimers active same := by
    rw [agrees.live, agrees.activeTimers active same]
    exact located.activeTimers active same
  batch := by
    rw [← located.batch]
    constructor
    · rintro ⟨entry, member, same⟩
      exact ⟨entry, (agrees.batch entry same).mp member, same⟩
    · rintro ⟨entry, member, same⟩
      exact ⟨entry, (agrees.batch entry same).mpr member, same⟩
  batch_address entry member same := by
    rw [agrees.live]
    exact located.batch_address entry ((agrees.batch entry same).mp member) same
  freed := agrees.freed.trans located.freed
  handed := agrees.handed.trans located.handed

namespace Represents

variable {queue next : TimerQueue} {place : Nat → TimerPlace}

theorem exists_live (represents : queue.Represents place) {serial : Nat}
    (isLive : (place serial).isLive = true) :
    ∃ timer, queue.live serial = some timer :=
  (represents.located serial).live.mpr isLive

/-- One timer moves to another place and the fields change accordingly. -/
theorem move (represents : queue.Represents place) {serial : Nat}
    {target : TimerPlace} (located : next.At serial target)
    (others : ∀ other, other ≠ serial → queue.AgreesAt next other)
    (created : next.created = queue.created)
    (bounded : serial ≤ queue.created.length)
    (address : ∀ timer, next.live serial = some timer →
      ∃ before, queue.live serial = some before ∧ before.address = timer.address)
    (sizes : next.timers.size = next.activeTimers.size)
    (batch_nodup : (next.batch.map fun entry => entry.timer.serial).Nodup)
    (freed_nodup : next.freed.Nodup) (handed_nodup : next.handed.Nodup) :
    next.Represents (Function.update place serial target) := by
  have before : ∀ other timer, next.live other = some timer →
      ∃ old, queue.live other = some old ∧ old.address = timer.address := by
    intro other timer alive
    by_cases same : other = serial
    · subst same
      exact address timer alive
    · rw [(others other same).live] at alive
      exact ⟨timer, alive, rfl⟩
  constructor
  · intro other
    by_cases same : other = serial
    · subst same
      simpa using located
    · rw [Function.update_of_ne same]
      exact (represents.located other).congr (others other same)
  · intro other beyond
    rw [created] at beyond
    rw [Function.update_of_ne (by omega)]
    exact represents.unborn other beyond
  · intro other timer alive
    rcases before other timer alive with ⟨old, oldAlive, same⟩
    rw [← same]
    exact represents.address_lt other old oldAlive
  · intro left right leftTimer rightTimer leftAlive rightAlive same
    rcases before left leftTimer leftAlive with ⟨leftOld, leftOldAlive, leftSame⟩
    rcases before right rightTimer rightAlive with ⟨rightOld, rightOldAlive, rightSame⟩
    exact represents.address_injective left right leftOld rightOld leftOldAlive
      rightOldAlive (by rw [leftSame, rightSame, same])
  · intro other timer alive
    rcases before other timer alive with ⟨old, oldAlive, _⟩
    rw [created]
    exact represents.exists_created other old oldAlive
  · exact sizes
  · exact batch_nodup
  · exact freed_nodup
  · exact handed_nodup

/-- A live timer that is not queued has its address to itself. -/
theorem address_free (represents : queue.Represents place)
    {pointer : TimerPtr} {timer : Timer}
    (alive : queue.live pointer.serial = some timer)
    (address : timer.address = pointer.address)
    (elsewhere : place pointer.serial ≠ .queued) :
    (∀ entry ∈ queue.timers, entry.timer.address ≠ pointer.address) ∧
    ∀ active ∈ queue.activeTimers, active.timer.address ≠ pointer.address := by
  constructor
  · intro entry member same
    rcases ((represents.located _).timers entry rfl).mp member with
      ⟨queued, other, otherAlive, otherAddress, _⟩
    have equal := represents.address_injective _ _ _ _ otherAlive alive
      (by rw [otherAddress, same, address])
    rw [equal] at queued
    exact elsewhere queued
  · intro active member same
    rcases ((represents.located _).activeTimers active rfl).mp member with
      ⟨queued, _, other, otherAlive, otherAddress⟩
    have equal := represents.address_injective _ _ _ _ otherAlive alive
      (by rw [otherAddress, same, address])
    rw [equal] at queued
    exact elsewhere queued

/-- A timer stands in each of the two sets once. -/
theorem timers_unique (represents : queue.Represents place) {left right : Entry}
    (leftMember : left ∈ queue.timers) (rightMember : right ∈ queue.timers)
    (same : left.timer.serial = right.timer.serial) : left = right := by
  rcases ((represents.located _).timers left same).mp leftMember with
    ⟨_, timer, alive, leftAddress, leftExpiration⟩
  rcases ((represents.located _).timers right rfl).mp rightMember with
    ⟨_, other, otherAlive, rightAddress, rightExpiration⟩
  rw [alive, Option.some.injEq] at otherAlive
  subst otherAlive
  rcases left with ⟨leftTime, ⟨leftPointer, leftSerial⟩⟩
  rcases right with ⟨rightTime, ⟨rightPointer, rightSerial⟩⟩
  simp only at same leftAddress leftExpiration rightAddress rightExpiration
  rw [← leftExpiration, ← leftAddress, ← rightExpiration, ← rightAddress, same]

theorem activeTimers_unique (represents : queue.Represents place)
    {left right : ActiveTimer} (leftMember : left ∈ queue.activeTimers)
    (rightMember : right ∈ queue.activeTimers)
    (same : left.timer.serial = right.timer.serial) : left = right := by
  rcases ((represents.located _).activeTimers left same).mp leftMember with
    ⟨_, leftSequence, timer, alive, leftAddress⟩
  rcases ((represents.located _).activeTimers right rfl).mp rightMember with
    ⟨_, rightSequence, other, otherAlive, rightAddress⟩
  rw [alive, Option.some.injEq] at otherAlive
  subst otherAlive
  rcases left with ⟨⟨leftPointer, leftSerial⟩, leftNumber⟩
  rcases right with ⟨⟨rightPointer, rightSerial⟩, rightNumber⟩
  simp only at same leftSequence leftAddress rightSequence rightAddress
  rw [leftSequence, ← leftAddress, rightSequence, ← rightAddress, same]

theorem serial_le (represents : queue.Represents place) {serial : Nat}
    (born : place serial ≠ .unborn) : serial ≤ queue.created.length := by
  by_contra beyond
  exact born (represents.unborn serial (by omega))

end Represents

/-! ## Creating and deleting objects -/

theorem newTimer_live_self (queue : TimerQueue) (timer : Timer) :
    (queue.newTimer timer).2.live (queue.created.length + 1) = some timer :=
  Function.update_self _ _ _

theorem newTimer_live_of_ne (queue : TimerQueue) (timer : Timer) {serial : Nat}
    (different : serial ≠ queue.created.length + 1) :
    (queue.newTimer timer).2.live serial = queue.live serial :=
  Function.update_of_ne different _ _

/-- What was nowhere is now a fresh timer. -/
theorem At.newTimer {queue : TimerQueue} (timer : Timer)
    (located : queue.At (queue.created.length + 1) .unborn) :
    (queue.newTimer timer).2.At (queue.created.length + 1) .fresh := by
  have alive := queue.newTimer_live_self timer
  refine ⟨by simp [alive, TimerPlace.isLive], ?_, ?_, ?_, ?_, ?_, ?_, ?_⟩
  · intro pointer member pointerSerial
    refine ⟨by simp, ?_⟩
    intro found foundAlive
    rw [alive, Option.some.injEq] at foundAlive
    subst foundAlive
    rcases List.mem_append.mp member with old | new
    · exact absurd rfl (located.created pointer old pointerSerial).1
    · rw [List.mem_singleton] at new
      rw [new]
  · intro entry entrySerial
    have absent := (located.timers entry entrySerial).mp
    simpa [TimerQueue.newTimer] using absent
  · intro active activeSerial
    have absent := (located.activeTimers active activeSerial).mp
    simpa [TimerQueue.newTimer] using absent
  · simpa [TimerQueue.newTimer, TimerQueue.batch] using located.batch
  · intro entry member entrySerial
    have impossible := located.batch.mp ⟨entry, member, entrySerial⟩
    cases impossible
  · simpa [TimerQueue.newTimer] using located.freed
  · simpa [TimerQueue.newTimer] using located.handed

theorem newTimer_represents {queue : TimerQueue} {place : Nat → TimerPlace}
    (represents : queue.Represents place) {timer : Timer}
    (allowed : queue.Allowed (.newTimer timer)) :
    (queue.newTimer timer).2.Represents
      (Function.update place (queue.created.length + 1) .fresh) := by
  rcases allowed with ⟨belowMax, createdFree⟩
  have addressFree : ∀ serial other, queue.live serial = some other →
      other.address ≠ timer.address := by
    intro serial other alive
    rcases represents.exists_created serial other alive with ⟨pointer, member, same⟩
    exact createdFree pointer member other (by rw [same, alive]; rfl)
  have wasUnborn := represents.unborn (queue.created.length + 1) (Nat.lt_succ_self _)
  have located := represents.located (queue.created.length + 1)
  rw [wasUnborn] at located
  have aliveNew := queue.newTimer_live_self timer
  constructor
  · intro serial
    by_cases same : serial = queue.created.length + 1
    · subst same
      rw [Function.update_self]
      exact located.newTimer timer
    · rw [Function.update_of_ne same]
      refine (represents.located serial).congr
        ⟨queue.newTimer_live_of_ne timer same, ?_, fun _ _ => Iff.rfl, fun _ _ => Iff.rfl,
          fun _ _ => Iff.rfl, Iff.rfl, Iff.rfl⟩
      intro pointer pointerSerial
      simp only [newTimer, List.mem_append, List.mem_singleton]
      constructor
      · rintro (old | new)
        · exact old
        · rw [new] at pointerSerial
          exact absurd pointerSerial.symm same
      · exact .inl
  · intro serial beyond
    simp only [newTimer, List.length_append, List.length_singleton] at beyond
    rw [Function.update_of_ne (by omega)]
    exact represents.unborn serial (by omega)
  · intro serial found alive
    by_cases same : serial = queue.created.length + 1
    · subst same
      rw [aliveNew, Option.some.injEq] at alive
      rw [← alive]
      exact belowMax
    · rw [queue.newTimer_live_of_ne timer same] at alive
      exact represents.address_lt serial found alive
  · intro left right leftTimer rightTimer leftAlive rightAlive same
    by_cases leftNew : left = queue.created.length + 1
    · by_cases rightNew : right = queue.created.length + 1
      · rw [leftNew, rightNew]
      · subst leftNew
        rw [aliveNew, Option.some.injEq] at leftAlive
        rw [queue.newTimer_live_of_ne timer rightNew] at rightAlive
        subst leftAlive
        exact absurd same.symm (addressFree right rightTimer rightAlive)
    · rw [queue.newTimer_live_of_ne timer leftNew] at leftAlive
      by_cases rightNew : right = queue.created.length + 1
      · subst rightNew
        rw [aliveNew, Option.some.injEq] at rightAlive
        subst rightAlive
        exact absurd same (addressFree left leftTimer leftAlive)
      · rw [queue.newTimer_live_of_ne timer rightNew] at rightAlive
        exact represents.address_injective left right leftTimer rightTimer
          leftAlive rightAlive same
  · intro serial found alive
    by_cases same : serial = queue.created.length + 1
    · exact ⟨(queue.newTimer timer).1, by simp [newTimer], same.symm⟩
    · rw [queue.newTimer_live_of_ne timer same] at alive
      rcases represents.exists_created serial found alive with ⟨pointer, member, equal⟩
      exact ⟨pointer, by simp [newTimer, member], equal⟩
  · exact represents.sizes
  · exact represents.batch_nodup
  · exact represents.freed_nodup
  · exact represents.handed_nodup

end TimerQueue

end Ccnet.Net
