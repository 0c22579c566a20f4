import Ccnet.Net.Timer.Ownership

/-! # What a step of the timer queue has done

For each operation, the queue it leaves if it succeeds. Nothing is assumed about
the queue before it. -/

namespace Ccnet.Net

theorem Entry.expiration_le_of_first {timers : TimerList} {first entry : Entry}
    (isFirst : timers.first = some first) (member : entry ∈ timers) :
    first.expiration ≤ entry.expiration := by
  have ordered := OrderedSet.first_le isFirst member
  rw [Entry.key, Entry.key, Prod.Lex.toLex_le_toLex] at ordered
  rcases ordered with earlier | ⟨same, _⟩
  · exact le_of_lt earlier
  · exact le_of_eq same

namespace TimerQueue

variable {queue next : TimerQueue} {pointer : TimerPtr} {clock now : Int}

theorem insert_inversion {changed : Bool} (ran : queue.insert pointer = .ok (changed, next)) :
    ∃ timer, queue.live pointer.serial = some timer ∧
      (changed = true ↔
        ∀ first ∈ queue.timers.first, timer.expiration < first.expiration) ∧
      next = { queue with
        timers := (queue.timers.insert ⟨timer.expiration, pointer⟩).1
        activeTimers := (queue.activeTimers.insert ⟨pointer, pointer.serial⟩).1 } := by
  simp only [insert, Checked.bind_eq_ok_iff] at ran
  rcases ran with ⟨_, _, timer, read, _, _, sequence, numbered, _, _, _, _, result⟩
  cases result
  rw [(sequence_eq_ok_iff.mp numbered).1]
  refine ⟨timer, deref_eq_ok_iff.mp read, ?_, rfl⟩
  cases queue.timers.first with
  | none => simp
  | some first => simp

/-- The kernel timer is set for a timer that comes to the front of the queue. -/
theorem addTimerInLoop_inversion (ran : queue.addTimerInLoop pointer clock = .ok next) :
    ∃ timer, queue.live pointer.serial = some timer ∧
      next = { queue with
        handed := queue.handed ++ [pointer.serial]
        timers := (queue.timers.insert ⟨timer.expiration, pointer⟩).1
        activeTimers := (queue.activeTimers.insert ⟨pointer, pointer.serial⟩).1
        timerfd := next.timerfd } ∧
      ((∀ first ∈ queue.timers.first, timer.expiration < first.expiration) ∧
          next.timerfd = .settime clock (howMuchTimeFromNow timer.expiration clock) ∨
        (∃ first ∈ queue.timers.first, first.expiration ≤ timer.expiration) ∧
          next.timerfd = queue.timerfd) := by
  rcases Checked.bind_eq_ok_iff.mp ran with ⟨⟨changed, inserted⟩, insertion, rest⟩
  rcases insert_inversion insertion with ⟨timer, alive, earliest, rfl⟩
  dsimp only at rest
  split at rest
  · rename_i isChanged
    rw [deref_of_live (by exact alive)] at rest
    cases rest
    exact ⟨timer, alive, rfl, .inl ⟨earliest.mp isChanged, rfl⟩⟩
  · rename_i notChanged
    cases rest
    refine ⟨timer, alive, rfl, .inr ⟨?_, rfl⟩⟩
    simpa [earliest] using notChanged

theorem live_of_update_none {serial other : Nat} {timer : Timer}
    (alive : Function.update queue.live serial none other = some timer) :
    queue.live other = some timer := by
  by_cases same : other = serial
  · rw [same, Function.update_self] at alive
    cases alive
  · rw [Function.update_of_ne same] at alive
    exact alive

/-- A queued timer is freed; any other identifier is at most remembered. -/
theorem cancelInLoop_inversion {timerId : ActiveTimer}
    (ran : queue.cancelInLoop timerId = .ok next) :
    (∃ found timer, queue.activeTimers.find timerId.key = some found ∧
        queue.live found.timer.serial = some timer ∧
        next = { queue with
          live := Function.update queue.live found.timer.serial none
          freed := queue.freed ++ [found.timer.serial]
          timers := (queue.timers.erase (Entry.key ⟨timer.expiration, found.timer⟩)).2
          activeTimers := (queue.activeTimers.erase found.key).2 }) ∨
      next = { queue with cancelingTimers :=
        if queue.callingExpiredTimers then (queue.cancelingTimers.insert timerId).1
        else queue.cancelingTimers } := by
  rcases Checked.check_bind_eq_ok_iff.mp ran with ⟨_, rest⟩
  split at rest
  · rename_i found search
    simp only [delete, Checked.bind_eq_ok_iff] at rest
    rcases rest with ⟨timer, read, _, _, freed, ⟨_, _, deleted⟩, _, _, result⟩
    cases deleted
    cases result
    exact .inl ⟨found, timer, search, deref_eq_ok_iff.mp read, rfl⟩
  · rcases Checked.check_bind_eq_ok_iff.mp rest with ⟨_, result⟩
    cases result
    right
    split <;> rfl

theorem deactivate_inversion {entries : List Entry}
    (ran : entries.foldlM deactivate queue = .ok next) :
    next = { queue with activeTimers := next.activeTimers } ∧
      ∀ active ∈ next.activeTimers, active ∈ queue.activeTimers := by
  induction entries generalizing queue with
  | nil =>
      cases ran
      exact ⟨rfl, fun _ member => member⟩
  | cons entry entries induction =>
      rw [List.foldlM_cons] at ran
      rcases Checked.bind_eq_ok_iff.mp ran with ⟨middle, first, rest⟩
      simp only [deactivate, Checked.bind_eq_ok_iff] at first
      rcases first with ⟨_, _, _, _, result⟩
      cases result
      rcases induction rest with ⟨kept, members⟩
      exact ⟨kept, fun active member => (OrderedSet.mem_erase.mp (members active member)).1⟩

/-- What `handleRead` leaves in the queue expires after `now`: the assertion of
`getExpired` has been passed. -/
theorem beginHandleRead_inversion (ran : queue.beginHandleRead now = .ok next) :
    next = { queue with
        timers := queue.timers.eraseBelow (toLex (now, uintptrMax))
        activeTimers := next.activeTimers
        callingExpiredTimers := true
        cancelingTimers := .empty
        timerfd := { queue.timerfd with expired := false }
        phase := .calling now (queue.expiredAt now) (queue.expiredAt now)
        reads := queue.reads + 1 } ∧
      (∀ active ∈ next.activeTimers, active ∈ queue.activeTimers) ∧
      ∀ entry ∈ next.timers, now < entry.expiration := by
  rcases Checked.bind_eq_ok_iff.mp ran with ⟨⟨expired, taken⟩, got, result⟩
  simp only [getExpired, Checked.bind_eq_ok_iff] at got
  rcases got with ⟨_, _, _, passed, middle, folded, _, _, returned⟩
  cases returned
  cases result
  rcases deactivate_inversion folded with ⟨kept, members⟩
  have beyond := (check_eq_ok_iff _ _).mp passed
  rw [kept]
  refine ⟨rfl, members, ?_⟩
  intro entry member
  rcases OrderedSet.exists_first member with ⟨first, isFirst⟩
  have bound := beyond first isFirst
  have ordered := Entry.expiration_le_of_first isFirst member
  omega

theorem runCallback_inversion (ran : queue.runCallback = .ok next) :
    next = { queue with phase := next.phase, starts := next.starts } ∧
      next.batch = queue.batch := by
  unfold runCallback at ran
  split at ran
  · rename_i calling
    rcases Checked.bind_eq_ok_iff.mp ran with ⟨_, _, result⟩
    cases result
    exact ⟨rfl, by simp [TimerQueue.batch, calling]⟩
  · cases ran
    exact ⟨rfl, rfl⟩

theorem finishCallbacks_fields (queue : TimerQueue) :
    queue.finishCallbacks = { queue with
        phase := queue.finishCallbacks.phase
        callingExpiredTimers := queue.finishCallbacks.callingExpiredTimers } ∧
      queue.finishCallbacks.batch = queue.batch := by
  unfold finishCallbacks
  split
  · rename_i calling
    exact ⟨rfl, by simp [TimerQueue.batch, calling]⟩
  · exact ⟨rfl, rfl⟩

/-- `reset` puts a repeating timer that was not cancelled back, at the time of its
next expiration, and frees any other. -/
theorem resetNext_inversion {rest : List Entry} {entry : Entry}
    (resetting : queue.phase = .resetting now (entry :: rest))
    (ran : queue.resetNext = .ok next) :
    ∃ timer, queue.live entry.timer.serial = some timer ∧
      ((timer.repeats = true ∧
          queue.cancelingTimers.find
            (ActiveTimer.key ⟨entry.timer, entry.timer.serial⟩) = none ∧
          next = { queue with
            phase := .resetting now rest
            live := Function.update queue.live entry.timer.serial (some (timer.restart now))
            timers := (queue.timers.insert ⟨(timer.restart now).expiration, entry.timer⟩).1
            activeTimers := (queue.activeTimers.insert ⟨entry.timer, entry.timer.serial⟩).1 }) ∨
        (timer.repeats = true → queue.cancelingTimers.find
            (ActiveTimer.key ⟨entry.timer, entry.timer.serial⟩) ≠ none) ∧
          next = { queue with
            phase := .resetting now rest
            live := Function.update queue.live entry.timer.serial none
            freed := queue.freed ++ [entry.timer.serial] }) := by
  unfold resetNext at ran
  rw [resetting] at ran
  dsimp only at ran
  rcases Checked.bind_eq_ok_iff.mp ran with ⟨timer, read, afterRead⟩
  have alive := deref_eq_ok_iff.mp read
  rcases Checked.bind_eq_ok_iff.mp afterRead with ⟨sequence, numbered, decision⟩
  rw [(sequence_eq_ok_iff.mp numbered).1] at decision
  split at decision
  · rename_i again
    simp only [restart, deref, alive, Checked.ok_bind, Checked.bind_eq_ok_iff] at decision
    rcases decision with ⟨restarted, result, ⟨changed, inserted⟩, insertion, returned⟩
    cases result
    cases returned
    rcases insert_inversion insertion with ⟨found, foundAlive, _, rfl⟩
    cases (Function.update_self ..).symm.trans foundAlive
    exact ⟨timer, alive, .inl ⟨again.1, again.2, rfl⟩⟩
  · rename_i ends
    simp only [delete, deref, alive, Checked.ok_bind] at decision
    cases decision
    exact ⟨timer, alive, .inr ⟨fun repeats search => ends ⟨repeats, search⟩, rfl⟩⟩

/-- At the end of `handleRead` the kernel timer is set for the first timer, unless
that timer's expiration is not a valid time. -/
theorem finishReset_inversion (ran : queue.finishReset clock = .ok next) :
    next = { queue with phase := .idle, timerfd := next.timerfd } ∧
      ((∃ first timer, queue.timers.first = some first ∧
          queue.live first.timer.serial = some timer ∧ 0 < timer.expiration ∧
          next.timerfd = .settime clock (howMuchTimeFromNow timer.expiration clock)) ∨
        next.timerfd = queue.timerfd ∧ ∀ first, queue.timers.first = some first →
          ∀ timer, queue.live first.timer.serial = some timer → timer.expiration ≤ 0) := by
  rcases Checked.bind_eq_ok_iff.mp ran with ⟨nextExpire, read, rest⟩
  unfold TimerQueue.nextExpire at read
  dsimp only at rest
  cases isFirst : queue.timers.first with
  | none =>
      rw [isFirst] at read
      cases read
      cases rest
      exact ⟨rfl, .inr ⟨rfl, fun _ impossible => by cases impossible⟩⟩
  | some first =>
      rw [isFirst] at read
      rcases Checked.bind_eq_ok_iff.mp read with ⟨timer, deref, result⟩
      cases result
      have alive := deref_eq_ok_iff.mp deref
      split at rest
      · rename_i valid
        cases rest
        exact ⟨rfl, .inl ⟨first, timer, rfl, alive, valid, rfl⟩⟩
      · rename_i invalid
        cases rest
        refine ⟨rfl, .inr ⟨rfl, ?_⟩⟩
        intro found same other otherAlive
        cases same
        cases alive.symm.trans otherAlive
        omega

end TimerQueue

end Ccnet.Net
