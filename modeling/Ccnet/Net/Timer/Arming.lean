import Ccnet.Net.Timer.Inversion
import Mathlib.Algebra.Group.Int.Defs

/-! # When the timerfd is armed

The queue has one kernel timer for all its timers. It is set when a timer comes
to the front of the queue and at the end of `handleRead`, and never disarmed. -/

namespace Ccnet.Net

/-- The values of an `int64_t`. -/
def Representable (value : Int) : Prop := -2 ^ 63 ≤ value ∧ value < 2 ^ 63

instance (value : Int) : Decidable (Representable value) :=
  inferInstanceAs (Decidable (_ ∧ _))

theorem int64_of_representable {value : Int} (fits : Representable value) :
    int64 value = value := by
  rcases fits with ⟨lower, upper⟩
  apply Int.bmod_eq_of_le
  · omega
  · omega

/-! ## The kernel timer -/

namespace Timespec

def microseconds (value : Timespec) : Int :=
  value.seconds * kMicroSecondsPerSecond + value.nanoseconds / 1000

/-- What `timerfd_settime` takes without disarming the timer or failing. -/
structure Settable (value : Timespec) : Prop where
  nonzero : value.seconds ≠ 0 ∨ value.nanoseconds ≠ 0
  seconds : 0 ≤ value.seconds
  nanoseconds : 0 ≤ value.nanoseconds ∧ value.nanoseconds < 1000 * 1000 * 1000

end Timespec

theorem howMuchTimeFromNow_settable (expiration now : Int) :
    (howMuchTimeFromNow expiration now).Settable := by
  unfold howMuchTimeFromNow
  dsimp only
  generalize bound : (if int64 (expiration - now) < 100 then 100 else
    int64 (expiration - now)) = microseconds
  have atLeast : 100 ≤ microseconds := by
    rw [← bound]
    split <;> omega
  constructor <;> simp only [kMicroSecondsPerSecond] <;> omega

theorem howMuchTimeFromNow_microseconds {expiration now : Int}
    (fits : Representable (expiration - now)) :
    now + (howMuchTimeFromNow expiration now).microseconds = max expiration (now + 100) := by
  unfold howMuchTimeFromNow Timespec.microseconds
  rw [int64_of_representable fits]
  dsimp only
  simp only [kMicroSecondsPerSecond]
  split <;> omega

namespace Timerfd

/-- The timer will expire, not later than `expiration` asks for, or its
expiration waits to be read. -/
def Armed (timerfd : Timerfd) (expiration : Int) : Prop :=
  (timerfd.setting ≠ none ∨ timerfd.expired = true) ∧
    ∀ setting ∈ timerfd.setting,
      setting.1 + setting.2.microseconds ≤ max expiration (setting.1 + 100)

instance (timerfd : Timerfd) (expiration : Int) : Decidable (timerfd.Armed expiration) :=
  inferInstanceAs (Decidable (_ ∧ _))

theorem Armed.later {timerfd : Timerfd} {expiration later : Int}
    (armed : timerfd.Armed expiration) (after : expiration ≤ later) :
    timerfd.Armed later := by
  refine ⟨armed.1, ?_⟩
  intro setting isSet
  have bound := armed.2 setting isSet
  omega

theorem armed_settime {expiration now : Int} (fits : Representable (expiration - now)) :
    (settime now (howMuchTimeFromNow expiration now)).Armed expiration := by
  refine ⟨.inl (by simp [settime]), ?_⟩
  intro setting isSet
  cases isSet
  rw [howMuchTimeFromNow_microseconds fits]

theorem armed_expired (expiration : Int) : Armed ⟨none, true⟩ expiration :=
  ⟨.inr rfl, by simp⟩

end Timerfd

namespace TimerQueue

variable {queue next : TimerQueue} {pointer : TimerPtr} {clock now : Int}

/-! ## Every timer is waited for -/

/-- `Timestamp` values are `int64_t` values, and the wall clock is after its epoch. -/
def Clocked (_ : TimerQueue) : Action → Prop
  | .newTimer timer => Representable timer.expiration ∧ Representable timer.delta
  | .addTimerInLoop _ clock | .finishReset clock | .beginHandleRead clock =>
      0 < clock ∧ clock < 2 ^ 63
  | .cancelInLoop _ | .runCallback | .finishCallbacks | .resetNext | .alarm => True

instance (queue : TimerQueue) : (action : Action) → Decidable (queue.Clocked action)
  | .newTimer _ | .addTimerInLoop _ _ | .finishReset _ | .beginHandleRead _ =>
      inferInstanceAs (Decidable (_ ∧ _))
  | .cancelInLoop _ | .runCallback | .finishCallbacks | .resetNext | .alarm =>
      inferInstanceAs (Decidable True)

/-- A timer is added only if its distance from the current time fits an `int64_t`,
and restarted only if the time of its next expiration does. -/
def Fits (queue : TimerQueue) : Action → Prop
  | .addTimerInLoop pointer clock =>
      ∀ timer ∈ queue.live pointer.serial, Representable (timer.expiration - clock)
  | .resetNext => ∀ now ∈ queue.phase.started, ∀ entry ∈ queue.phase.toReset.head?,
      ∀ timer ∈ queue.live entry.timer.serial, timer.repeats = true →
        0 ≤ timer.delta ∧ Representable (now + timer.delta)
  | .newTimer _ | .cancelInLoop _ | .beginHandleRead _ | .runCallback | .finishCallbacks
  | .finishReset _ | .alarm => True

instance (queue : TimerQueue) : (action : Action) → Decidable (queue.Fits action)
  | .addTimerInLoop _ _ | .resetNext => inferInstanceAs (Decidable (∀ _ ∈ _, _))
  | .newTimer _ | .cancelInLoop _ | .beginHandleRead _ | .runCallback | .finishCallbacks
  | .finishReset _ | .alarm => inferInstanceAs (Decidable True)

/-- Outside `handleRead` the kernel timer is armed for every timer of the queue. Inside
it is armed for those at an invalid time, for which `reset` will not arm it. -/
structure Arming (queue : TimerQueue) : Prop where
  armed : ∀ entry ∈ queue.timers, queue.phase = .idle ∨ entry.expiration ≤ 0 →
    queue.timerfd.Armed entry.expiration
  started : ∀ now ∈ queue.phase.started, 0 < now
  live : ∀ serial timer, queue.live serial = some timer → timer.expiration < 2 ^ 63

theorem create_arming : create.Arming where
  armed := by simp [create]
  started := by simp [create, TimerPhase.started]
  live := by simp [create]

theorem Arming.addTimerInLoop (arming : queue.Arming)
    (fits : queue.Fits (.addTimerInLoop pointer clock))
    (ran : queue.addTimerInLoop pointer clock = .ok next) : next.Arming := by
  rcases addTimerInLoop_inversion ran with ⟨timer, alive, kept, outcome⟩
  refine ⟨?_, by rw [kept]; exact arming.started, by rw [kept]; exact arming.live⟩
  intro entry member required
  rw [kept] at member required
  rcases outcome with ⟨earliest, timerfd⟩ | ⟨⟨first, isFirst, notEarlier⟩, timerfd⟩
  · rw [timerfd]
    apply (Timerfd.armed_settime (fits timer alive)).later
    rcases OrderedSet.mem_of_mem_insert member with new | old
    · rw [new]
    · rcases OrderedSet.exists_first old with ⟨first, isFirst⟩
      have before := earliest first isFirst
      have ordered := Entry.expiration_le_of_first isFirst old
      omega
  · rw [timerfd]
    rcases OrderedSet.mem_of_mem_insert member with new | old
    · subst new
      have firstArmed := arming.armed first (OrderedSet.first_mem isFirst)
        (required.imp_right fun invalid => le_trans notEarlier invalid)
      exact firstArmed.later notEarlier
    · exact arming.armed entry old required

theorem Arming.finishReset (arming : queue.Arming) {place : Nat → TimerPlace}
    (consistent : queue.Consistent place) (clocked : queue.Clocked (.finishReset clock))
    (ran : queue.finishReset clock = .ok next) : next.Arming := by
  rcases finishReset_inversion ran with ⟨kept, outcome⟩
  refine ⟨?_, by rw [kept]; simp [TimerPhase.started], by rw [kept]; exact arming.live⟩
  intro entry member _
  rw [kept] at member
  rcases OrderedSet.exists_first member with ⟨front, isFront⟩
  have ordered := Entry.expiration_le_of_first isFront member
  rcases consistent.represents.queued_of_mem_timers (OrderedSet.first_mem isFront) with
    ⟨_, timer, alive, _, expiration⟩
  rcases outcome with ⟨first, found, isFirst, foundAlive, valid, timerfd⟩ | ⟨timerfd, invalid⟩
  · cases isFront.symm.trans isFirst
    cases alive.symm.trans foundAlive
    have bound := arming.live _ timer alive
    have fits : Representable (timer.expiration - clock) := by
      rcases clocked with ⟨positive, clockBound⟩
      constructor <;> omega
    rw [timerfd]
    exact (Timerfd.armed_settime fits).later (by omega)
  · have notValid := invalid front isFront timer alive
    rw [timerfd]
    exact (arming.armed front (OrderedSet.first_mem isFront) (.inr (by omega))).later ordered

theorem Arming.resetNext (arming : queue.Arming) (allowed : queue.Allowed .resetNext)
    (fits : queue.Fits .resetNext) (ran : queue.resetNext = .ok next) : next.Arming := by
  rcases TimerPhase.exists_of_toReset_ne allowed with ⟨now, entry, rest, phase⟩
  have positive : 0 < now := arming.started now (by simp [phase, TimerPhase.started])
  rcases resetNext_inversion phase ran with ⟨timer, alive, ⟨repeats, _, rfl⟩ | ⟨_, rfl⟩⟩
  · rcases fits now (by simp [phase, TimerPhase.started]) entry
      (by simp [phase, TimerPhase.toReset]) timer alive repeats with ⟨nonnegative, representable⟩
    have expiration : (timer.restart now).expiration = now + timer.delta := by
      simp [Timer.restart, repeats, int64_of_representable representable]
    refine ⟨?_, by simpa [TimerPhase.started] using positive, ?_⟩
    · intro other member required
      have invalid := required.resolve_left (by simp)
      rcases OrderedSet.mem_of_mem_insert member with new | old
      · rw [new, expiration] at invalid
        dsimp only at invalid
        omega
      · exact arming.armed other old (.inr invalid)
    · intro serial other otherAlive
      dsimp only at otherAlive
      by_cases same : serial = entry.timer.serial
      · rw [same, Function.update_self, Option.some.injEq] at otherAlive
        rw [← otherAlive, expiration]
        exact representable.2
      · rw [Function.update_of_ne same] at otherAlive
        exact arming.live serial other otherAlive
  · refine ⟨?_, by simpa [TimerPhase.started] using positive, ?_⟩
    · intro other member required
      exact arming.armed other member (.inr (required.resolve_left (by simp)))
    · intro serial other otherAlive
      exact arming.live serial other (live_of_update_none otherAlive)

theorem Arming.beginHandleRead (arming : queue.Arming)
    (clocked : queue.Clocked (.beginHandleRead now))
    (ran : queue.beginHandleRead now = .ok next) : next.Arming := by
  rcases beginHandleRead_inversion ran with ⟨kept, _, beyond⟩
  have notIdle : next.phase ≠ .idle := by
    rw [kept]
    simp
  refine ⟨?_, ?_, by rw [kept]; exact arming.live⟩
  · intro entry member required
    have invalid := required.resolve_left notIdle
    have later := beyond entry member
    have positive := clocked.1
    omega
  · rw [kept]
    simpa [TimerPhase.started] using clocked.1

theorem step_arming (action : Action) {place : Nat → TimerPlace}
    (consistent : queue.Consistent place) (arming : queue.Arming)
    (allowed : queue.Allowed action) (clocked : queue.Clocked action)
    (fits : queue.Fits action) (stepped : queue.step action = .ok next) : next.Arming := by
  cases action with
  | newTimer timer =>
      cases stepped
      refine ⟨arming.armed, arming.started, ?_⟩
      intro serial other alive
      by_cases same : serial = queue.created.length + 1
      · subst same
        cases (Function.update_self ..).symm.trans alive
        exact clocked.1.2
      · exact arming.live serial other ((Function.update_of_ne same ..).symm.trans alive)
  | addTimerInLoop pointer clock => exact arming.addTimerInLoop fits stepped
  | cancelInLoop timerId =>
      rcases cancelInLoop_inversion stepped with ⟨found, timer, _, _, rfl⟩ | rfl
      · refine ⟨?_, arming.started, ?_⟩
        · intro entry member
          exact arming.armed entry (OrderedSet.mem_erase.mp member).1
        · intro serial other alive
          exact arming.live serial other (live_of_update_none alive)
      · exact ⟨arming.armed, arming.started, arming.live⟩
  | beginHandleRead now => exact arming.beginHandleRead clocked stepped
  | runCallback =>
      rcases TimerPhase.exists_of_toCall_ne allowed with ⟨now, expired, entry, rest, phase⟩
      have phased := consistent.phased
      simp only [Phased, phase] at phased
      cases (runCallback_ok consistent.represents phase phased.2).symm.trans stepped
      refine ⟨?_, ?_, arming.live⟩
      · intro other member required
        exact arming.armed other member (.inr (required.resolve_left (by simp)))
      · have started := arming.started
        rw [phase] at started
        exact started
  | finishCallbacks =>
      rcases TimerPhase.exists_of_isCalling allowed.1 with ⟨now, expired, rest, phase⟩
      cases stepped
      simp only [finishCallbacks, phase]
      refine ⟨?_, ?_, arming.live⟩
      · intro other member required
        exact arming.armed other member (.inr (required.resolve_left (by simp)))
      · have started := arming.started
        rw [phase] at started
        exact started
  | resetNext => exact arming.resetNext allowed fits stepped
  | finishReset clock => exact arming.finishReset consistent clocked stepped
  | alarm =>
      cases stepped
      exact ⟨fun entry _ _ => Timerfd.armed_expired entry.expiration, arming.started, arming.live⟩

/-- What was last given to `timerfd_settime` is in order. -/
def Settable (queue : TimerQueue) : Prop :=
  ∀ setting ∈ queue.timerfd.setting, setting.2.Settable

theorem step_settable (action : Action) {place : Nat → TimerPlace}
    (consistent : queue.Consistent place) (settable : queue.Settable)
    (allowed : queue.Allowed action) (stepped : queue.step action = .ok next) :
    next.Settable := by
  have unchanged : next.timerfd = queue.timerfd → next.Settable := by
    intro same
    unfold Settable
    rw [same]
    exact settable
  have set : ∀ expiration clock,
      next.timerfd = .settime clock (howMuchTimeFromNow expiration clock) → next.Settable := by
    intro expiration clock timerfd setting isSet
    rw [timerfd] at isSet
    cases isSet
    exact howMuchTimeFromNow_settable expiration clock
  cases action with
  | newTimer timer =>
      cases stepped
      exact settable
  | addTimerInLoop pointer clock =>
      rcases addTimerInLoop_inversion stepped with ⟨timer, _, _, outcome⟩
      rcases outcome with ⟨_, timerfd⟩ | ⟨_, timerfd⟩
      · exact set _ _ timerfd
      · exact unchanged timerfd
  | cancelInLoop timerId =>
      rcases cancelInLoop_inversion stepped with ⟨_, _, _, _, rfl⟩ | rfl
      · exact settable
      · exact settable
  | beginHandleRead now =>
      rw [(beginHandleRead_inversion stepped).1]
      exact settable
  | runCallback =>
      rcases TimerPhase.exists_of_toCall_ne allowed with ⟨_, _, _, _, phase⟩
      have phased := consistent.phased
      simp only [Phased, phase] at phased
      cases (runCallback_ok consistent.represents phase phased.2).symm.trans stepped
      exact settable
  | finishCallbacks =>
      rcases TimerPhase.exists_of_isCalling allowed.1 with ⟨_, _, _, phase⟩
      cases stepped
      simp only [finishCallbacks, phase]
      exact settable
  | resetNext =>
      rcases TimerPhase.exists_of_toReset_ne allowed with ⟨_, _, _, phase⟩
      rcases resetNext_inversion phase stepped with ⟨_, _, ⟨_, _, rfl⟩ | ⟨_, rfl⟩⟩
      · exact settable
      · exact settable
  | finishReset clock =>
      rcases finishReset_inversion stepped with ⟨_, outcome⟩
      rcases outcome with ⟨_, _, _, _, _, timerfd⟩ | ⟨timerfd, _⟩
      · exact set _ _ timerfd
      · exact unchanged timerfd
  | alarm =>
      cases stepped
      intro setting isSet
      cases isSet

/-! ## Every run -/

theorem reachable_settable (reachable : machine.Reachable queue) : queue.Settable := by
  refine reachable.invariant_knowing consistent_of_reachable.2 Settable ?_ ?_
  · rintro _ rfl setting isSet
    cases isSet
  · rintro current action next ⟨place, consistent⟩ settable allowed stepped
    exact step_settable action consistent settable allowed stepped

theorem reachable_arming
    (reachable : ((machine.restrict Clocked).restrict Fits).Reachable queue) : queue.Arming := by
  refine reachable.invariant_knowing
    (fun state known => consistent_of_reachable.2 state known.of_restrict.of_restrict) Arming ?_ ?_
  · rintro _ rfl
    exact create_arming
  · rintro current action next ⟨place, consistent⟩ arming ⟨⟨allowed, clocked⟩, fits⟩ stepped
    exact step_arming action consistent arming allowed clocked fits stepped

/-- Whatever is given to `timerfd_settime` is in order. If no time wraps around, the
kernel timer is armed for the first timer whenever `handleRead` is not running. -/
theorem no_timer_stranded (queue : TimerQueue) :
    (machine.Reachable queue → ∀ setting ∈ queue.timerfd.setting, setting.2.Settable) ∧
    (((machine.restrict Clocked).restrict Fits).Reachable queue →
      queue.phase = .idle → ∀ first ∈ queue.timers.first,
        queue.timerfd.Armed first.expiration) := by
  refine ⟨fun reachable => reachable_settable reachable, ?_⟩
  intro reachable idle first isFirst
  exact (reachable_arming reachable).armed first (OrderedSet.first_mem isFirst) (.inl idle)

/-- A callback adds a timer at an invalid time, and `reset` leaves the kernel timer
as it was set then. -/
theorem no_timer_stranded_invalid :
    ∃ queue, ((machine.restrict Clocked).restrict Fits).Reachable queue ∧
      (queue.phase = .idle ∧ queue.timers.first = some ⟨-5, ⟨24, 3⟩⟩) ∧
      queue.timerfd.Armed (-5) := by
  have run := Machine.exists_reachable ((machine.restrict Clocked).restrict Fits)
    (fun queue => queue.phase = .idle ∧ queue.timers.first = some ⟨-5, ⟨24, 3⟩⟩) rfl
    [.newTimer ⟨8, 1000, 200, true⟩, .addTimerInLoop ⟨8, 1⟩ 500, .newTimer ⟨16, 0, 0, false⟩,
      .addTimerInLoop ⟨16, 2⟩ 600, .alarm, .beginHandleRead 1100, .runCallback,
      .newTimer ⟨24, -5, 0, false⟩, .addTimerInLoop ⟨24, 3⟩ 1105, .runCallback,
      .finishCallbacks, .resetNext, .resetNext, .finishReset 1110]
    (by decide)
  rcases run with ⟨queue, reachable, idle, isFirst⟩
  exact ⟨queue, reachable, ⟨idle, isFirst⟩, (no_timer_stranded queue).2 reachable idle _ isFirst⟩

/-- The distance of the earliest `Timestamp` from the present wraps around to more than
the time since the epoch: the kernel timer is set far into the future. -/
theorem earliest_timestamp_stranded :
    ∃ queue, (machine.restrict Clocked).Reachable queue ∧ queue.phase = .idle ∧
      ∃ first ∈ queue.timers.first, ¬queue.timerfd.Armed first.expiration :=
  Machine.exists_reachable (machine.restrict Clocked)
    (fun queue => queue.phase = .idle ∧
      ∃ first ∈ queue.timers.first, ¬queue.timerfd.Armed first.expiration) rfl
    [.newTimer ⟨8, -2 ^ 63, 0, false⟩, .addTimerInLoop ⟨8, 1⟩ 1700000000000000]
    (by decide)

end TimerQueue

end Ccnet.Net
