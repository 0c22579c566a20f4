import Ccnet.Foundation.Machine
import Ccnet.Foundation.OrderedSet
import Mathlib.Algebra.Group.Nat.Defs
import Mathlib.Data.Prod.Lex
import Mathlib.Data.Int.Order.Basic

namespace Ccnet.Net

/-! The timer queue of `net/timer_queue.cc`, with the `Timer` objects it owns.
Times are `Timestamp` values in microseconds. -/

/-- A `Timer*`: the address that pointers are compared by, and the serial
number of the object it was made from. An address is reused by the allocator, a
serial number is not, so an access through a stale pointer is noticed. -/
structure TimerPtr where
  address : Nat
  serial : Nat
  deriving DecidableEq, Repr

/-- What a sum or difference of two `int64_t` values becomes: a result that does
not fit wraps around. -/
def int64 (value : Int) : Int := value.bmod (2 ^ 64)

/-- A `Timer` object. Its sequence number is the serial number of its pointers;
`delta` is what `addTime` makes of `interval_`. -/
structure Timer where
  address : Nat
  expiration : Int
  delta : Int
  repeats : Bool
  deriving DecidableEq, Repr

def Timer.restart (timer : Timer) (now : Int) : Timer :=
  if timer.repeats then
    { timer with expiration := int64 (now + timer.delta) }
  else
    { timer with expiration := 0 }

structure Entry where
  expiration : Int
  timer : TimerPtr
  deriving DecidableEq, Repr

/-- The order of `std::pair<Timestamp, Timer*>`. -/
def Entry.key (entry : Entry) : Int ×ₗ Nat :=
  toLex (entry.expiration, entry.timer.address)

structure ActiveTimer where
  timer : TimerPtr
  sequence : Nat
  deriving DecidableEq, Repr

/-- The order of `std::pair<Timer*, int64_t>`. -/
def ActiveTimer.key (active : ActiveTimer) : Nat ×ₗ Nat :=
  toLex (active.timer.address, active.sequence)

abbrev TimerList := OrderedSet Entry.key

abbrev ActiveTimerSet := OrderedSet ActiveTimer.key

def uintptrMax : Nat := 2 ^ 64 - 1

structure Timespec where
  seconds : Int
  nanoseconds : Int
  deriving DecidableEq, Repr

def kMicroSecondsPerSecond : Int := 1000 * 1000

def howMuchTimeFromNow (expiration now : Int) : Timespec :=
  let microseconds := int64 (expiration - now)
  let microseconds := if microseconds < 100 then 100 else microseconds
  { seconds := microseconds / kMicroSecondsPerSecond
    nanoseconds := microseconds % kMicroSecondsPerSecond * 1000 }

/-- The one-shot kernel timer: when it was last set and to what, until it
expires, and whether an expiration waits to be read. -/
structure Timerfd where
  setting : Option (Int × Timespec)
  expired : Bool
  deriving DecidableEq, Repr

def Timerfd.settime (now : Int) (value : Timespec) : Timerfd where
  setting := some (now, value)
  expired := false

/-- Where the loop thread is inside `handleRead`. -/
inductive TimerPhase
  | idle
  /-- The callbacks of `expired` run; those of `rest` have not started. -/
  | calling (now : Int) (expired rest : List Entry)
  /-- `reset` has still to decide about `rest`. -/
  | resetting (now : Int) (rest : List Entry)
  deriving DecidableEq, Repr

namespace TimerPhase

def isCalling : TimerPhase → Bool
  | .calling _ _ _ => true
  | .idle | .resetting _ _ => false

def isResetting : TimerPhase → Bool
  | .resetting _ _ => true
  | .idle | .calling _ _ _ => false

def toCall : TimerPhase → List Entry
  | .calling _ _ rest => rest
  | .idle | .resetting _ _ => []

def toReset : TimerPhase → List Entry
  | .resetting _ rest => rest
  | .idle | .calling _ _ _ => []

/-- The time that the running `handleRead` has read. -/
def started : TimerPhase → Option Int
  | .idle => none
  | .calling now _ _ | .resetting now _ => some now

theorem exists_of_toCall_ne {phase : TimerPhase} (toCall : phase.toCall ≠ []) :
    ∃ now expired entry rest, phase = .calling now expired (entry :: rest) := by
  cases phase with
  | idle | resetting now rest => exact absurd rfl toCall
  | calling now expired rest =>
      rcases List.exists_cons_of_ne_nil toCall with ⟨entry, tail, equal⟩
      exact ⟨now, expired, entry, tail, by rw [← equal]; rfl⟩

theorem exists_of_isCalling {phase : TimerPhase} (calling : phase.isCalling = true) :
    ∃ now expired rest, phase = .calling now expired rest := by
  cases phase with
  | idle | resetting now rest => cases calling
  | calling now expired rest => exact ⟨now, expired, rest, rfl⟩

theorem exists_of_toReset_ne {phase : TimerPhase} (toReset : phase.toReset ≠ []) :
    ∃ now entry rest, phase = .resetting now (entry :: rest) := by
  cases phase with
  | idle | calling now expired rest => exact absurd rfl toReset
  | resetting now rest =>
      rcases List.exists_cons_of_ne_nil toReset with ⟨entry, tail, equal⟩
      exact ⟨now, entry, tail, by rw [← equal]; rfl⟩

theorem exists_of_reset {phase : TimerPhase}
    (reset : phase.isResetting = true ∧ phase.toReset = []) :
    ∃ now, phase = .resetting now [] := by
  cases phase with
  | idle | calling now expired rest => cases reset.1
  | resetting now rest => exact ⟨now, by rw [← reset.2]; rfl⟩

end TimerPhase

/-- The queue, the live `Timer` objects by serial number, and what has happened
so far: the timers created, those handed to `addTimerInLoop`, those freed, and
the `handleRead` in which each callback was started. -/
structure TimerQueue where
  live : Nat → Option Timer
  timers : TimerList
  activeTimers : ActiveTimerSet
  callingExpiredTimers : Bool
  cancelingTimers : ActiveTimerSet
  timerfd : Timerfd
  phase : TimerPhase
  created : List TimerPtr
  handed : List Nat
  freed : List Nat
  reads : Nat
  starts : List (Nat × Nat)

namespace TimerQueue

def create : TimerQueue where
  live _ := none
  timers := .empty
  activeTimers := .empty
  callingExpiredTimers := false
  cancelingTimers := .empty
  timerfd := { setting := none, expired := false }
  phase := .idle
  created := []
  handed := []
  freed := []
  reads := 0
  starts := []

/-! ## Timer objects -/

/-- `new Timer(cb, when, interval)` at an address of the allocator's choice. -/
def newTimer (queue : TimerQueue) (timer : Timer) : TimerPtr × TimerQueue :=
  let pointer : TimerPtr :=
    { address := timer.address, serial := queue.created.length + 1 }
  (pointer, { queue with
    live := Function.update queue.live pointer.serial (some timer)
    created := queue.created ++ [pointer] })

def deref (queue : TimerQueue) (pointer : TimerPtr) : Checked Timer :=
  match queue.live pointer.serial with
  | some timer => .ok timer
  | none => .error .useAfterFree

def sequence (queue : TimerQueue) (pointer : TimerPtr) : Checked Nat := do
  let _ ← queue.deref pointer
  return pointer.serial

def restart (queue : TimerQueue) (pointer : TimerPtr) (now : Int) :
    Checked TimerQueue := do
  let timer ← queue.deref pointer
  return { queue with
    live := Function.update queue.live pointer.serial (some (timer.restart now)) }

def delete (queue : TimerQueue) (pointer : TimerPtr) : Checked TimerQueue := do
  let _ ← queue.deref pointer
  return { queue with
    live := Function.update queue.live pointer.serial none
    freed := queue.freed ++ [pointer.serial] }

/-! ## The functions of the source -/

def resetTimerfd (queue : TimerQueue) (expiration clock : Int) : TimerQueue :=
  { queue with timerfd := .settime clock (howMuchTimeFromNow expiration clock) }

def insert (queue : TimerQueue) (timer : TimerPtr) :
    Checked (Bool × TimerQueue) := do
  check (queue.timers.size = queue.activeTimers.size)
  let expiration := (← queue.deref timer).expiration
  let earliestChanged := match queue.timers.first with
    | none => true
    | some entry => decide (expiration < entry.expiration)
  let inserted := queue.timers.insert { expiration, timer }
  check (inserted.2 = true)
  let activeInserted := queue.activeTimers.insert
    { timer, sequence := ← queue.sequence timer }
  check (activeInserted.2 = true)
  check (inserted.1.size = activeInserted.1.size)
  return (earliestChanged, { queue with
    timers := inserted.1
    activeTimers := activeInserted.1 })

/-- `clock` is what `Timestamp::now()` returns in `howMuchTimeFromNow`. -/
def addTimerInLoop (queue : TimerQueue) (timer : TimerPtr) (clock : Int) :
    Checked TimerQueue := do
  let (earliestChanged, next) ←
    { queue with handed := queue.handed ++ [timer.serial] }.insert timer
  if earliestChanged then
    let expiration := (← next.deref timer).expiration
    return next.resetTimerfd expiration clock
  else
    return next

/-- The `TimerId` is an address with a sequence number; its pointer is only
compared, never followed. -/
def cancelInLoop (queue : TimerQueue) (timerId : ActiveTimer) :
    Checked TimerQueue := do
  check (queue.timers.size = queue.activeTimers.size)
  match queue.activeTimers.find timerId.key with
  | some found =>
      let expiration := (← queue.deref found.timer).expiration
      let erased := queue.timers.erase (Entry.key { expiration, timer := found.timer })
      check (erased.1 = 1)
      let freed ← { queue with timers := erased.2 }.delete found.timer
      let next : TimerQueue :=
        { freed with activeTimers := (freed.activeTimers.erase found.key).2 }
      check (next.timers.size = next.activeTimers.size)
      return next
  | none =>
      let next : TimerQueue :=
        if queue.callingExpiredTimers then
          { queue with cancelingTimers := (queue.cancelingTimers.insert timerId).1 }
        else
          queue
      check (next.timers.size = next.activeTimers.size)
      return next

/-- The body of the loop in `getExpired`. -/
def deactivate (queue : TimerQueue) (entry : Entry) : Checked TimerQueue := do
  let active : ActiveTimer :=
    { timer := entry.timer, sequence := ← queue.sequence entry.timer }
  let erased := queue.activeTimers.erase active.key
  check (erased.1 = 1)
  return { queue with activeTimers := erased.2 }

def getExpired (queue : TimerQueue) (now : Int) :
    Checked (List Entry × TimerQueue) := do
  check (queue.timers.size = queue.activeTimers.size)
  let sentry : Int ×ₗ Nat := toLex (now, uintptrMax)
  let expired := queue.timers.below sentry
  let rest := queue.timers.eraseBelow sentry
  check (∀ entry ∈ rest.first, now < entry.expiration)
  let next ← expired.foldlM deactivate { queue with timers := rest }
  check (next.timers.size = next.activeTimers.size)
  return (expired, next)

def readTimerfd (queue : TimerQueue) : TimerQueue :=
  { queue with timerfd := { queue.timerfd with expired := false } }

/-- `handleRead` up to the loop over the expired timers. -/
def beginHandleRead (queue : TimerQueue) (now : Int) : Checked TimerQueue := do
  let (expired, next) ← queue.readTimerfd.getExpired now
  return { next with
    callingExpiredTimers := true
    cancelingTimers := .empty
    phase := .calling now expired expired
    reads := queue.reads + 1 }

/-- `it->second->run()`. What the callback does are further actions. -/
def runCallback (queue : TimerQueue) : Checked TimerQueue :=
  match queue.phase with
  | .calling now expired (entry :: rest) => do
      let _ ← queue.deref entry.timer
      return { queue with
        phase := .calling now expired rest
        starts := queue.starts ++ [(entry.timer.serial, queue.reads)] }
  | _ => return queue

def finishCallbacks (queue : TimerQueue) : TimerQueue :=
  match queue.phase with
  | .calling now expired _ =>
      { queue with
        callingExpiredTimers := false
        phase := .resetting now expired }
  | _ => queue

/-- The body of the loop in `reset`. -/
def resetNext (queue : TimerQueue) : Checked TimerQueue :=
  match queue.phase with
  | .resetting now (entry :: rest) => do
      let timer ← queue.deref entry.timer
      let active : ActiveTimer :=
        { timer := entry.timer, sequence := ← queue.sequence entry.timer }
      let advanced : TimerQueue := { queue with phase := .resetting now rest }
      if timer.repeats ∧ advanced.cancelingTimers.find active.key = none then
        let restarted ← advanced.restart entry.timer now
        let (_, next) ← restarted.insert entry.timer
        return next
      else
        advanced.delete entry.timer
  | _ => return queue

def nextExpire (queue : TimerQueue) : Checked Int :=
  match queue.timers.first with
  | some entry => do return (← queue.deref entry.timer).expiration
  | none => return 0

/-- The end of `reset`, after its loop. -/
def finishReset (queue : TimerQueue) (clock : Int) : Checked TimerQueue := do
  let nextExpire ← queue.nextExpire
  let next : TimerQueue := { queue with phase := .idle }
  if 0 < nextExpire then
    return next.resetTimerfd nextExpire clock
  else
    return next

/-- The entries taken out of the queue by the `handleRead` that is running and
not yet put back or freed. -/
def batch (queue : TimerQueue) : List Entry :=
  match queue.phase with
  | .idle => []
  | .calling _ expired _ => expired
  | .resetting _ rest => rest

/-! ## Runs -/

inductive Action
  | newTimer (timer : Timer)
  | addTimerInLoop (timer : TimerPtr) (clock : Int)
  | cancelInLoop (timerId : ActiveTimer)
  | beginHandleRead (now : Int)
  | runCallback
  | finishCallbacks
  | resetNext
  | finishReset (clock : Int)
  /-- The kernel timer expires. -/
  | alarm

/-- Code that uses the queue runs outside `handleRead`, and in the callbacks. -/
def RunsUserCode (queue : TimerQueue) : Prop := queue.phase.isResetting = false

instance (queue : TimerQueue) : Decidable queue.RunsUserCode :=
  inferInstanceAs (Decidable (_ = _))

/-- The allocator hands out no address in use and never the highest one, and a
`Timer` is handed to `addTimerInLoop` once. -/
def Allowed (queue : TimerQueue) : Action → Prop
  | .newTimer timer => timer.address < uintptrMax ∧
      ∀ pointer ∈ queue.created, ∀ other ∈ queue.live pointer.serial,
        other.address ≠ timer.address
  | .addTimerInLoop timer _ => queue.RunsUserCode ∧ timer ∈ queue.created ∧
      timer.serial ∉ queue.handed
  | .cancelInLoop _ => queue.RunsUserCode
  | .beginHandleRead _ => queue.phase = .idle
  | .runCallback => queue.phase.toCall ≠ []
  | .finishCallbacks => queue.phase.isCalling = true ∧ queue.phase.toCall = []
  | .resetNext => queue.phase.toReset ≠ []
  | .finishReset _ => queue.phase.isResetting = true ∧ queue.phase.toReset = []
  | .alarm => queue.timerfd.setting ≠ none

instance (queue : TimerQueue) : (action : Action) → Decidable (queue.Allowed action)
  | .newTimer _ | .addTimerInLoop _ _ | .finishCallbacks | .finishReset _ =>
      inferInstanceAs (Decidable (_ ∧ _))
  | .cancelInLoop _ => inferInstanceAs (Decidable queue.RunsUserCode)
  | .beginHandleRead _ => inferInstanceAs (Decidable (_ = _))
  | .runCallback | .resetNext | .alarm => inferInstanceAs (Decidable (_ ≠ _))

def step (queue : TimerQueue) : Action → Checked TimerQueue
  | .newTimer timer => return (queue.newTimer timer).2
  | .addTimerInLoop timer clock => queue.addTimerInLoop timer clock
  | .cancelInLoop timerId => queue.cancelInLoop timerId
  | .beginHandleRead now => queue.beginHandleRead now
  | .runCallback => queue.runCallback
  | .finishCallbacks => return queue.finishCallbacks
  | .resetNext => queue.resetNext
  | .finishReset clock => queue.finishReset clock
  | .alarm => return { queue with timerfd := { setting := none, expired := true } }

def machine : Machine TimerQueue Action where
  initial queue := queue = create
  allowed := Allowed
  step := step

instance (queue : TimerQueue) (action : Action) :
    Decidable (machine.allowed queue action) :=
  inferInstanceAs (Decidable (queue.Allowed action))

end TimerQueue

end Ccnet.Net
