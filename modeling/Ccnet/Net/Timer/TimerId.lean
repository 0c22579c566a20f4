import Ccnet.Net.Timer.Inversion
import Ccnet.Net.Timer.TimerSystem

/-! # The identifier of a timer added by another thread

`addTimer` reads the timer's sequence number after it has handed the timer to the
loop, which may free the timer before the read. -/

namespace Ccnet.Net

/-- The timers, and those of the calls of `addTimer` by other threads that have
returned from `runInLoop` and not yet read `timer->sequence()`. -/
structure AddTimerCalls where
  system : TimerSystem
  adding : List TimerPtr

namespace AddTimerCalls

def create : AddTimerCalls where
  system := .create
  adding := []

inductive Action
  /-- `runInLoop` in `addTimer`, by another thread, and its read of the number. -/
  | queueAddTimer (timer : TimerPtr)
  | returnTimerId (timer : TimerPtr)
  /-- `addTimer` in the loop thread: nothing comes between its two statements. -/
  | addTimer (timer : TimerPtr) (clock : Int)
  /-- Any other step. -/
  | other (action : TimerSystem.Action)

/-- The steps that are not part of `addTimer`, but for `new Timer`. -/
def IsOther : TimerSystem.Action → Prop
  | .addTimer _ _ | .queueAddTimer _ | .returnTimerId _ => False
  | _ => True

instance : (action : TimerSystem.Action) → Decidable (IsOther action)
  | .addTimer _ _ | .queueAddTimer _ | .returnTimerId _ => inferInstanceAs (Decidable False)
  | .newTimer _ | .cancel _ | .queueCancel _ | .swapFunctors | .runFunctor _ | .alarm
  | .beginHandleRead _ | .runCallback | .finishCallbacks | .resetNext | .finishReset _ =>
      inferInstanceAs (Decidable True)

def Allowed (calls : AddTimerCalls) : Action → Prop
  | .queueAddTimer timer => calls.system.Allowed (.queueAddTimer timer)
  | .returnTimerId timer => timer ∈ calls.adding
  | .addTimer timer clock => calls.system.Allowed (.addTimer timer clock)
  | .other action => IsOther action ∧ calls.system.Allowed action

instance (calls : AddTimerCalls) : (action : Action) → Decidable (calls.Allowed action)
  | .queueAddTimer timer =>
      inferInstanceAs (Decidable (calls.system.Allowed (.queueAddTimer timer)))
  | .returnTimerId timer => inferInstanceAs (Decidable (timer ∈ calls.adding))
  | .addTimer timer clock =>
      inferInstanceAs (Decidable (calls.system.Allowed (.addTimer timer clock)))
  | .other _ => inferInstanceAs (Decidable (_ ∧ _))

def step (calls : AddTimerCalls) : Action → Checked AddTimerCalls
  | .queueAddTimer timer => do
      let system ← calls.system.step (.queueAddTimer timer)
      return { system, adding := calls.adding ++ [timer] }
  | .returnTimerId timer => do
      let system ← calls.system.step (.returnTimerId timer)
      return { system, adding := calls.adding.filter (· ≠ timer) }
  | .addTimer timer clock => do
      let added ← calls.system.step (.addTimer timer clock)
      let system ← added.step (.returnTimerId timer)
      return { calls with system }
  | .other action => do
      let system ← calls.system.step action
      return { calls with system }

def machine : Machine AddTimerCalls Action where
  initial calls := calls = create
  allowed := Allowed
  step := step

instance (calls : AddTimerCalls) (action : Action) :
    Decidable (machine.allowed calls action) :=
  inferInstanceAs (Decidable (calls.Allowed action))

end AddTimerCalls

/-! ## What keeps a timer alive -/

namespace TimerQueue

variable {queue next : TimerQueue} {submitted returned : List Nat} {adding : List TimerPtr}

/-- No timer that a thread is still adding can be freed: one that `handleRead` has
taken out repeats, and none is cancelled before its identifier is known. -/
structure Held (queue : TimerQueue) (submitted returned : List Nat)
    (adding : List TimerPtr) : Prop where
  alive : ∀ pointer ∈ adding, ∃ timer, queue.live pointer.serial = some timer
  fresh : ∀ pointer ∈ queue.created, pointer.serial ∉ submitted →
    ∃ timer, queue.live pointer.serial = some timer
  created : ∀ pointer ∈ queue.created, pointer.serial ≤ queue.created.length
  old : ∀ serial ∈ submitted, serial ≤ queue.created.length
  timers : ∀ entry ∈ queue.timers, entry.timer.serial ∈ submitted
  numbered : ∀ active ∈ queue.activeTimers, active.sequence = active.timer.serial
  batch : ∀ entry ∈ queue.batch, entry.timer.serial ∈ submitted ∧
    ∀ pointer ∈ adding, pointer.serial = entry.timer.serial →
      ∀ timer, queue.live pointer.serial = some timer → timer.repeats = true
  canceling : ∀ active ∈ queue.cancelingTimers, active.sequence ∈ returned

theorem create_held : create.Held [] [] [] := by
  constructor <;> simp [create, TimerQueue.batch]

/-- A timer that no thread is still adding is freed. -/
theorem Held.free (held : queue.Held submitted returned adding) {serial : Nat}
    (isSubmitted : serial ∈ submitted) (notAdding : ∀ pointer ∈ adding, pointer.serial ≠ serial)
    (live : next.live = Function.update queue.live serial none)
    (created : next.created = queue.created)
    (timers : ∀ entry ∈ next.timers, entry ∈ queue.timers)
    (activeTimers : ∀ active ∈ next.activeTimers, active ∈ queue.activeTimers)
    (batch : ∀ entry ∈ next.batch, entry ∈ queue.batch)
    (cancelingTimers : next.cancelingTimers = queue.cancelingTimers) :
    next.Held submitted returned adding := by
  constructor
  case alive =>
    intro pointer member
    rw [live, Function.update_of_ne (notAdding pointer member)]
    exact held.alive pointer member
  case fresh =>
    intro pointer member notSubmitted
    have different : pointer.serial ≠ serial := by
      intro same
      rw [same] at notSubmitted
      exact notSubmitted isSubmitted
    rw [created] at member
    rw [live, Function.update_of_ne different]
    exact held.fresh pointer member notSubmitted
  case created => rw [created]; exact held.created
  case old => rw [created]; exact held.old
  case timers => exact fun entry member => held.timers entry (timers entry member)
  case numbered => exact fun active member => held.numbered active (activeTimers active member)
  case batch =>
    intro entry member
    rcases held.batch entry (batch entry member) with ⟨wasSubmitted, repeating⟩
    refine ⟨wasSubmitted, ?_⟩
    intro pointer isAdding same timer alive
    rw [live] at alive
    exact repeating pointer isAdding same timer (live_of_update_none alive)
  case canceling => rw [cancelingTimers]; exact held.canceling

/-- The calls of `addTimer` so far: which timers have been passed to `runInLoop`, which
identifiers have been returned, and which calls are between the two. -/
structure Calls (submitted returned : List Nat) (adding : List TimerPtr) : Prop where
  submits : ∀ pointer ∈ adding, pointer.serial ∈ submitted
  unreturned : ∀ pointer ∈ adding, pointer.serial ∉ returned
  returns : ∀ serial ∈ returned, serial ∈ submitted
  distinct : (adding.map fun pointer => pointer.serial).Nodup

theorem Held.newTimer (held : queue.Held submitted returned adding)
    (calls : Calls submitted returned adding) (timer : Timer) :
    (queue.newTimer timer).2.Held submitted returned adding := by
  have isOld : ∀ serial, serial ≤ queue.created.length →
      (queue.newTimer timer).2.live serial = queue.live serial := by
    intro serial bound
    have different : serial ≠ queue.created.length + 1 := by omega
    exact Function.update_of_ne different ..
  have addingOld : ∀ pointer ∈ adding, pointer.serial ≤ queue.created.length :=
    fun pointer member => held.old _ (calls.submits pointer member)
  constructor
  case alive =>
    intro pointer member
    rw [isOld _ (addingOld pointer member)]
    exact held.alive pointer member
  case fresh =>
    intro pointer member notSubmitted
    rcases List.mem_append.mp member with before | new
    · rw [isOld _ (held.created pointer before)]
      exact held.fresh pointer before notSubmitted
    · rw [List.mem_singleton.mp new]
      exact ⟨timer, Function.update_self ..⟩
  case created =>
    intro pointer member
    simp only [TimerQueue.newTimer, List.length_append, List.length_singleton]
    rcases List.mem_append.mp member with before | new
    · exact (held.created pointer before).trans (Nat.le_succ _)
    · rw [List.mem_singleton.mp new]
  case old =>
    intro serial member
    simp only [TimerQueue.newTimer, List.length_append, List.length_singleton]
    exact (held.old serial member).trans (Nat.le_succ _)
  case timers => exact held.timers
  case numbered => exact held.numbered
  case batch =>
    intro entry member
    rcases held.batch entry member with ⟨wasSubmitted, repeating⟩
    refine ⟨wasSubmitted, ?_⟩
    intro pointer isAdding same found alive
    rw [isOld _ (addingOld pointer isAdding)] at alive
    exact repeating pointer isAdding same found alive
  case canceling => exact held.canceling

theorem Held.addTimerInLoop (held : queue.Held submitted returned adding) {pointer : TimerPtr}
    {clock : Int} (isSubmitted : pointer.serial ∈ submitted)
    (ran : queue.addTimerInLoop pointer clock = .ok next) :
    next.Held submitted returned adding := by
  rcases addTimerInLoop_inversion ran with ⟨timer, _, kept, _⟩
  rw [kept]
  refine { held with timers := ?_, numbered := ?_ }
  · intro entry member
    rcases OrderedSet.mem_of_mem_insert member with new | old
    · rw [new]
      exact isSubmitted
    · exact held.timers entry old
  · intro active member
    rcases OrderedSet.mem_of_mem_insert member with new | old
    · rw [new]
    · exact held.numbered active old

theorem Held.cancelInLoop (held : queue.Held submitted returned adding)
    (calls : Calls submitted returned adding) {timerId : ActiveTimer}
    (isReturned : timerId.sequence ∈ returned)
    (ran : queue.cancelInLoop timerId = .ok next) : next.Held submitted returned adding := by
  rcases cancelInLoop_inversion ran with ⟨found, timer, search, _, rfl⟩ | rfl
  · rcases OrderedSet.find_eq_some_iff.mp search with ⟨member, sameKey⟩
    have serial : found.timer.serial = timerId.sequence := by
      rw [← held.numbered found member]
      simp only [ActiveTimer.key, toLex_inj, Prod.mk.injEq] at sameKey
      exact sameKey.2
    rw [← serial] at isReturned
    apply held.free (calls.returns _ isReturned)
    case notAdding =>
      intro pointer isAdding same
      rw [← same] at isReturned
      exact calls.unreturned pointer isAdding isReturned
    case live => rfl
    case created => rfl
    case timers => exact fun entry kept => (OrderedSet.mem_erase.mp kept).1
    case activeTimers => exact fun active kept => (OrderedSet.mem_erase.mp kept).1
    case batch => exact fun entry kept => kept
    case cancelingTimers => rfl
  · refine { held with canceling := ?_ }
    intro active member
    dsimp only at member
    split at member
    · rcases OrderedSet.mem_of_mem_insert member with new | old
      · rw [new]
        exact isReturned
      · exact held.canceling active old
    · exact held.canceling active member

theorem Held.beginHandleRead (held : queue.Held submitted returned adding) {now : Int}
    (repeating : ∀ entry ∈ queue.timers, entry.expiration ≤ now → ∀ pointer ∈ adding,
      pointer.serial = entry.timer.serial →
      ∀ timer, queue.live pointer.serial = some timer → timer.repeats = true)
    (ran : queue.beginHandleRead now = .ok next) : next.Held submitted returned adding := by
  rcases beginHandleRead_inversion ran with ⟨kept, activeTimers, _⟩
  rw [kept]
  refine { held with timers := ?_, numbered := ?_, batch := ?_, canceling := ?_ }
  · exact fun entry member => held.timers entry (OrderedSet.mem_eraseBelow.mp member).1
  · exact fun active member => held.numbered active (activeTimers active member)
  · intro entry member
    rcases mem_expiredAt.mp member with ⟨inTimers, before⟩
    rw [Entry.key, Prod.Lex.toLex_lt_toLex] at before
    have expired : entry.expiration ≤ now := by
      rcases before with earlier | ⟨same, _⟩
      · exact le_of_lt earlier
      · exact le_of_eq same
    exact ⟨held.timers entry inTimers, repeating entry inTimers expired⟩
  · simp

theorem Held.resetNext (held : queue.Held submitted returned adding)
    (calls : Calls submitted returned adding) (allowed : queue.Allowed .resetNext)
    (ran : queue.resetNext = .ok next) : next.Held submitted returned adding := by
  rcases TimerPhase.exists_of_toReset_ne allowed with ⟨now, entry, rest, phase⟩
  have batch : queue.batch = entry :: rest := by simp [TimerQueue.batch, phase]
  rcases held.batch entry (by simp [batch]) with ⟨isSubmitted, repeating⟩
  rcases resetNext_inversion phase ran with ⟨timer, alive, ⟨repeats, _, rfl⟩ | ⟨ended, rfl⟩⟩
  · have stillRepeats : (timer.restart now).repeats = true := by
      simp [Timer.restart, repeats]
    have stillAlive : ∀ serial, (∃ found, queue.live serial = some found) →
        ∃ found, Function.update queue.live entry.timer.serial (some (timer.restart now)) serial =
          some found := by
      intro serial wasAlive
      by_cases same : serial = entry.timer.serial
      · rw [same]
        exact ⟨_, Function.update_self ..⟩
      · rw [Function.update_of_ne same]
        exact wasAlive
    refine { held with alive := ?_, fresh := ?_, timers := ?_, numbered := ?_, batch := ?_ }
    · exact fun pointer isAdding => stillAlive _ (held.alive pointer isAdding)
    · exact fun pointer member notSubmitted =>
        stillAlive _ (held.fresh pointer member notSubmitted)
    · intro other member
      rcases OrderedSet.mem_of_mem_insert member with new | old
      · rw [new]
        exact isSubmitted
      · exact held.timers other old
    · intro active member
      rcases OrderedSet.mem_of_mem_insert member with new | old
      · rw [new]
      · exact held.numbered active old
    · intro other member
      rcases held.batch other (by rw [batch]; exact List.mem_cons_of_mem _ member) with
        ⟨otherSubmitted, otherRepeating⟩
      refine ⟨otherSubmitted, ?_⟩
      intro pointer isAdding same found foundAlive
      dsimp only at foundAlive
      by_cases isEntry : pointer.serial = entry.timer.serial
      · rw [isEntry, Function.update_self, Option.some.injEq] at foundAlive
        rw [← foundAlive]
        exact stillRepeats
      · rw [Function.update_of_ne isEntry] at foundAlive
        exact otherRepeating pointer isAdding same found foundAlive
  · apply held.free isSubmitted
    case notAdding =>
      intro pointer isAdding same
      have repeats := repeating pointer isAdding same timer (by rw [same]; exact alive)
      rcases Option.ne_none_iff_exists'.mp (ended repeats) with ⟨found, search⟩
      rcases OrderedSet.find_eq_some_iff.mp search with ⟨member, sameKey⟩
      have isReturned := held.canceling found member
      simp only [ActiveTimer.key, toLex_inj, Prod.mk.injEq] at sameKey
      rw [sameKey.2, ← same] at isReturned
      exact calls.unreturned pointer isAdding isReturned
    case live => rfl
    case created => rfl
    case timers => exact fun entry kept => kept
    case activeTimers => exact fun active kept => kept
    case batch =>
      intro other member
      rw [batch]
      exact List.mem_cons_of_mem _ member
    case cancelingTimers => rfl

/-- More timers have been passed on or returned, and fewer are being added. -/
theorem Held.mono (held : queue.Held submitted returned adding) {submitted' returned' : List Nat}
    {adding' : List TimerPtr} (submits : submitted ⊆ submitted') (returns : returned ⊆ returned')
    (adds : adding' ⊆ adding) (old : ∀ serial ∈ submitted', serial ≤ queue.created.length) :
    queue.Held submitted' returned' adding' where
  alive pointer member := held.alive pointer (adds member)
  fresh pointer member notSubmitted :=
    held.fresh pointer member fun before => notSubmitted (submits before)
  created := held.created
  old := old
  timers entry member := submits (held.timers entry member)
  numbered := held.numbered
  batch entry member := by
    rcases held.batch entry member with ⟨wasSubmitted, repeating⟩
    exact ⟨submits wasSubmitted, fun pointer isAdding => repeating pointer (adds isAdding)⟩
  canceling active member := returns (held.canceling active member)

/-- A timer that has not been passed on yet is being added from now on. -/
theorem Held.add (held : queue.Held submitted returned adding) {pointer : TimerPtr}
    (created : pointer ∈ queue.created) (notSubmitted : pointer.serial ∉ submitted) :
    queue.Held (submitted ++ [pointer.serial]) returned (adding ++ [pointer]) := by
  have old : ∀ serial ∈ submitted ++ [pointer.serial], serial ≤ queue.created.length := by
    intro serial member
    rcases List.mem_append.mp member with before | new
    · exact held.old serial before
    · rw [List.mem_singleton.mp new]
      exact held.created pointer created
  have more := held.mono (List.subset_append_left submitted [pointer.serial])
    (List.Subset.refl returned) (List.Subset.refl adding) old
  refine { more with alive := ?_, batch := ?_ }
  · intro other member
    rcases List.mem_append.mp member with before | new
    · exact held.alive other before
    · rw [List.mem_singleton.mp new]
      exact held.fresh pointer created notSubmitted
  · intro entry member
    rcases held.batch entry member with ⟨wasSubmitted, repeating⟩
    refine ⟨List.mem_append_left _ wasSubmitted, ?_⟩
    intro other isAdding same
    rcases List.mem_append.mp isAdding with before | new
    · exact repeating other before same
    · rw [List.mem_singleton.mp new] at same
      rw [← same] at wasSubmitted
      exact absurd wasSubmitted notSubmitted

/-- A step of the queue that leaves its timers alone. -/
theorem Held.of_fields (held : queue.Held submitted returned adding)
    (live : next.live = queue.live) (created : next.created = queue.created)
    (timers : next.timers = queue.timers) (activeTimers : next.activeTimers = queue.activeTimers)
    (cancelingTimers : next.cancelingTimers = queue.cancelingTimers)
    (batch : ∀ entry ∈ next.batch, entry ∈ queue.batch) :
    next.Held submitted returned adding := by
  constructor
  case alive => rw [live]; exact held.alive
  case fresh => rw [live, created]; exact held.fresh
  case created => rw [created]; exact held.created
  case old => rw [created]; exact held.old
  case timers => rw [timers]; exact held.timers
  case numbered => rw [activeTimers]; exact held.numbered
  case batch => rw [live]; exact fun entry member => held.batch entry (batch entry member)
  case canceling => rw [cancelingTimers]; exact held.canceling

end TimerQueue

namespace AddTimerCalls

variable {calls next : AddTimerCalls}

/-- A one-shot timer is not taken out by `handleRead` while the thread that adds it has
still to read its sequence number. -/
def FiresAfterReturn (calls : AddTimerCalls) : Action → Prop
  | .other (.beginHandleRead now) => ∀ entry ∈ calls.system.queue.timers.elements,
      entry.expiration ≤ now → ∀ pointer ∈ calls.adding,
        pointer.serial = entry.timer.serial →
          ∀ timer ∈ calls.system.queue.live pointer.serial, timer.repeats = true
  | _ => True

instance (calls : AddTimerCalls) :
    (action : Action) → Decidable (calls.FiresAfterReturn action)
  | .other (.beginHandleRead _) => inferInstanceAs (Decidable (∀ _ ∈ _, _))
  | .queueAddTimer _ | .returnTimerId _ | .addTimer _ _ | .other (.newTimer _)
  | .other (.addTimer _ _) | .other (.queueAddTimer _) | .other (.returnTimerId _)
  | .other (.cancel _) | .other (.queueCancel _) | .other .swapFunctors
  | .other (.runFunctor _) | .other .alarm | .other .runCallback | .other .finishCallbacks
  | .other .resetNext | .other (.finishReset _) => inferInstanceAs (Decidable True)

/-- A functor that adds a timer has been queued by `addTimer`, and one that cancels a
timer was made from a returned identifier. -/
def Noted (submitted returned : List Nat) : TimerFunctor → Prop
  | .addTimerInLoop timer => timer.serial ∈ submitted
  | .cancelInLoop timerId => timerId.sequence ∈ returned

structure Invariant (calls : AddTimerCalls) : Prop where
  held : calls.system.queue.Held calls.system.submitted calls.system.returned calls.adding
  ordered : TimerQueue.Calls calls.system.submitted calls.system.returned calls.adding
  noted : ∀ functor ∈ calls.system.functors.outstanding,
    Noted calls.system.submitted calls.system.returned functor

theorem create_invariant : create.Invariant where
  held := TimerQueue.create_held
  ordered := by constructor <;> simp [create, TimerSystem.create]
  noted := by simp [create, TimerSystem.create]

theorem Noted.mono {submitted returned submitted' returned' : List Nat} {functor : TimerFunctor}
    (noted : Noted submitted returned functor) (submits : submitted ⊆ submitted')
    (returns : returned ⊆ returned') : Noted submitted' returned' functor := by
  cases functor with
  | addTimerInLoop timer => exact submits noted
  | cancelInLoop timerId => exact returns noted

theorem Invariant.queueAddTimer (invariant : calls.Invariant) {timer : TimerPtr}
    (allowed : calls.Allowed (.queueAddTimer timer))
    (stepped : calls.step (.queueAddTimer timer) = .ok next) : next.Invariant := by
  cases stepped
  rcases allowed with ⟨created, notSubmitted⟩
  have ordered := invariant.ordered
  refine ⟨invariant.held.add created notSubmitted, ⟨?_, ?_, ?_, ?_⟩, ?_⟩
  · intro pointer member
    rcases List.mem_append.mp member with before | new
    · exact List.mem_append_left _ (ordered.submits pointer before)
    · rw [List.mem_singleton.mp new]
      exact List.mem_append_right _ List.mem_cons_self
  · intro pointer member isReturned
    rcases List.mem_append.mp member with before | new
    · exact ordered.unreturned pointer before isReturned
    · rw [List.mem_singleton.mp new] at isReturned
      exact notSubmitted (ordered.returns _ isReturned)
  · exact fun serial member => List.mem_append_left _ (ordered.returns serial member)
  · rw [List.map_append, List.nodup_append]
    refine ⟨ordered.distinct, List.nodup_singleton _, ?_⟩
    intro serial before other new same
    rcases List.mem_map.mp before with ⟨pointer, member, rfl⟩
    rw [List.map_singleton, List.mem_singleton] at new
    have isSubmitted := ordered.submits pointer member
    rw [same, new] at isSubmitted
    exact notSubmitted isSubmitted
  · intro functor member
    rw [FunctorQueue.outstanding_push, List.mem_append, List.mem_singleton] at member
    rcases member with before | new
    · exact (invariant.noted functor before).mono (List.subset_append_left _ _)
        (List.Subset.refl _)
    · rw [new]
      exact List.mem_append_right _ List.mem_cons_self

theorem Invariant.returnTimerId (invariant : calls.Invariant) {timer : TimerPtr}
    (allowed : calls.Allowed (.returnTimerId timer))
    (stepped : calls.step (.returnTimerId timer) = .ok next) : next.Invariant := by
  have ordered := invariant.ordered
  rcases Checked.bind_eq_ok_iff.mp stepped with ⟨system, read, result⟩
  cases result
  rcases Checked.bind_eq_ok_iff.mp read with ⟨sequence, numbered, returned⟩
  cases returned
  rw [(TimerQueue.sequence_eq_ok_iff.mp numbered).1]
  have fewer : calls.adding.filter (· ≠ timer) ⊆ calls.adding := List.filter_subset_self _
  refine ⟨invariant.held.mono (List.Subset.refl _) (List.subset_append_left _ _) fewer
    invariant.held.old, ⟨?_, ?_, ?_, ?_⟩, ?_⟩
  · exact fun pointer member => ordered.submits pointer (fewer member)
  · intro pointer member isReturned
    rcases List.mem_filter.mp member with ⟨wasAdding, different⟩
    rcases List.mem_append.mp isReturned with before | new
    · exact ordered.unreturned pointer wasAdding before
    · have same := List.inj_on_of_nodup_map ordered.distinct wasAdding allowed
        (List.mem_singleton.mp new)
      simp [same] at different
  · intro serial member
    rcases List.mem_append.mp member with before | new
    · exact ordered.returns serial before
    · rw [List.mem_singleton.mp new]
      exact ordered.submits timer allowed
  · exact ordered.distinct.sublist (List.filter_sublist.map _)
  · intro functor member
    exact (invariant.noted functor member).mono (List.Subset.refl _) (List.subset_append_left _ _)

theorem Invariant.addTimer (invariant : calls.Invariant) {timer : TimerPtr} {clock : Int}
    (allowed : calls.Allowed (.addTimer timer clock))
    (stepped : calls.step (.addTimer timer clock) = .ok next) : next.Invariant := by
  rcases allowed with ⟨_, created, notSubmitted⟩
  have ordered := invariant.ordered
  rcases Checked.bind_eq_ok_iff.mp stepped with ⟨added, addition, rest⟩
  rcases Checked.bind_eq_ok_iff.mp addition with ⟨queue, ran, isAdded⟩
  cases isAdded
  rcases Checked.bind_eq_ok_iff.mp rest with ⟨system, read, result⟩
  cases result
  rcases Checked.bind_eq_ok_iff.mp read with ⟨sequence, numbered, returned⟩
  cases returned
  rw [(TimerQueue.sequence_eq_ok_iff.mp numbered).1]
  have old : ∀ serial ∈ calls.system.submitted ++ [timer.serial],
      serial ≤ calls.system.queue.created.length := by
    intro serial member
    rcases List.mem_append.mp member with before | new
    · exact invariant.held.old serial before
    · rw [List.mem_singleton.mp new]
      exact invariant.held.created timer created
  have more := invariant.held.mono (List.subset_append_left _ [timer.serial])
    (List.subset_append_left _ [timer.serial]) (List.Subset.refl _) old
  refine ⟨more.addTimerInLoop (List.mem_append_right _ List.mem_cons_self) ran,
    ⟨?_, ?_, ?_, ordered.distinct⟩, ?_⟩
  · exact fun pointer member => List.mem_append_left _ (ordered.submits pointer member)
  · intro pointer member isReturned
    rcases List.mem_append.mp isReturned with before | new
    · exact ordered.unreturned pointer member before
    · have submits := ordered.submits pointer member
      rw [List.mem_singleton.mp new] at submits
      exact notSubmitted submits
  · intro serial member
    rcases List.mem_append.mp member with before | new
    · exact List.mem_append_left _ (ordered.returns serial before)
    · exact List.mem_append_right _ new
  · intro functor member
    exact (invariant.noted functor member).mono (List.subset_append_left _ _)
      (List.subset_append_left _ _)

/-- A step of the queue alone. -/
theorem Invariant.stepQueue (invariant : calls.Invariant) {action : TimerQueue.Action}
    {system : TimerSystem} (stepped : calls.system.stepQueue action = .ok system)
    (held : ∀ queue, calls.system.queue.step action = .ok queue →
      queue.Held calls.system.submitted calls.system.returned calls.adding) :
    Invariant { calls with system } := by
  rcases Checked.bind_eq_ok_iff.mp stepped with ⟨queue, ran, result⟩
  cases result
  exact ⟨held queue ran, invariant.ordered, invariant.noted⟩

theorem Invariant.cancelInLoop (invariant : calls.Invariant) {timerId : ActiveTimer}
    {system : TimerSystem} (isReturned : timerId.sequence ∈ calls.system.returned)
    (stepped : calls.system.cancelInLoop timerId = .ok system) :
    Invariant { calls with system } := by
  rcases Checked.bind_eq_ok_iff.mp stepped with ⟨queue, ran, result⟩
  cases result
  exact ⟨invariant.held.cancelInLoop invariant.ordered isReturned ran, invariant.ordered,
    invariant.noted⟩

theorem Invariant.other (invariant : calls.Invariant) {action : TimerSystem.Action}
    {system : TimerSystem} (allowed : calls.Allowed (.other action))
    (fires : calls.FiresAfterReturn (.other action))
    (stepped : calls.system.step action = .ok system) : Invariant { calls with system } := by
  have held := invariant.held
  cases action with
  | addTimer timer clock | queueAddTimer timer | returnTimerId timer => exact absurd allowed.1 id
  | newTimer timer =>
      apply invariant.stepQueue stepped
      intro queue ran
      cases ran
      exact held.newTimer invariant.ordered timer
  | cancel timerId => exact invariant.cancelInLoop allowed.2.2.2.2 stepped
  | queueCancel timerId =>
      cases stepped
      refine ⟨held, invariant.ordered, ?_⟩
      intro functor member
      rw [FunctorQueue.outstanding_push, List.mem_append, List.mem_singleton] at member
      rcases member with before | new
      · exact invariant.noted functor before
      · rw [new]
        exact allowed.2.2.2
  | swapFunctors =>
      cases stepped
      refine ⟨held, invariant.ordered, ?_⟩
      rw [FunctorQueue.outstanding_swap allowed.2.2]
      exact invariant.noted
  | runFunctor clock =>
      unfold TimerSystem.step TimerSystem.runFunctor at stepped
      dsimp only at stepped
      split at stepped
      · cases stepped
        exact invariant
      · rename_i timer rest taken
        have outstanding := FunctorQueue.outstanding_next taken
        have noted := invariant.noted (.addTimerInLoop timer) (by simp [outstanding])
        have restInvariant : Invariant { calls with
            system := { calls.system with functors := rest } } :=
          ⟨held, invariant.ordered, fun functor member =>
            invariant.noted functor (by simp [outstanding, member])⟩
        exact restInvariant.stepQueue stepped fun queue ran => held.addTimerInLoop noted ran
      · rename_i timerId rest taken
        have outstanding := FunctorQueue.outstanding_next taken
        have noted := invariant.noted (.cancelInLoop timerId) (by simp [outstanding])
        have restInvariant : Invariant { calls with
            system := { calls.system with functors := rest } } :=
          ⟨held, invariant.ordered, fun functor member =>
            invariant.noted functor (by simp [outstanding, member])⟩
        exact restInvariant.cancelInLoop noted stepped
  | alarm =>
      apply invariant.stepQueue stepped
      intro queue ran
      cases ran
      exact held.of_fields rfl rfl rfl rfl rfl fun _ member => member
  | beginHandleRead now =>
      exact invariant.stepQueue stepped fun queue ran => held.beginHandleRead fires ran
  | runCallback =>
      apply invariant.stepQueue stepped
      intro queue ran
      rcases TimerQueue.runCallback_inversion ran with ⟨kept, batch⟩
      apply held.of_fields
      case live => rw [kept]
      case created => rw [kept]
      case timers => rw [kept]
      case activeTimers => rw [kept]
      case cancelingTimers => rw [kept]
      case batch => rw [batch]; exact fun _ member => member
  | finishCallbacks =>
      apply invariant.stepQueue stepped
      intro queue ran
      cases ran
      rcases TimerQueue.finishCallbacks_fields calls.system.queue with ⟨kept, batch⟩
      apply held.of_fields
      case live => rw [kept]
      case created => rw [kept]
      case timers => rw [kept]
      case activeTimers => rw [kept]
      case cancelingTimers => rw [kept]
      case batch => rw [batch]; exact fun _ member => member
  | resetNext =>
      exact invariant.stepQueue stepped fun queue ran =>
        held.resetNext invariant.ordered allowed.2 ran
  | finishReset clock =>
      apply invariant.stepQueue stepped
      intro queue ran
      rw [(TimerQueue.finishReset_inversion ran).1]
      refine held.of_fields rfl rfl rfl rfl rfl ?_
      simp [TimerQueue.batch]

theorem step_invariant (action : Action) (invariant : calls.Invariant)
    (allowed : calls.Allowed action) (fires : calls.FiresAfterReturn action)
    (stepped : calls.step action = .ok next) : next.Invariant := by
  cases action with
  | queueAddTimer timer => exact invariant.queueAddTimer allowed stepped
  | returnTimerId timer => exact invariant.returnTimerId allowed stepped
  | addTimer timer clock => exact invariant.addTimer allowed stepped
  | other action =>
      rcases Checked.bind_eq_ok_iff.mp stepped with ⟨system, ran, result⟩
      cases result
      exact invariant.other allowed fires ran

/-! ## Every run -/

/-- If one-shot timers are taken out only after their identifiers were returned, every
thread that is adding a timer finds it alive. -/
theorem sequence_read_alive {calls : AddTimerCalls}
    (reachable : (machine.restrict FiresAfterReturn).Reachable calls) :
    ∀ pointer ∈ calls.adding, (∃ timer, calls.system.queue.live pointer.serial = some timer) ∧
      ∃ next, calls.step (.returnTimerId pointer) = .ok next := by
  have invariant : calls.Invariant := by
    refine reachable.invariant Invariant ?_ ?_
    · intro initial isInitial
      cases isInitial
      exact create_invariant
    · intro current action next invariant permitted stepped
      exact step_invariant action invariant permitted.1 permitted.2 stepped
  intro pointer isAdding
  rcases invariant.held.alive pointer isAdding with ⟨timer, alive⟩
  refine ⟨⟨timer, alive⟩, ?_⟩
  simp only [step, TimerSystem.step, TimerQueue.sequence_of_live alive, Checked.ok_bind]
  exact ⟨_, rfl⟩

/-- A repeating timer has fired already when its thread reads its number. -/
theorem sequence_read_alive_fired :
    ∃ calls, (machine.restrict FiresAfterReturn).Reachable calls ∧
      (calls.adding = [⟨8, 1⟩] ∧ calls.system.queue.starts = [(1, 1)]) ∧
      ∃ timer, calls.system.queue.live 1 = some timer := by
  have run := Machine.exists_reachable (machine.restrict FiresAfterReturn)
    (fun calls => calls.adding = [⟨8, 1⟩] ∧ calls.system.queue.starts = [(1, 1)]) rfl
    [.other (.newTimer ⟨8, 10, 5, true⟩), .queueAddTimer ⟨8, 1⟩, .other .swapFunctors,
      .other (.runFunctor 7), .other .alarm, .other (.beginHandleRead 10), .other .runCallback,
      .other .finishCallbacks, .other .resetNext, .other (.finishReset 11)]
    (by decide)
  rcases run with ⟨calls, reachable, adding, starts⟩
  exact ⟨calls, reachable, ⟨adding, starts⟩,
    (sequence_read_alive reachable ⟨8, 1⟩ (by rw [adding]; exact List.mem_cons_self)).1⟩

/-- The loop runs the functor, and the timer, and frees it, before the thread that added
it reads its number. -/
theorem sequence_read_after_free :
    ∃ calls, machine.Reachable calls ∧
      ∃ pointer ∈ calls.adding, calls.step (.returnTimerId pointer) = .error .useAfterFree := by
  have run := Machine.exists_reachable machine
    (fun calls => ∃ pointer ∈ calls.adding, calls.system.queue.live pointer.serial = none) rfl
    [.other (.newTimer ⟨8, 10, 0, false⟩), .queueAddTimer ⟨8, 1⟩, .other .swapFunctors,
      .other (.runFunctor 7), .other .alarm, .other (.beginHandleRead 10), .other .runCallback,
      .other .finishCallbacks, .other .resetNext]
    (by decide)
  rcases run with ⟨calls, reachable, pointer, isAdding, dead⟩
  refine ⟨calls, reachable, pointer, isAdding, ?_⟩
  simp [step, TimerSystem.step, TimerQueue.sequence, TimerQueue.deref, dead]

end AddTimerCalls

end Ccnet.Net
