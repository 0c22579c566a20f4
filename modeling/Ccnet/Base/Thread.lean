import Ccnet.Base.CountDownLatch

namespace Ccnet.Base

/-! `base/thread.cc`: a `Thread` object, the thread that owns it and the thread that it starts. The
started thread has pointers to `tid_` and `latch_` of the object, which its owner may destroy as
soon as `start` has returned. -/

abbrev LatchSystem := MutexSystem CountDownLatch Unit LatchCall LatchResult LatchPosition

/-- Where the owner of the object is. -/
inductive StarterPhase
  /-- In none of its functions. -/
  | idle
  /-- In `start`, before `latch_.wait()`. -/
  | starting
  /-- In `start`, at `latch_.wait()`. -/
  | waiting
  /-- In `pthread_join`. -/
  | joining
  /-- The object is destroyed. -/
  | gone
  deriving DecidableEq, Repr

/-- Where the started thread is in `runInThread`. -/
inductive RunnerPhase
  | absent
  /-- Before `*tid_ = tid()`. -/
  | created
  /-- Before `latch_->countDown()`. -/
  | numbered
  | counting
  /-- In `func_`. -/
  | running
  | finished
  deriving DecidableEq, Repr

/-- Whether the started thread has called `countDown`, and has returned. -/
def RunnerPhase.Shows : RunnerPhase → LatchPhase → Prop
  | .absent, counter | .created, counter | .numbered, counter => counter = .outside .idle
  | .counting, counter => counter ≠ .outside .idle
  | .running, counter | .finished, counter => counter = .outside .counted

/-- Whether the owner has called `wait`, and has returned. -/
def StarterPhase.Shows : StarterPhase → Bool → LatchPhase → Prop
  | .starting, _, waiter => waiter = .outside .idle
  | .waiting, _, waiter => waiter ≠ .outside .idle
  | .idle, started, waiter | .joining, started, waiter | .gone, started, waiter =>
      waiter = if started then .outside .waited else .outside .idle

/-- The object, if it is alive, and its two threads. In the latch, the owner has the number 0 and
the started thread the number 1. -/
structure ThreadSystem where
  alive : Bool
  started : Bool
  joined : Bool
  tid : Nat
  latch : LatchSystem
  starter : StarterPhase
  runner : RunnerPhase
  deriving DecidableEq, Repr

namespace ThreadSystem

def create : ThreadSystem where
  alive := true
  started := false
  joined := false
  tid := 0
  latch := .create (.create 1) [.idle, .idle]
  starter := .idle
  runner := .absent

/-- An access to a member of the object. -/
def touch (system : ThreadSystem) : Checked Unit :=
  if system.alive then return () else .error .useAfterFree

/-- `start`, up to `latch_.wait()`, where `created` is what becomes of `pthread_create`. -/
def start (system : ThreadSystem) (created : Bool) : Checked ThreadSystem := do
  system.touch
  check (system.started = false)
  if created then
    return { system with started := true, starter := .starting, runner := .created }
  else
    return { system with started := false }

def stepLatch (ids : ThreadIds) (system : ThreadSystem) (action : MutexSystem.Action LatchCall) :
    Checked ThreadSystem := do
  system.touch
  let latch ← (CountDownLatch.machine ids 1).step system.latch action
  return { system with latch }

def returnStart (system : ThreadSystem) : Checked ThreadSystem := do
  system.touch
  check (0 < system.tid)
  return { system with starter := .idle }

def join (system : ThreadSystem) : Checked ThreadSystem := do
  system.touch
  check (system.started = true)
  check (system.joined = false)
  return { system with joined := true, starter := .joining }

/-- The destructor, with that of the mutex in `latch_`. -/
def destroy (system : ThreadSystem) : Checked ThreadSystem := do
  system.touch
  check (system.latch.holder = 0)
  return { system with alive := false, starter := .gone }

/-- `*tid_ = tid()` in the started thread. -/
def setTid (ids : ThreadIds) (system : ThreadSystem) : Checked ThreadSystem := do
  system.touch
  return { system with tid := ids.tid 1, runner := .numbered }

/-! ## Runs -/

inductive Action
  | start (created : Bool)
  | callWait
  | returnStart
  | join
  | returnJoin
  | destroy
  | setTid
  | callCountDown
  /-- `countDown` has returned, and `func_` is called. -/
  | callFunc
  | finish
  /-- A step within `wait` or `countDown`. -/
  | latch (action : MutexSystem.Action LatchCall)
  deriving Repr

/-- A step that brings the owner closer to the end of `start`. -/
def Action.goesOn : Action → Bool
  | .callWait | .returnStart | .setTid | .callCountDown => true
  | .latch action => action.goesOn
  | .start _ | .join | .returnJoin | .destroy | .callFunc | .finish => false

/-- The owner calls `start` until a thread is created, and then `join` once at most; it destroys
the object when it is in none of its functions. -/
def Allowed (ids : ThreadIds) (system : ThreadSystem) : Action → Prop
  | .start _ => system.starter = .idle ∧ system.started = false
  | .callWait => system.starter = .starting
  | .returnStart =>
      system.starter = .waiting ∧ system.latch.threads[0]? = some (.outside .waited)
  | .join => system.starter = .idle ∧ system.started = true ∧ system.joined = false
  | .returnJoin => system.starter = .joining ∧ system.runner = .finished
  | .destroy => system.starter = .idle
  | .setTid => system.runner = .created
  | .callCountDown => system.runner = .numbered
  | .callFunc =>
      system.runner = .counting ∧ system.latch.threads[1]? = some (.outside .counted)
  | .finish => system.runner = .running
  | .latch action => action.isCall = false ∧
      (CountDownLatch.machine ids 1).allowed system.latch action

def step (ids : ThreadIds) (system : ThreadSystem) : Action → Checked ThreadSystem
  | .start created => system.start created
  | .callWait => ({ system with starter := .waiting } : ThreadSystem).stepLatch ids (.call 0 .wait)
  | .returnStart => system.returnStart
  | .join => system.join
  | .returnJoin => return { system with starter := .idle }
  | .destroy => system.destroy
  | .setTid => system.setTid ids
  | .callCountDown =>
      ({ system with runner := .counting } : ThreadSystem).stepLatch ids (.call 1 .countDown)
  | .callFunc => return { system with runner := .running }
  | .finish => return { system with runner := .finished }
  | .latch action => system.stepLatch ids action

def machine (ids : ThreadIds) : Machine ThreadSystem Action where
  initial system := system = create
  allowed := Allowed ids
  step := step ids

instance (ids : ThreadIds) (system : ThreadSystem) :
    (action : Action) → Decidable (system.Allowed ids action)
  | .start _ | .returnStart | .join | .returnJoin | .callFunc | .latch _ =>
      inferInstanceAs (Decidable (_ ∧ _))
  | .callWait | .destroy | .setTid | .callCountDown | .finish =>
      inferInstanceAs (Decidable (_ = _))

instance (ids : ThreadIds) (system : ThreadSystem) (action : Action) :
    Decidable ((machine ids).allowed system action) :=
  inferInstanceAs (Decidable (system.Allowed ids action))

/-! ## The latch of two threads -/

/-- Where a thread is that calls `wait` once. -/
inductive Waits : LatchPhase → Prop
  | idle : Waits (.outside .idle)
  | locking : Waits (.locking .wait)
  | locked : Waits (.locked .wait)
  | testWait : Waits (.inside .testWait)
  | sleep : Waits (.inside .sleep)
  | unassigned : Waits (.unassigned () .testWait)
  | blocked : Waits (.blocked () .testWait)
  | woken : Waits (.woken .testWait)
  | reassigning : Waits (.reassigning .testWait)
  | endWait : Waits (.inside .endWait)
  | unlocking : Waits (.unlocking .waited)
  | waited : Waits (.outside .waited)

/-- Where a thread is that calls `countDown` once, and the latch that this makes. -/
inductive Counts : CountDownLatch → LatchPhase → Prop
  | idle : Counts ⟨1, 0⟩ (.outside .idle)
  | locking : Counts ⟨1, 0⟩ (.locking .countDown)
  | locked : Counts ⟨1, 0⟩ (.locked .countDown)
  | decrement : Counts ⟨1, 0⟩ (.inside .decrement)
  | testZero : Counts ⟨0, 1⟩ (.inside .testZero)
  | notifyAll : Counts ⟨0, 1⟩ (.inside .notifyAll)
  | endCountDown : Counts ⟨0, 1⟩ (.inside .endCountDown)
  | unlocking : Counts ⟨0, 1⟩ (.unlocking .counted)
  | counted : Counts ⟨0, 1⟩ (.outside .counted)

/-- The loop in `wait` has ended. -/
def hasPassed : LatchPhase → Bool
  | .inside .endWait | .unlocking .waited | .outside .waited => true
  | _ => false

/-- The owner leaves the loop only when the started thread has left the latch. -/
structure LatchPair (latch : LatchSystem) (waiter counter : LatchPhase) : Prop where
  threads : latch.threads = [waiter, counter]
  waits : Waits waiter
  counts : Counts latch.shared counter
  passed : hasPassed waiter = true → counter = .outside .counted

namespace LatchPair

variable {ids : ThreadIds} {latch next : LatchSystem} {waiter counter : LatchPhase}

theorem thread_cases (pair : LatchPair latch waiter counter) {thread : Nat} {phase : LatchPhase}
    (isPhase : latch.threads[thread]? = some phase) :
    thread = 0 ∧ phase = waiter ∨ thread = 1 ∧ phase = counter := by
  rw [pair.threads] at isPhase
  match thread with
  | 0 => exact .inl ⟨rfl, (Option.some.inj isPhase).symm⟩
  | 1 => exact .inr ⟨rfl, (Option.some.inj isPhase).symm⟩

/-- The owner changes its phase. -/
theorem setWaiter (pair : LatchPair latch waiter counter) {phase : LatchPhase}
    (waits : Waits phase) (passed : hasPassed phase = true → counter = .outside .counted)
    (threads : next.threads = latch.threads.set 0 phase) (shared : next.shared = latch.shared) :
    LatchPair next phase counter where
  threads := by rw [threads, pair.threads]; rfl
  waits := waits
  counts := by rw [shared]; exact pair.counts
  passed := passed

/-- The started thread changes its phase. -/
theorem setCounter (pair : LatchPair latch waiter counter) {phase : LatchPhase}
    {shared : CountDownLatch} (counts : Counts shared phase)
    (notCounted : counter ≠ .outside .counted)
    (threads : next.threads = latch.threads.set 1 phase) (isShared : next.shared = shared) :
    LatchPair next waiter phase where
  threads := by rw [threads, pair.threads]; rfl
  waits := pair.waits
  counts := by rw [isShared]; exact counts
  passed hasPassed := absurd (pair.passed hasPassed) notCounted

/-- What a step of one of the two threads comes to. -/
inductive Steps (waiter counter : LatchPhase) (next : LatchSystem) : Prop
  | wait {after : LatchPhase} : waiter.isOutside = false → LatchPair next after counter →
      after ≠ .outside .idle → Steps waiter counter next
  | count {after : LatchPhase} : counter.isOutside = false → LatchPair next waiter after →
      after ≠ .outside .idle → Steps waiter counter next
  /-- The started thread wakes the owner. -/
  | wake {woken after : LatchPhase} : counter.isOutside = false → waiter.isOutside = false →
      woken.isOutside = false → LatchPair next woken after → after ≠ .outside .idle →
      Steps waiter counter next

/-- The owner tests the count. If it is down, the started thread has decremented it, and does not
have the mutex any more. -/
theorem step_test (pair : LatchPair latch (.inside .testWait) counter)
    (exclusive : latch.Exclusive ids) (threads : next.threads = latch.threads.set 0
      (.inside (if latch.shared.count > 0 then .sleep else .endWait)))
    (shared : next.shared = latch.shared) : Steps (.inside .testWait) counter next := by
  refine .wait rfl (pair.setWaiter ?_ ?_ threads shared) nofun
  · split
    · exact .sleep
    · exact .endWait
  · have counts := pair.counts
    have isWaiter : latch.threads[0]? = some (.inside .testWait) := by rw [pair.threads]; rfl
    have isCounter : latch.threads[1]? = some counter := by rw [pair.threads]; rfl
    have owner := exclusive.owns isWaiter rfl
    have notOwning : counter.isOwning ≠ true := by
      intro isOwning
      cases owner.symm.trans (exclusive.owns isCounter isOwning)
    generalize latch.shared = shared at counts
    intro hasPassed
    cases counts with
    | idle | locking | locked | decrement => cases hasPassed
    | testZero | notifyAll | endCountDown | unlocking => exact absurd rfl notOwning
    | counted => rfl

/-- A step in `countDown` that changes `count_`, or wakes the owner. -/
theorem step_count (pair : LatchPair latch waiter counter) {position last : LatchPosition}
    (isCounter : counter = .inside position) {after : CountDownLatch} {woken : List LatchPhase}
    (goes : CountDownLatch.Goes latch.shared latch.threads position after woken last)
    (isNext : next.shared = after) (threads : next.threads = woken.set 1 (.inside last)) :
    Steps waiter counter next := by
  have counts := pair.counts
  generalize isShared : latch.shared = shared at counts
  subst isCounter
  cases goes with
  | testWait => cases counts
  | decrement =>
      cases counts
      refine .count rfl (pair.setCounter .testZero nofun threads ?_) nofun
      rw [isNext, isShared]
      rfl
  | testZero =>
      cases counts
      rw [if_pos (congrArg CountDownLatch.count isShared)] at threads
      exact .count rfl (pair.setCounter .notifyAll nofun threads (isNext.trans isShared)) nofun
  | notifyAll =>
      cases counts
      have waits := pair.waits
      rw [pair.threads] at threads
      cases waits with
      | blocked =>
          refine .wake rfl rfl rfl ⟨threads, .woken, ?_, nofun⟩ nofun
          rw [isNext, isShared]
          exact .endCountDown
      | idle | locking | locked | testWait | sleep | unassigned | woken | reassigning | endWait
      | unlocking | waited =>
          refine .count rfl (pair.setCounter .endCountDown nofun ?_ (isNext.trans isShared))
            nofun
          rw [threads, pair.threads]
          rfl

theorem step (pair : LatchPair latch waiter counter) (exclusive : latch.Exclusive ids)
    {action : MutexSystem.Action LatchCall}
    (notCall : action.isCall = false)
    (step : MutexSystem.Step CountDownLatch.program ids latch action next) :
    Steps waiter counter next := by
  have counts := pair.counts
  have waits := pair.waits
  generalize isShared : latch.shared = shared at counts
  cases step with
  | call isPhase => cases notCall
  | lock isPhase isFree =>
      rcases pair.thread_cases isPhase with ⟨rfl, rfl⟩ | ⟨rfl, rfl⟩
      · cases waits with
        | locking => exact .wait rfl (pair.setWaiter .locked nofun rfl rfl) nofun
      · cases counts with
        | locking =>
            exact .count rfl (pair.setCounter .locked nofun rfl isShared) nofun
  | relock isPhase isFree =>
      rcases pair.thread_cases isPhase with ⟨rfl, rfl⟩ | ⟨rfl, rfl⟩
      · cases waits with
        | woken => exact .wait rfl (pair.setWaiter .reassigning nofun rfl rfl) nofun
      · cases counts
  | assign isPhase =>
      rcases pair.thread_cases isPhase with ⟨rfl, rfl⟩ | ⟨rfl, rfl⟩
      · cases waits with
        | locked => exact .wait rfl (pair.setWaiter .testWait nofun rfl rfl) nofun
      · cases counts with
        | locked =>
            exact .count rfl (pair.setCounter .decrement nofun rfl isShared) nofun
  | reassign isPhase =>
      rcases pair.thread_cases isPhase with ⟨rfl, rfl⟩ | ⟨rfl, rfl⟩
      · cases waits with
        | reassigning => exact .wait rfl (pair.setWaiter .testWait nofun rfl rfl) nofun
      · cases counts
  | proceed isPhase proceeds =>
      rcases pair.thread_cases isPhase with ⟨rfl, rfl⟩ | ⟨rfl, isCounter⟩
      · cases CountDownLatch.goes_of_proceeds proceeds with
        | testWait => exact pair.step_test exclusive rfl rfl
        | decrement | testZero | notifyAll => cases waits
      · exact pair.step_count isCounter.symm (CountDownLatch.goes_of_proceeds proceeds) rfl rfl
  | wait isPhase accessed =>
      rcases pair.thread_cases isPhase with ⟨rfl, rfl⟩ | ⟨rfl, rfl⟩
      · cases waits with
        | sleep =>
            cases accessed
            exact .wait rfl (pair.setWaiter .unassigned nofun rfl rfl) nofun
        | testWait | endWait => cases accessed
      · cases counts with
        | decrement | testZero | notifyAll | endCountDown => cases accessed
  | leave isPhase accessed =>
      rcases pair.thread_cases isPhase with ⟨rfl, rfl⟩ | ⟨rfl, rfl⟩
      · cases waits with
        | endWait =>
            cases accessed
            exact .wait rfl (pair.setWaiter .unlocking (fun _ => pair.passed rfl) rfl rfl) nofun
        | testWait | sleep => cases accessed
      · cases counts with
        | endCountDown =>
            cases accessed
            exact .count rfl (pair.setCounter .unlocking nofun rfl isShared) nofun
        | decrement | testZero | notifyAll => cases accessed
  | release isPhase =>
      rcases pair.thread_cases isPhase with ⟨rfl, rfl⟩ | ⟨rfl, rfl⟩
      · cases waits with
        | unlocking =>
            exact .wait rfl (pair.setWaiter .waited (fun _ => pair.passed rfl) rfl rfl) nofun
      · cases counts with
        | unlocking =>
            exact .count rfl (pair.setCounter .counted nofun rfl isShared) nofun
  | block isPhase =>
      rcases pair.thread_cases isPhase with ⟨rfl, rfl⟩ | ⟨rfl, rfl⟩
      · cases waits with
        | unassigned => exact .wait rfl (pair.setWaiter .blocked nofun rfl rfl) nofun
      · cases counts
  | wake isPhase =>
      rcases pair.thread_cases isPhase with ⟨rfl, rfl⟩ | ⟨rfl, rfl⟩
      · cases waits with
        | blocked => exact .wait rfl (pair.setWaiter .woken nofun rfl rfl) nofun
      · cases counts

end LatchPair

/-! ## The object outlives its use -/

variable {ids : ThreadIds} {system : ThreadSystem} {waiter counter : LatchPhase}

structure Sound (ids : ThreadIds) (system : ThreadSystem) (waiter counter : LatchPhase) :
    Prop where
  reachable : (CountDownLatch.machine ids 1).Reachable system.latch
  pair : LatchPair system.latch waiter counter
  starter : system.starter.Shows system.started waiter
  runner : system.runner.Shows counter
  alive : system.starter ≠ .gone → system.alive = true
  absent : system.runner = .absent ↔ system.started = false
  numbered : system.runner ≠ .absent → system.runner ≠ .created → system.tid = ids.tid 1
  present : system.starter = .starting ∨ system.starter = .waiting → system.started = true

theorem create_sound : create.Sound ids (.outside .idle) (.outside .idle) where
  reachable := .initial ⟨_, _, ⟨rfl, by decide⟩, rfl⟩
  pair := ⟨rfl, .idle, .idle, nofun⟩
  starter := rfl
  runner := rfl
  alive _ := rfl
  absent := iff_of_true rfl rfl
  numbered present := absurd rfl present
  present := nofun

theorem touch_bind {Next : Type} (alive : system.alive = true)
    (next : Unit → Checked Next) : (system.touch >>= next) = next () := by
  rw [touch, if_pos alive]
  rfl

theorem stepLatch_call (system : ThreadSystem) (alive : system.alive = true) {thread : Nat}
    {result : LatchResult} (call : LatchCall)
    (isPhase : system.latch.threads[thread]? = some (.outside result)) :
    system.stepLatch ids (.call thread call) =
      .ok { system with latch := system.latch.setThread thread (.locking call) } := by
  rw [stepLatch, touch_bind alive, CountDownLatch.machine, MutexSystem.step_call call isPhase]
  rfl

namespace Sound

variable {next : LatchSystem}

theorem exclusive (sound : system.Sound ids waiter counter) : system.latch.Exclusive ids :=
  MutexSystem.reachable_exclusive.2 system.latch sound.reachable

theorem call (sound : system.Sound ids waiter counter) {thread : Nat} {result : LatchResult}
    (call : LatchCall) (isPhase : system.latch.threads[thread]? = some (.outside result)) :
    (CountDownLatch.machine ids 1).Reachable (system.latch.setThread thread (.locking call)) := by
  have ran : (CountDownLatch.machine ids 1).step system.latch (.call thread call) = _ :=
    MutexSystem.step_call call isPhase
  refine sound.reachable.step ?_ ran
  exact MutexSystem.allowed_call call isPhase

/-- The owner has left `start`, or not called it. -/
theorem counter_of_done (sound : system.Sound ids waiter counter)
    (outside : waiter = if system.started then .outside .waited else .outside .idle) :
    waiter.isOutside = true ∧ counter.isOutside = true := by
  cases started : system.started with
  | true =>
      rw [started] at outside
      have passed := sound.pair.passed (by rw [outside]; rfl)
      rw [outside, passed]
      exact ⟨rfl, rfl⟩
  | false =>
      have idle := sound.runner
      rw [sound.absent.mpr started] at idle
      rw [started] at outside
      rw [outside, show counter = .outside .idle from idle]
      exact ⟨rfl, rfl⟩

/-- As long as one of the two threads is in the latch, or the started thread has still to call
`countDown`, the owner is in `start`. -/
theorem inStart (sound : system.Sound ids waiter counter)
    (uses : waiter.isOutside = false ∨ counter.isOutside = false ∨
      system.runner ≠ .absent ∧ counter = .outside .idle) :
    system.starter = .starting ∨ system.starter = .waiting := by
  have shows := sound.starter
  have done : waiter ≠ if system.started then .outside .waited else .outside .idle := by
    intro outside
    rcases sound.counter_of_done outside with ⟨waiterOutside, counterOutside⟩
    rcases uses with busy | busy | ⟨present, idle⟩
    · cases waiterOutside.symm.trans busy
    · cases counterOutside.symm.trans busy
    · have started : system.started = true := by
        cases started : system.started with
        | true => rfl
        | false => exact absurd (sound.absent.mpr started) present
      rw [started] at outside
      have passed := sound.pair.passed (by rw [outside]; rfl)
      cases idle.symm.trans passed
  cases isStarter : system.starter with
  | starting => exact .inl rfl
  | waiting => exact .inr rfl
  | idle | joining | gone =>
      rw [isStarter] at shows
      exact absurd shows done

theorem alive_of_inStart (sound : system.Sound ids waiter counter)
    (inStart : system.starter = .starting ∨ system.starter = .waiting) : system.alive = true := by
  apply sound.alive
  rcases inStart with isStarter | isStarter <;> rw [isStarter] <;> nofun

theorem start (sound : system.Sound ids waiter counter) (isIdle : system.starter = .idle)
    (notStarted : system.started = false) (created : Bool) :
    ∃ next, system.start created = .ok next ∧ ∃ waiter counter, next.Sound ids waiter counter := by
  have alive := sound.alive (by rw [isIdle]; nofun)
  have absent := sound.absent.mpr notStarted
  have waits := sound.starter
  have counts := sound.runner
  rw [isIdle, notStarted] at waits
  rw [absent] at counts
  unfold ThreadSystem.start
  rw [touch_bind alive, Checked.check_bind_of notStarted]
  cases created with
  | true =>
      exact ⟨_, rfl, waiter, counter, { sound with
        starter := waits
        runner := counts
        alive _ := alive
        absent := iff_of_false nofun nofun
        numbered _ other := absurd rfl other
        present _ := rfl }⟩
  | false =>
      refine ⟨_, rfl, waiter, counter, { sound with
        starter := ?_
        absent := iff_of_true absent rfl
        present := ?_ }⟩
      · rw [isIdle]
        exact waits
      · rw [isIdle]
        nofun

theorem getElem?_waiter (sound : system.Sound ids waiter counter) :
    system.latch.threads[0]? = some waiter := by
  rw [sound.pair.threads]
  rfl

theorem getElem?_counter (sound : system.Sound ids waiter counter) :
    system.latch.threads[1]? = some counter := by
  rw [sound.pair.threads]
  rfl

theorem callWait (sound : system.Sound ids waiter counter)
    (isStarting : system.starter = .starting) :
    ∃ next, system.step ids .callWait = .ok next ∧
      ∃ waiter counter, next.Sound ids waiter counter := by
  have alive := sound.alive_of_inStart (.inl isStarting)
  have present := sound.present (.inl isStarting)
  have idle := sound.starter
  rw [isStarting] at idle
  have isWaiter := sound.getElem?_waiter
  rw [show waiter = .outside .idle from idle] at isWaiter
  refine ⟨{ system with
      starter := .waiting
      latch := system.latch.setThread 0 (.locking .wait) },
    ?_, .locking .wait, counter, { sound with
    reachable := sound.call .wait isWaiter
    pair := sound.pair.setWaiter .locking nofun rfl rfl
    starter := nofun
    alive := fun _ => alive
    present := fun _ => present }⟩
  exact stepLatch_call { system with starter := .waiting } alive .wait isWaiter

theorem callCountDown (sound : system.Sound ids waiter counter)
    (isNumbered : system.runner = .numbered) :
    ∃ next, system.step ids .callCountDown = .ok next ∧
      ∃ waiter counter, next.Sound ids waiter counter := by
  have idle := sound.runner
  rw [isNumbered] at idle
  have idle : counter = .outside .idle := idle
  have inStart := sound.inStart (.inr (.inr ⟨by rw [isNumbered]; nofun, idle⟩))
  have alive := sound.alive_of_inStart inStart
  have present := sound.present inStart
  have isCounter := sound.getElem?_counter
  rw [idle] at isCounter
  have shared : system.latch.shared = ⟨1, 0⟩ := by
    have counts := sound.pair.counts
    rw [idle] at counts
    generalize system.latch.shared = shared at counts
    cases counts
    rfl
  refine ⟨{ system with
      runner := .counting
      latch := system.latch.setThread 1 (.locking .countDown) },
    ?_, waiter, .locking .countDown, { sound with
    reachable := sound.call .countDown isCounter
    pair := sound.pair.setCounter .locking (by rw [idle]; nofun) rfl shared
    runner := nofun
    absent := iff_of_false nofun (by rw [present]; nofun)
    numbered := fun _ _ => sound.numbered (by rw [isNumbered]; nofun) (by rw [isNumbered]; nofun) }⟩
  exact stepLatch_call { system with runner := .counting } alive .countDown isCounter

theorem returnStart (sound : system.Sound ids waiter counter)
    (isWaiting : system.starter = .waiting)
    (returned : system.latch.threads[0]? = some (.outside .waited)) :
    ∃ next, system.returnStart = .ok next ∧
      ∃ waiter counter, next.Sound ids waiter counter := by
  have alive := sound.alive_of_inStart (.inr isWaiting)
  have present := sound.present (.inr isWaiting)
  cases Option.some.inj (sound.getElem?_waiter.symm.trans returned)
  have counted := sound.pair.passed rfl
  have shows := sound.runner
  have numbered : system.tid = ids.tid 1 := by
    apply sound.numbered <;> intro isRunner <;> rw [isRunner, counted] at shows <;> cases shows
  have positive : 0 < system.tid := by
    rw [numbered]
    exact ids.positive 1
  unfold ThreadSystem.returnStart
  rw [touch_bind alive, Checked.check_bind_of positive]
  refine ⟨_, rfl, .outside .waited, counter, { sound with
    starter := ?_, alive := fun _ => alive, present := nofun }⟩
  rw [present]
  rfl

theorem destroy (sound : system.Sound ids waiter counter) (isIdle : system.starter = .idle) :
    ∃ next, system.destroy = .ok next ∧ ∃ waiter counter, next.Sound ids waiter counter := by
  have alive := sound.alive (by rw [isIdle]; nofun)
  have done := sound.starter
  rw [isIdle] at done
  rcases sound.counter_of_done done with ⟨waiterOutside, counterOutside⟩
  have unlocked : system.latch.holder = 0 := by
    apply sound.exclusive.holder_eq_zero
    rw [sound.pair.threads]
    simp [waiterOutside, counterOutside]
  unfold ThreadSystem.destroy
  rw [touch_bind alive, Checked.check_bind_of unlocked]
  exact ⟨_, rfl, waiter, counter, { sound with
    starter := done, alive := (absurd rfl ·), present := nofun }⟩

/-- A step within the latch. The thread that makes it is in `start`, or the owner is. -/
theorem stepLatch (sound : system.Sound ids waiter counter)
    {action : MutexSystem.Action LatchCall} (notCall : action.isCall = false)
    (allowed : (CountDownLatch.machine ids 1).allowed system.latch action) :
    ∃ next, system.stepLatch ids action = .ok next ∧
      ∃ waiter counter, next.Sound ids waiter counter := by
  rcases MutexSystem.step_cases sound.exclusive allowed with ⟨latch, ran, step⟩
  have ran : (CountDownLatch.machine ids 1).step system.latch action = .ok latch := ran
  have reachable := sound.reachable.step allowed ran
  have steps := sound.pair.step sound.exclusive notCall step
  have inStart : system.starter = .starting ∨ system.starter = .waiting := by
    cases steps with
    | wait busy _ _ => exact sound.inStart (.inl busy)
    | count busy _ _ | wake busy _ _ _ _ => exact sound.inStart (.inr (.inl busy))
  have waiting : waiter.isOutside = false → system.starter = .waiting := by
    intro busy
    refine inStart.resolve_left fun isStarting => ?_
    have shows := sound.starter
    rw [isStarting] at shows
    rw [show waiter = .outside .idle from shows] at busy
    cases busy
  have counting : counter.isOutside = false → system.runner = .counting := by
    intro busy
    have shows := sound.runner
    cases isRunner : system.runner with
    | counting => rfl
    | absent | created | numbered | running | finished =>
        rw [isRunner] at shows
        rw [show counter = _ from shows] at busy
        cases busy
  unfold ThreadSystem.stepLatch
  rw [touch_bind (sound.alive_of_inStart inStart), ran]
  cases steps with
  | wait busy pair notIdle =>
      refine ⟨_, rfl, _, counter, { sound with reachable, pair, starter := ?_ }⟩
      rw [waiting busy]
      exact notIdle
  | count busy pair notIdle =>
      refine ⟨_, rfl, waiter, _, { sound with reachable, pair, runner := ?_ }⟩
      rw [counting busy]
      exact notIdle
  | wake busy waiterBusy wokenBusy pair notIdle =>
      refine ⟨_, rfl, _, _, { sound with reachable, pair, starter := ?_, runner := ?_ }⟩
      · rw [waiting waiterBusy]
        rintro rfl
        cases wokenBusy
      · rw [counting busy]
        exact notIdle

theorem step (sound : system.Sound ids waiter counter) {action : Action}
    (allowed : system.Allowed ids action) :
    ∃ next, system.step ids action = .ok next ∧
      ∃ waiter counter, next.Sound ids waiter counter := by
  cases action with
  | start created => exact sound.start allowed.1 allowed.2 created
  | callWait => exact sound.callWait allowed
  | returnStart => exact sound.returnStart allowed.1 allowed.2
  | join =>
      rcases allowed with ⟨isIdle, started, notJoined⟩
      have alive := sound.alive (by rw [isIdle]; nofun)
      have done := sound.starter
      rw [isIdle] at done
      have ran : system.step ids .join =
          .ok { system with joined := true, starter := .joining } := by
        rw [ThreadSystem.step, join, touch_bind alive, Checked.check_bind_of started,
          Checked.check_bind_of notJoined]
        rfl
      exact ⟨_, ran, waiter, counter, { sound with
        starter := done, alive := fun _ => alive, present := nofun }⟩
  | returnJoin =>
      have done := sound.starter
      rw [allowed.1] at done
      have alive := sound.alive (by rw [allowed.1]; nofun)
      exact ⟨_, rfl, waiter, counter, { sound with
        starter := done, alive := fun _ => alive, present := nofun }⟩
  | destroy => exact sound.destroy allowed
  | setTid =>
      have isCreated : system.runner = .created := allowed
      have idle := sound.runner
      rw [isCreated] at idle
      have inStart := sound.inStart (.inr (.inr ⟨by rw [isCreated]; nofun, idle⟩))
      have started := sound.present inStart
      have ran : system.step ids .setTid =
          .ok { system with tid := ids.tid 1, runner := .numbered } := by
        rw [ThreadSystem.step, setTid, touch_bind (sound.alive_of_inStart inStart)]
        rfl
      exact ⟨_, ran, waiter, counter, { sound with
        runner := idle
        absent := iff_of_false nofun (by rw [started]; nofun)
        numbered _ _ := rfl }⟩
  | callCountDown => exact sound.callCountDown allowed
  | callFunc =>
      rcases allowed with ⟨isCounting, returned⟩
      cases Option.some.inj (sound.getElem?_counter.symm.trans returned)
      exact ⟨_, rfl, waiter, _, { sound with
        runner := rfl
        absent := iff_of_false nofun
          fun notStarted => nomatch isCounting.symm.trans (sound.absent.mpr notStarted)
        numbered _ _ := sound.numbered (by rw [isCounting]; nofun) (by rw [isCounting]; nofun) }⟩
  | finish =>
      have isRunning : system.runner = .running := allowed
      have counted := sound.runner
      rw [isRunning] at counted
      exact ⟨_, rfl, waiter, counter, { sound with
        runner := counted
        absent := iff_of_false nofun
          fun notStarted => nomatch isRunning.symm.trans (sound.absent.mpr notStarted)
        numbered _ _ := sound.numbered (by rw [isRunning]; nofun) (by rw [isRunning]; nofun) }⟩
  | latch action => exact sound.stepLatch allowed.1 allowed.2

/-- A thread that is in the latch, and not blocked, can go on there, or another can. -/
theorem exists_latch_action (sound : system.Sound ids waiter counter) {phase : LatchPhase}
    (member : phase ∈ system.latch.threads) (busy : phase.isOutside = false)
    (awake : phase.isBlocked = false) :
    ∃ action : Action, action.goesOn = true ∧ system.Allowed ids action := by
  have some : ∃ action : MutexSystem.Action LatchCall, action.goesOn = true ∧
      (CountDownLatch.machine ids 1).allowed system.latch action :=
    sound.exclusive.exists_action member busy awake
  rcases some with ⟨action, goesOn, allowed⟩
  refine ⟨.latch action, goesOn, ?_, allowed⟩
  cases action with
  | call thread call => cases goesOn
  | lock _ | assign _ | access _ _ | release _ | block _ | wake _ | relock _ => rfl

/-- When both threads have done with the latch, the owner is not blocked there. -/
theorem not_blocked_of_counted (sound : system.Sound ids waiter counter)
    (counted : counter = .outside .counted) : waiter.isBlocked = false := by
  apply Bool.eq_false_iff.mpr
  intro isBlocked
  have counts := sound.pair.counts
  rw [counted] at counts
  have isFree : system.latch.mutex = none := by
    cases isOwner : system.latch.mutex with
    | none => rfl
    | some thread =>
        have owns := (sound.exclusive.owner thread).mpr isOwner
        rcases (Option.any_eq_true _ _).mp owns with ⟨phase, isPhase, isOwning⟩
        rcases sound.pair.thread_cases isPhase with ⟨-, rfl⟩ | ⟨-, rfl⟩
        · cases phase with
          | blocked _ _ => cases isOwning
          | outside _ | locking _ | locked _ | inside _ | unlocking _ | unassigned _ _ | woken _
          | reassigning _ => cases isBlocked
        · rw [counted] at isOwning
          cases isOwning
  have quiet := ((CountDownLatch.outline 1).holds (CountDownLatch.outline_initial 1)
    sound.reachable).1 isFree
  have down : system.latch.shared = ⟨0, 1⟩ := by
    generalize system.latch.shared = shared at counts
    cases counts
    rfl
  rw [down] at quiet
  have awake := (quiet (by decide)).2 (by decide) waiter
    (List.mem_of_getElem? sound.getElem?_waiter)
  cases isBlocked.symm.trans awake

/-- The owner is not blocked for ever: some thread can go on as long as it is in `start`. -/
theorem exists_action (sound : system.Sound ids waiter counter)
    (inStart : system.starter = .starting ∨ system.starter = .waiting) :
    ∃ action : Action, action.goesOn = true ∧ system.Allowed ids action := by
  have started := sound.present inStart
  have memberWaiter := List.mem_of_getElem? sound.getElem?_waiter
  have memberCounter := List.mem_of_getElem? sound.getElem?_counter
  rcases inStart with isStarting | isWaiting
  · exact ⟨.callWait, rfl, isStarting⟩
  have shows := sound.starter
  rw [isWaiting] at shows
  by_cases counterIdle : counter = .outside .idle
  · -- The started thread has still to call `countDown`.
    have runner := sound.runner
    cases isRunner : system.runner with
    | created => exact ⟨.setTid, rfl, isRunner⟩
    | numbered => exact ⟨.callCountDown, rfl, isRunner⟩
    | absent => cases started.symm.trans (sound.absent.mp isRunner)
    | counting =>
        rw [isRunner] at runner
        exact absurd counterIdle runner
    | running | finished =>
        rw [isRunner] at runner
        cases counterIdle.symm.trans runner
  · by_cases counterBusy : counter.isOutside = false
    · have awake : counter.isBlocked = false := by
        have counts := sound.pair.counts
        generalize system.latch.shared = shared at counts
        cases counts <;> rfl
      exact sound.exists_latch_action memberCounter counterBusy awake
    · have counted : counter = .outside .counted := by
        have counts := sound.pair.counts
        generalize system.latch.shared = shared at counts
        cases counts with
        | counted => rfl
        | idle => exact absurd rfl counterIdle
        | locking | locked | decrement | testZero | notifyAll | endCountDown | unlocking =>
            exact absurd rfl counterBusy
      by_cases waiterBusy : waiter.isOutside = false
      · exact sound.exists_latch_action memberWaiter waiterBusy
          (sound.not_blocked_of_counted counted)
      · have waited : waiter = .outside .waited := by
          have waits := sound.pair.waits
          cases waits with
          | waited => rfl
          | idle => exact absurd rfl shows
          | locking | locked | testWait | sleep | unassigned | blocked | woken | reassigning
          | endWait | unlocking => exact absurd rfl waiterBusy
        exact ⟨.returnStart, rfl, isWaiting, waited ▸ sound.getElem?_waiter⟩

end Sound

theorem reachable_sound (ids : ThreadIds) : (machine ids).Safe ∧
    ∀ system, (machine ids).Reachable system →
      ∃ waiter counter, system.Sound ids waiter counter := by
  refine Machine.safe_of_invariant
    (fun system => ∃ waiter counter, Sound ids system waiter counter) ?_ ?_
  · rintro _ rfl
    exact ⟨_, _, create_sound⟩
  · rintro system action ⟨waiter, counter, sound⟩ allowed
    exact sound.step allowed

/-- However the two threads are interleaved, none of them uses the object after it was destroyed
and no assertion fails. As long as the owner is in `start` a thread can go on; when it has left it,
`tid_` is the number of the started thread, which has done with the latch. -/
theorem start_handshake (reachable : (machine ids).Reachable system) :
    (∀ action, system.Allowed ids action → ∃ next, system.step ids action = .ok next) ∧
    (system.starter = .starting ∨ system.starter = .waiting →
      ∃ action : Action, action.goesOn = true ∧ system.Allowed ids action) ∧
    (system.started = true → system.starter ≠ .starting → system.starter ≠ .waiting →
      system.tid = ids.tid 1 ∧ system.latch.threads = [.outside .waited, .outside .counted]) := by
  rcases (reachable_sound ids).2 system reachable with ⟨waiter, counter, sound⟩
  refine ⟨(reachable_sound ids).1 system reachable, sound.exists_action, ?_⟩
  intro started notStarting notWaiting
  have shows := sound.starter
  have waited : waiter = .outside .waited := by
    cases isStarter : system.starter with
    | starting => exact absurd isStarter notStarting
    | waiting => exact absurd isStarter notWaiting
    | idle | joining | gone =>
        rw [isStarter, started] at shows
        exact shows
  have counted := sound.pair.passed (by rw [waited]; rfl)
  refine ⟨?_, by rw [sound.pair.threads, waited, counted]⟩
  have runner := sound.runner
  apply sound.numbered <;> intro isRunner <;> rw [isRunner, counted] at runner <;> cases runner

/-- The owner has waited for the latch and destroyed the object, and the started thread has not yet
returned from `countDown`. -/
theorem start_handshake_destroyed :
    let ids : ThreadIds := ⟨(· + 1), Nat.succ_pos, fun _ _ => Nat.succ.inj⟩
    ∃ system, (machine ids).Reachable system ∧ system.alive = false ∧ system.runner = .counting ∧
      system.tid = 2 ∧ ∀ action, system.Allowed ids action →
        ∃ next, system.step ids action = .ok next := by
  intro ids
  have run := Machine.exists_reachable (machine ids)
    (fun system => system.alive = false ∧ system.runner = .counting ∧ system.started = true ∧
      system.starter = .gone)
    rfl
    [.start false, .start true, .callWait, .setTid, .latch (.lock 0), .latch (.assign 0),
      .latch (.access 0 none), .latch (.access 0 none), .latch (.block 0), .callCountDown,
      .latch (.lock 1), .latch (.assign 1), .latch (.access 1 none), .latch (.access 1 none),
      .latch (.access 1 none), .latch (.access 1 none), .latch (.release 1), .latch (.relock 0),
      .latch (.assign 0), .latch (.access 0 none), .latch (.access 0 none), .latch (.release 0),
      .returnStart, .destroy]
    (by decide +kernel)
  rcases run with ⟨system, reachable, dead, counting, started, gone⟩
  rcases start_handshake reachable with ⟨safe, _, done⟩
  have numbered := (done started (by rw [gone]; nofun) (by rw [gone]; nofun)).1
  exact ⟨system, reachable, dead, counting, numbered, safe⟩

end ThreadSystem

end Ccnet.Base
