import Ccnet.Base.Atomicity

namespace Ccnet.Base

/-! `base/count_down_latch.cc`, interleaved at every access to `count_`. -/

/-- `downs` is how often `count_` was decremented. -/
structure CountDownLatch where
  count : Int
  downs : Nat
  deriving DecidableEq, Repr

inductive LatchCall
  | wait
  | countDown
  | getCount
  deriving DecidableEq, Repr

/-- What a thread has done last with the latch. -/
inductive LatchResult
  | idle
  | waited
  | counted
  | got (count : Int)
  deriving DecidableEq, Repr

inductive LatchPosition
  /-- `while (count_ > 0)` -/
  | testWait
  /-- `condition_.wait()` -/
  | sleep
  | endWait
  /-- `--count_` -/
  | decrement
  /-- `if (count_ == 0)` -/
  | testZero
  | notifyAll
  | endCountDown
  /-- `return count_` -/
  | read
  deriving DecidableEq, Repr

abbrev LatchPhase := LockPhase Unit LatchCall LatchResult LatchPosition

namespace CountDownLatch

def create (count : Int) : CountDownLatch where
  count
  downs := 0

/-- `--count_` of an `int`, modulo its number of values. -/
def decremented (count : Int) : Int := (count + 2147483647) % 4294967296 - 2147483648

def program : Guarded CountDownLatch Unit LatchCall LatchResult LatchPosition where
  enter
    | .wait => .testWait
    | .countDown => .decrement
    | .getCount => .read
  access latch
    | .testWait => (latch, .go (if latch.count > 0 then .sleep else .endWait))
    | .sleep => (latch, .wait () .testWait)
    | .endWait => (latch, .leave .waited)
    | .decrement => (⟨decremented latch.count, latch.downs + 1⟩, .go .testZero)
    | .testZero => (latch, .go (if latch.count = 0 then .notifyAll else .endCountDown))
    | .notifyAll => (latch, .notifyAll () .endCountDown)
    | .endCountDown => (latch, .leave .counted)
    | .read => (latch, .leave (.got latch.count))

/-- Any number of threads share a latch with the given count. -/
def machine (ids : ThreadIds) (count : Int) :
    Machine (MutexSystem CountDownLatch Unit LatchCall LatchResult LatchPosition)
      (MutexSystem.Action LatchCall) :=
  MutexSystem.machine program ids fun latch results =>
    latch = create count ∧ ∀ result ∈ results, result = .idle

instance (ids : ThreadIds) (count : Int)
    (system : MutexSystem CountDownLatch Unit LatchCall LatchResult LatchPosition)
    (action : MutexSystem.Action LatchCall) :
    Decidable ((machine ids count).allowed system action) :=
  inferInstanceAs (Decidable ((MutexSystem.machine _ _ _).allowed system action))

/-! ## The proof outline -/

variable {count : Int} {latch : CountDownLatch} {threads : List LatchPhase}

/-- What a thread that goes on in a region does. -/
inductive Goes (latch : CountDownLatch) (threads : List LatchPhase) :
    LatchPosition → CountDownLatch → List LatchPhase → LatchPosition → Prop
  | testWait : Goes latch threads .testWait latch threads
      (if latch.count > 0 then .sleep else .endWait)
  | decrement : Goes latch threads .decrement ⟨decremented latch.count, latch.downs + 1⟩ threads
      .testZero
  | testZero : Goes latch threads .testZero latch threads
      (if latch.count = 0 then .notifyAll else .endCountDown)
  | notifyAll : Goes latch threads .notifyAll latch ((MutexSystem.waiters ()).notifyAll threads)
      .endCountDown

theorem goes_of_proceeds {position last : LatchPosition} {after : CountDownLatch}
    {woken : List LatchPhase}
    (proceeds : MutexSystem.Proceeds program latch threads position after woken last) :
    Goes latch threads position after woken last := by
  cases proceeds with
  | go accessed =>
      cases position with
      | testWait | decrement | testZero =>
          cases accessed
          constructor
      | sleep | endWait | notifyAll | endCountDown | read => cases accessed
  | notify accessed _ => cases position <;> cases accessed
  | notifyAll accessed =>
      cases position with
      | notifyAll =>
          cases accessed
          exact .notifyAll
      | testWait | sleep | endWait | decrement | testZero | endCountDown | read => cases accessed

/-- The loop of `wait` is entered again wherever a thread was blocked. -/
def AtTest : LatchPhase → Prop
  | .blocked _ position | .woken position => position = .testWait
  | .outside _ | .locking _ | .locked _ | .inside _ | .unlocking _ | .unassigned _ _
  | .reassigning _ => True

/-- The count has not been decremented below the smallest `int`. -/
def NoOverflow (count : Int) (latch : CountDownLatch) : Prop :=
  count ≤ 2147483647 ∧ latch.downs ≤ count + 2147483648

instance (count : Int) (latch : CountDownLatch) : Decidable (NoOverflow count latch) :=
  inferInstanceAs (Decidable (_ ∧ _))

/-- What holds until the count overflows. -/
structure Counted (count : Int) (latch : CountDownLatch) (threads : List LatchPhase) : Prop where
  count : latch.count = count - latch.downs
  waited : .outside .waited ∈ threads → latch.count ≤ 0
  atTest : ∀ phase ∈ threads, AtTest phase

def NoneBlocked (threads : List LatchPhase) : Prop := ∀ phase ∈ threads, phase.isBlocked = false

/-- What holds at a position beside that. -/
def At (latch : CountDownLatch) (threads : List LatchPhase) : LatchPosition → Prop
  | .testWait | .decrement | .endCountDown | .read => latch.count ≤ 0 → NoneBlocked threads
  | .sleep => 0 < latch.count
  | .endWait => latch.count ≤ 0 ∧ NoneBlocked threads
  | .testZero => latch.count < 0 → NoneBlocked threads
  | .notifyAll => latch.count = 0

theorem Counted.set (counted : Counted count latch threads) (thread : Nat) {phase : LatchPhase}
    (waited : phase = .outside .waited → latch.count ≤ 0) (atTest : AtTest phase) :
    Counted count latch (threads.set thread phase) where
  count := counted.count
  waited member := by
    rcases List.mem_or_eq_of_mem_set member with earlier | new
    · exact counted.waited earlier
    · exact waited new.symm
  atTest other member := by
    rcases List.mem_or_eq_of_mem_set member with earlier | rfl
    · exact counted.atTest other earlier
    · exact atTest

theorem NoneBlocked.set (none : NoneBlocked threads) (thread : Nat) {phase : LatchPhase}
    (awake : phase.isBlocked = false) : NoneBlocked (threads.set thread phase) := by
  intro other member
  rcases List.mem_or_eq_of_mem_set member with earlier | rfl
  · exact none other earlier
  · exact awake

theorem noneBlocked_notifyAll (threads : List LatchPhase) :
    NoneBlocked ((MutexSystem.waiters ()).notifyAll threads) := by
  intro phase member
  rcases List.mem_map.mp member with ⟨before, -, rfl⟩
  cases before with
  | blocked cond position => rfl
  | outside _ | locking _ | locked _ | inside _ | unlocking _ | unassigned _ _ | woken _
  | reassigning _ => rfl

theorem Counted.notifyAll (counted : Counted count latch threads) :
    Counted count latch ((MutexSystem.waiters ()).notifyAll threads) where
  count := counted.count
  waited member := by
    rcases List.mem_map.mp member with ⟨before, earlier, same⟩
    cases before with
    | outside result =>
        cases same
        exact counted.waited earlier
    | blocked cond position => cases same
    | locking _ | locked _ | inside _ | unlocking _ | unassigned _ _ | woken _
    | reassigning _ => cases same
  atTest phase member := by
    rcases List.mem_map.mp member with ⟨before, earlier, rfl⟩
    have atTest := counted.atTest before earlier
    cases before with
    | blocked cond position => exact atTest
    | outside _ | locking _ | locked _ | inside _ | unlocking _ | unassigned _ _ | woken _
    | reassigning _ => exact atTest

theorem Goes.noOverflow {position last : LatchPosition} {after : CountDownLatch}
    {woken : List LatchPhase} (goes : Goes latch threads position after woken last)
    (noOverflow : NoOverflow count after) : NoOverflow count latch := by
  rcases noOverflow with ⟨isInt, downs⟩
  cases goes with
  | testWait | testZero | notifyAll => exact ⟨isInt, downs⟩
  | decrement =>
      dsimp only at downs
      exact ⟨isInt, by omega⟩

theorem decremented_eq (isCount : latch.count = count - latch.downs)
    (noOverflow : NoOverflow count ⟨decremented latch.count, latch.downs + 1⟩) :
    decremented latch.count = latch.count - 1 := by
  rcases noOverflow with ⟨isInt, downs⟩
  dsimp only at downs
  unfold decremented
  omega

def outline (count : Int) : Outline program where
  Quiet latch threads := NoOverflow count latch →
    Counted count latch threads ∧ (latch.count ≤ 0 → NoneBlocked threads)
  Inner latch threads position := NoOverflow count latch →
    Counted count latch threads ∧ At latch threads position
  call _ quiet _ noOverflow :=
    ⟨(quiet noOverflow).1.set _ nofun trivial, fun down => ((quiet noOverflow).2 down).set _ rfl⟩
  wake := by
    intro latch threads thread cond position quiet isPhase noOverflow
    replace quiet := quiet noOverflow
    have atTest : AtTest (.blocked cond position) :=
      quiet.1.atTest _ (List.mem_of_getElem? isPhase)
    exact ⟨quiet.1.set _ nofun atTest, fun down => (quiet.2 down).set _ rfl⟩
  enter := by
    intro latch threads thread phase start quiet isPhase resumes noOverflow
    replace quiet := quiet noOverflow
    have atTest := quiet.1.atTest phase (List.mem_of_getElem? isPhase)
    refine ⟨quiet.1, ?_⟩
    cases phase with
    | locking call =>
        cases resumes
        cases call with
        | wait | countDown | getCount => exact quiet.2
    | woken position =>
        cases resumes
        cases atTest
        exact quiet.2
    | outside _ | locked _ | inside _ | unlocking _ | unassigned _ _ | blocked _ _
    | reassigning _ => cases resumes
  proceed := by
    intro latch threads position after woken next inner proceeds noOverflow
    have monotone : NoOverflow count latch := (goes_of_proceeds proceeds).noOverflow noOverflow
    rcases inner monotone with ⟨counted, holds⟩
    cases goes_of_proceeds proceeds with
    | testWait =>
        refine ⟨counted, ?_⟩
        split
        · assumption
        · rename_i down
          exact ⟨Int.not_lt.mp down, holds (Int.not_lt.mp down)⟩
    | decrement =>
        have exact := decremented_eq counted.count noOverflow
        refine ⟨⟨?_, fun waited => ?_, counted.atTest⟩, fun below => ?_⟩
        · have same := counted.count
          dsimp only
          omega
        · have before := counted.waited waited
          dsimp only
          omega
        · apply holds
          dsimp only at below
          omega
    | testZero =>
        refine ⟨counted, ?_⟩
        split
        · assumption
        · rename_i notZero
          exact fun down => holds (by omega)
    | notifyAll => exact ⟨counted.notifyAll, fun _ => noneBlocked_notifyAll threads⟩
  leave := by
    intro latch threads position after thread phase start result inner isPhase resumes accessed
      noOverflow
    cases position with
    | endWait =>
        cases accessed
        rcases inner noOverflow with ⟨counted, holds⟩
        exact ⟨counted.set _ (fun _ => holds.1) trivial, fun _ => holds.2.set _ rfl⟩
    | endCountDown | read =>
        cases accessed
        rcases inner noOverflow with ⟨counted, holds⟩
        exact ⟨counted.set _ nofun trivial, fun down => (holds down).set _ rfl⟩
    | testWait | sleep | decrement | testZero | notifyAll => cases accessed
  block := by
    intro latch threads position after thread phase start cond next inner isPhase resumes accessed
      noOverflow
    cases position with
    | sleep =>
        cases accessed
        rcases inner noOverflow with ⟨counted, holds⟩
        exact ⟨counted.set _ nofun rfl, fun down => absurd holds (Int.not_lt.mpr down)⟩
    | testWait | endWait | decrement | testZero | notifyAll | endCountDown | read => cases accessed

/-! ## Every run -/

variable {ids : ThreadIds}
  {system : MutexSystem CountDownLatch Unit LatchCall LatchResult LatchPosition}

theorem outline_initial (count : Int) (latch : CountDownLatch) (results : List LatchResult)
    (starts : latch = create count ∧ ∀ result ∈ results, result = .idle) :
    (outline count).Quiet latch (results.map .outside) := by
  rcases starts with ⟨rfl, idle⟩
  have outside : ∀ phase ∈ (results.map .outside : List LatchPhase), phase = .outside .idle := by
    intro phase member
    rcases List.mem_map.mp member with ⟨result, earlier, rfl⟩
    rw [idle result earlier]
  refine fun _ => ⟨⟨(Int.sub_zero count).symm, fun waited => ?_, fun phase member => ?_⟩,
    fun _ phase member => ?_⟩
  · cases outside _ waited
  · rw [outside phase member]
    trivial
  · rw [outside phase member]
    rfl

/-- A region ends, or is left for `wait`, without another change of the latch. -/
theorem progress_shared {after : CountDownLatch} {position : LatchPosition} {phase : LatchPhase}
    (progress : Atomic.Progress program latch position phase after) :
    after = latch ∧ phase.isOutside = false := by
  cases progress with
  | locked enters => exact ⟨rfl, rfl⟩
  | reassigning => exact ⟨rfl, rfl⟩
  | inside => exact ⟨rfl, rfl⟩
  | unassigned accessed =>
      cases position with
      | sleep =>
          cases accessed
          exact ⟨rfl, rfl⟩
      | testWait | endWait | decrement | testZero | notifyAll | endCountDown | read =>
          cases accessed
  | unlocking accessed =>
      cases position with
      | endWait | endCountDown | read =>
          cases accessed
          exact ⟨rfl, rfl⟩
      | testWait | sleep | decrement | testZero | notifyAll => cases accessed

theorem exists_counted (reachable : (machine ids count).Reachable system)
    (noOverflow : NoOverflow count system.shared) :
    ∃ threads : List LatchPhase, Counted count system.shared threads ∧
      (.outside .waited ∈ system.threads → .outside .waited ∈ threads) := by
  rcases (outline count).holds (outline_initial count) reachable with ⟨quiet, inner⟩
  cases isOwner : system.mutex with
  | none => exact ⟨system.threads, (quiet isOwner noOverflow).1, id⟩
  | some thread =>
      have owns := ((MutexSystem.reachable_exclusive.2 system reachable).owner thread).mpr isOwner
      rcases (Option.any_eq_true _ _).mp owns with ⟨phase, isPhase, -⟩
      rcases inner thread phase isOwner isPhase with
        ⟨start, first, latch, threads, position, -, -, inner, progress, isThreads⟩
      rcases progress_shared progress with ⟨shared, notOutside⟩
      rw [shared] at noOverflow ⊢
      refine ⟨threads, (inner noOverflow).1, ?_⟩
      rw [isThreads]
      intro member
      rcases List.mem_or_eq_of_mem_set member with earlier | rfl
      · exact earlier
      · cases notOutside

/-- As long as the count has not overflowed, no `wait` returns before `countDown` has been called
as often as the count says. From then on no thread stays blocked: none is while the lock is free,
and as long as a thread is in a call one of them can go on. -/
theorem latch_opens (reachable : (machine ids count).Reachable system)
    (noOverflow : NoOverflow count system.shared) :
    (.outside .waited ∈ system.threads → count ≤ system.shared.downs) ∧
    (count ≤ system.shared.downs →
      (system.mutex = none → ∀ phase ∈ system.threads, phase.isBlocked = false) ∧
      ((∃ phase ∈ system.threads, phase.isOutside = false) →
        ∃ action, action.goesOn = true ∧ (machine ids count).allowed system action)) := by
  rcases exists_counted reachable noOverflow with ⟨threads, counted, before⟩
  have exclusive := MutexSystem.reachable_exclusive.2 system reachable
  have isCount := counted.count
  refine ⟨fun waited => ?_, fun down => ?_⟩
  · have zero := counted.waited (before waited)
    omega
  · have none : system.mutex = none → ∀ phase ∈ system.threads, phase.isBlocked = false := by
      intro isFree
      have quiet := ((outline count).holds (outline_initial count) reachable).1 isFree
        noOverflow
      exact quiet.2 (by omega)
    refine ⟨none, ?_⟩
    rintro ⟨phase, member, busy⟩
    cases isOwner : system.mutex with
    | none => exact exclusive.exists_action member busy (none isOwner phase member)
    | some thread =>
        -- The thread that has the mutex is not blocked, whatever the others are.
        have owns := (exclusive.owner thread).mpr isOwner
        rcases (Option.any_eq_true _ _).mp owns with ⟨owner, isPhase, isOwning⟩
        refine exclusive.exists_action (List.mem_of_getElem? isPhase) ?_ ?_
        · cases owner with
          | outside _ => cases isOwning
          | locking _ | locked _ | inside _ | unlocking _ | unassigned _ _ | blocked _ _ | woken _
          | reassigning _ => rfl
        · cases owner with
          | blocked _ _ => cases isOwning
          | outside _ | locking _ | locked _ | inside _ | unlocking _ | unassigned _ _ | woken _
          | reassigning _ => rfl

/-- A thread has waited for the one call of `countDown`, and another is about to find it made. -/
theorem latch_opens_once :
    let ids : ThreadIds := ⟨(· + 1), Nat.succ_pos, fun _ _ => Nat.succ.inj⟩
    ∃ system, (machine ids 1).Reachable system ∧
      system.threads = [.outside .waited, .locked .wait, .outside .counted] ∧
      (1 : Int) ≤ system.shared.downs ∧
      ∃ action, action.goesOn = true ∧ (machine ids 1).allowed system action := by
  intro ids
  have run := Machine.exists_reachable (machine ids 1)
    (fun system => system.threads = [.outside .waited, .locked .wait, .outside .counted] ∧
      NoOverflow 1 system.shared)
    ⟨create 1, [.idle, .idle, .idle], ⟨rfl, by decide⟩, rfl⟩
    [.call 0 .wait, .lock 0, .assign 0, .access 0 none, .access 0 none, .block 0,
      .call 2 .countDown, .lock 2, .assign 2, .access 2 none, .access 2 none, .access 2 none,
      .access 2 none, .release 2, .relock 0, .assign 0, .access 0 none, .access 0 none,
      .release 0, .call 1 .wait, .lock 1]
    (by decide +kernel)
  rcases run with ⟨system, reachable, threads, noOverflow⟩
  rcases latch_opens reachable noOverflow with ⟨returned, opened⟩
  have down := returned (by rw [threads]; exact List.mem_cons_self)
  refine ⟨system, reachable, threads, down, (opened down).2 ⟨.locked .wait, ?_, rfl⟩⟩
  rw [threads]
  exact List.mem_cons_of_mem _ List.mem_cons_self

end CountDownLatch

end Ccnet.Base
