import Ccnet.Base.Mutex

/-! # Locked regions as single steps

Whatever code uses the lock, a run in which the threads are interleaved at every access is a run
in which each locked region, from getting the lock to releasing it or to blocking in `wait`, is
one step. -/

namespace Ccnet.Base

/-- The position at which the thread enters the locked region. -/
def LockPhase.resumes {Shared Cond Call Result Position : Type}
    (program : Guarded Shared Cond Call Result Position) :
    LockPhase Cond Call Result Position → Option Position
  | .locking call => some (program.enter call)
  | .woken position => some position
  | .outside _ | .locked _ | .inside _ | .unlocking _ | .unassigned _ _ | .blocked _ _
  | .reassigning _ => none

theorem LockPhase.isBlocked_of_resumes {Shared Cond Call Result Position : Type}
    {program : Guarded Shared Cond Call Result Position}
    {phase : LockPhase Cond Call Result Position} {start : Position}
    (resumes : phase.resumes program = some start) : phase.isBlocked = false := by
  cases phase with
  | locking _ | woken _ => rfl
  | outside _ | locked _ | inside _ | unlocking _ | unassigned _ _ | blocked _ _
  | reassigning _ => cases resumes

/-- What the lock guards, and the threads, none of which is in a locked region. -/
structure Atomic (Shared Cond Call Result Position : Type) where
  shared : Shared
  threads : List (LockPhase Cond Call Result Position)

namespace Atomic

variable {Shared Cond Call Result Position : Type} [DecidableEq Cond]

/-- The way through a locked region, from its beginning to a position in it. -/
inductive Region (program : Guarded Shared Cond Call Result Position) (shared : Shared)
    (threads : List (LockPhase Cond Call Result Position)) (start : Position) :
    Shared → List (LockPhase Cond Call Result Position) → Position → Prop
  | begin : Region program shared threads start shared threads start
  | proceed {middle after : Shared} {awake woken : List (LockPhase Cond Call Result Position)}
      {position next : Position} : Region program shared threads start middle awake position →
      MutexSystem.Proceeds program middle awake position after woken next →
      Region program shared threads start after woken next

inductive Step (program : Guarded Shared Cond Call Result Position)
    (atomic : Atomic Shared Cond Call Result Position) :
    Atomic Shared Cond Call Result Position → Prop
  | call {thread : Nat} {result : Result} {call : Call} :
      atomic.threads[thread]? = some (.outside result) →
      Step program atomic ⟨atomic.shared, atomic.threads.set thread (.locking call)⟩
  | wake {thread : Nat} {cond : Cond} {position : Position} :
      atomic.threads[thread]? = some (.blocked cond position) →
      Step program atomic ⟨atomic.shared, atomic.threads.set thread (.woken position)⟩
  | leave {thread : Nat} {phase : LockPhase Cond Call Result Position}
      {start position : Position} {shared after : Shared}
      {threads : List (LockPhase Cond Call Result Position)} {result : Result} :
      atomic.threads[thread]? = some phase → phase.resumes program = some start →
      Region program atomic.shared atomic.threads start shared threads position →
      program.access shared position = (after, .leave result) →
      Step program atomic ⟨after, threads.set thread (.outside result)⟩
  | block {thread : Nat} {phase : LockPhase Cond Call Result Position}
      {start position next : Position} {shared after : Shared}
      {threads : List (LockPhase Cond Call Result Position)} {cond : Cond} :
      atomic.threads[thread]? = some phase → phase.resumes program = some start →
      Region program atomic.shared atomic.threads start shared threads position →
      program.access shared position = (after, .wait cond next) →
      Step program atomic ⟨after, threads.set thread (.blocked cond next)⟩

inductive Reachable (program : Guarded Shared Cond Call Result Position)
    (starts : Shared → List Result → Prop) : Atomic Shared Cond Call Result Position → Prop
  | initial {shared : Shared} {results : List Result} : starts shared results →
      Reachable program starts ⟨shared, results.map .outside⟩
  | step {atomic next : Atomic Shared Cond Call Result Position} :
      Reachable program starts atomic → Step program atomic next →
      Reachable program starts next

/-- How far the thread that has the mutex is, at a position in the locked region. -/
inductive Progress (program : Guarded Shared Cond Call Result Position) (shared : Shared)
    (position : Position) : LockPhase Cond Call Result Position → Shared → Prop
  | locked {call : Call} : program.enter call = position →
      Progress program shared position (.locked call) shared
  | reassigning : Progress program shared position (.reassigning position) shared
  | inside : Progress program shared position (.inside position) shared
  | unassigned {cond : Cond} {next : Position} {after : Shared} :
      program.access shared position = (after, .wait cond next) →
      Progress program shared position (.unassigned cond next) after
  | unlocking {result : Result} {after : Shared} :
      program.access shared position = (after, .leave result) →
      Progress program shared position (.unlocking result) after

/-- The system is as the atomic one, up to the locked region that a thread is in. -/
inductive Simulates (program : Guarded Shared Cond Call Result Position)
    (atomic : Atomic Shared Cond Call Result Position)
    (system : MutexSystem Shared Cond Call Result Position) : Prop
  | free : system.mutex = none → system.shared = atomic.shared →
      system.threads = atomic.threads → Simulates program atomic system
  | held {thread : Nat} {start phase : LockPhase Cond Call Result Position}
      {first position : Position} {shared : Shared}
      {threads : List (LockPhase Cond Call Result Position)} :
      system.mutex = some thread → atomic.threads[thread]? = some start →
      start.resumes program = some first →
      Region program atomic.shared atomic.threads first shared threads position →
      Progress program shared position phase system.shared →
      system.threads = threads.set thread phase → Simulates program atomic system

variable {program : Guarded Shared Cond Call Result Position} {starts : Shared → List Result → Prop}
  {ids : ThreadIds} {atomic : Atomic Shared Cond Call Result Position}
  {system next : MutexSystem Shared Cond Call Result Position}

/-! ## What other threads do meanwhile -/

section Frame

variable {shared after : Shared} {threads woken : List (LockPhase Cond Call Result Position)}
  {start position last : Position} {index : Nat} {old new : LockPhase Cond Call Result Position}

theorem isBlockedOn_eq_false {cond : Cond} {phase : LockPhase Cond Call Result Position}
    (awake : phase.isBlocked = false) : phase.isBlockedOn cond = false := by
  cases phase with
  | blocked other position => cases awake
  | outside _ | locking _ | locked _ | inside _ | unlocking _ | unassigned _ _ | woken _
  | reassigning _ => rfl

/-- Another thread might have changed its phase before the step, if the step has not woken it. -/
theorem frame_of_proceeds
    (proceeds : MutexSystem.Proceeds program shared threads position after woken last)
    (isOld : woken[index]? = some old) (notWoken : ∀ position, old ≠ .woken position)
    (awake : new.isBlocked = false) :
    threads[index]? = some old ∧ MutexSystem.Proceeds program shared (threads.set index new)
      position after (woken.set index new) last := by
  have before : threads[index]? = some old := by
    rcases proceeds.getElem? index with same | ⟨_, position, _, isWoken⟩
    · exact same.symm.trans isOld
    · exact absurd (Option.some.inj (isOld.symm.trans isWoken)) (notWoken position)
  refine ⟨before, ?_⟩
  cases proceeds with
  | go accessed => exact .go accessed
  | @notify cond _ notified accessed wakes =>
      cases notified with
      | none =>
          have none : (MutexSystem.waiters cond).Wakes (threads.set index new) none := by
            intro phase member
            rcases List.mem_or_eq_of_mem_set member with earlier | rfl
            · exact wakes phase earlier
            · exact isBlockedOn_eq_false awake
          exact .notify accessed none
      | some chosen =>
          rcases wakes with ⟨phase, isPhase, isBlocked⟩
          rcases LockPhase.isBlockedOn_eq_true isBlocked with ⟨position, rfl⟩
          have isPhase : threads[chosen]? = some (.blocked cond position) := isPhase
          rw [ConditionVariable.notify_some isPhase] at isOld
          have different : index ≠ chosen := by
            rintro rfl
            rcases List.getElem?_eq_some_iff.mp isPhase with ⟨inside, -⟩
            rw [List.getElem?_set_self inside] at isOld
            exact notWoken position (Option.some.inj isOld).symm
          have still : (threads.set index new)[chosen]? = some (.blocked cond position) := by
            rw [List.getElem?_set_ne different, isPhase]
          have wakes : (MutexSystem.waiters cond).Wakes (threads.set index new) (some chosen) :=
            ⟨_, still, isBlocked⟩
          have notified := MutexSystem.Proceeds.notify accessed wakes
          rw [ConditionVariable.notify_some still, List.set_comm _ _ different] at notified
          rw [ConditionVariable.notify_some isPhase]
          exact notified
  | @notifyAll cond _ accessed =>
      have same : (if (MutexSystem.waiters cond).blocked new then
          (MutexSystem.waiters cond).wake new else new) = new :=
        if_neg (Bool.eq_false_iff.mp (isBlockedOn_eq_false awake))
      have notified : MutexSystem.Proceeds program shared (threads.set index new) position after _
          last := .notifyAll accessed
      rw [ConditionVariable.notifyAll, List.map_set, same] at notified
      exact notified

theorem Region.frame (region : Region program shared threads start after woken position)
    (isOld : woken[index]? = some old) (notWoken : ∀ position, old ≠ .woken position)
    (awake : new.isBlocked = false) :
    threads[index]? = some old ∧ Region program shared (threads.set index new) start after
      (woken.set index new) position := by
  induction region with
  | begin => exact ⟨isOld, .begin⟩
  | proceed region proceeds induction =>
      rcases frame_of_proceeds proceeds isOld notWoken awake with ⟨before, proceeds⟩
      rcases induction before with ⟨first, region⟩
      exact ⟨first, .proceed region proceeds⟩

theorem getElem?_of_proceeds
    (proceeds : MutexSystem.Proceeds program shared threads position after woken last)
    (isOld : threads[index]? = some old) (awake : old.isBlocked = false) :
    woken[index]? = some old := by
  rcases proceeds.getElem? index with same | ⟨cond, position, isBlocked, _⟩
  · rw [same, isOld]
  · cases isOld.symm.trans isBlocked
    cases awake

/-- The thread that is in the region stays in its phase while it goes through it. -/
theorem Region.getElem? (region : Region program shared threads start after woken position)
    (isOld : threads[index]? = some old) (awake : old.isBlocked = false) :
    woken[index]? = some old := by
  induction region with
  | begin => exact isOld
  | proceed region proceeds induction => exact getElem?_of_proceeds proceeds induction awake

end Frame

/-! ## Every step is simulated -/

/-- A thread without the mutex, and not woken, changes its phase. -/
theorem Simulates.other (simulates : Simulates program atomic system) {thread : Nat}
    {old : LockPhase Cond Call Result Position} (notOwner : system.mutex ≠ some thread)
    (isOld : system.threads[thread]? = some old) (notWoken : ∀ position, old ≠ .woken position)
    (new : LockPhase Cond Call Result Position) (awake : new.isBlocked = false) :
    atomic.threads[thread]? = some old ∧
      Simulates program ⟨atomic.shared, atomic.threads.set thread new⟩
        (system.setThread thread new) := by
  cases simulates with
  | free isFree shared threads =>
      refine ⟨threads ▸ isOld, .free isFree shared ?_⟩
      rw [MutexSystem.setThread, threads]
  | @held owner start phase first position shared threads isOwner isStart resumes region progress
      isThreads =>
      have different : owner ≠ thread := by
        rintro rfl
        exact notOwner isOwner
      rw [isThreads, List.getElem?_set_ne different] at isOld
      rcases region.frame isOld notWoken awake with ⟨before, region⟩
      refine ⟨before, .held isOwner ?_ resumes region progress ?_⟩
      · rw [List.getElem?_set_ne (Ne.symm different), isStart]
      · rw [MutexSystem.setThread, isThreads, List.set_comm _ _ different]

/-- The region that the thread with the mutex is in. -/
theorem Simulates.owner (simulates : Simulates program atomic system) {thread : Nat}
    {phase : LockPhase Cond Call Result Position} (isOwner : system.mutex = some thread)
    (isPhase : system.threads[thread]? = some phase) :
    ∃ start first shared threads position, atomic.threads[thread]? = some start ∧
      start.resumes program = some first ∧
      Region program atomic.shared atomic.threads first shared threads position ∧
      Progress program shared position phase system.shared ∧
      system.threads = threads.set thread phase ∧ threads[thread]? = some start := by
  cases simulates with
  | free isFree shared threads => cases isFree.symm.trans isOwner
  | @held owner start found first position shared threads isHeld isStart resumes region progress
      isThreads =>
      cases isHeld.symm.trans isOwner
      have still := region.getElem? isStart (LockPhase.isBlocked_of_resumes resumes)
      rcases List.getElem?_eq_some_iff.mp still with ⟨inside, -⟩
      rw [isThreads, List.getElem?_set_self inside] at isPhase
      cases isPhase
      exact ⟨start, first, shared, threads, position, isStart, resumes, region, progress,
        isThreads, still⟩

/-- The thread with the mutex goes on in its region, and nobody else sees it. -/
theorem Simulates.advance (simulates : Simulates program atomic system) {thread : Nat}
    {phase later : LockPhase Cond Call Result Position} (isOwner : system.mutex = some thread)
    (isPhase : system.threads[thread]? = some phase) (stillOwner : next.mutex = some thread)
    (threads : next.threads = system.threads.set thread later)
    (advances : ∀ shared position, Progress program shared position phase system.shared →
      Progress program shared position later next.shared) :
    ∃ after, (after = atomic ∨ Step program atomic after) ∧ Simulates program after next := by
  rcases simulates.owner isOwner isPhase with
    ⟨start, first, shared, others, position, isStart, resumes, region, progress, isThreads, -⟩
  refine ⟨atomic, .inl rfl,
    .held stillOwner isStart resumes region (advances shared position progress) ?_⟩
  rw [threads, isThreads, List.set_set]

theorem Simulates.step (simulates : Simulates program atomic system)
    (exclusive : system.Exclusive ids) {action : MutexSystem.Action Call}
    (step : MutexSystem.Step program ids system action next) :
    ∃ after, (after = atomic ∨ Step program atomic after) ∧ Simulates program after next := by
  have notOwner : ∀ {thread : Nat} {phase : LockPhase Cond Call Result Position},
      system.threads[thread]? = some phase → phase.isOwning = false →
      system.mutex ≠ some thread := by
    intro thread phase isPhase notOwning isOwner
    have owns := (exclusive.owner thread).mpr isOwner
    rw [isPhase] at owns
    exact absurd (notOwning.symm.trans owns) Bool.false_ne_true
  cases step with
  | @call thread result call isPhase =>
      have moved := simulates.other (notOwner isPhase rfl) isPhase (by rintro _ ⟨⟩)
        (.locking call) rfl
      exact ⟨_, .inr (.call moved.1), moved.2⟩
  | @wake thread cond position isPhase =>
      have moved := simulates.other (notOwner isPhase rfl) isPhase (by rintro _ ⟨⟩)
        (.woken position) rfl
      exact ⟨_, .inr (.wake moved.1), moved.2⟩
  | @lock thread call isPhase isFree =>
      cases simulates with
      | free _ shared threads =>
          have progress : Progress program atomic.shared (program.enter call) (.locked call)
              system.shared := shared ▸ .locked rfl
          refine ⟨atomic, .inl rfl, .held rfl (threads ▸ isPhase) rfl .begin progress ?_⟩
          rw [MutexSystem.setThread, threads]
      | held isOwner => cases isFree.symm.trans isOwner
  | @relock thread position isPhase isFree =>
      cases simulates with
      | free _ shared threads =>
          have progress : Progress program atomic.shared position (.reassigning position)
              system.shared := shared ▸ .reassigning
          refine ⟨atomic, .inl rfl, .held rfl (threads ▸ isPhase) rfl .begin progress ?_⟩
          rw [MutexSystem.setThread, threads]
      | held isOwner => cases isFree.symm.trans isOwner
  | assign isPhase =>
      have isOwner := exclusive.owns isPhase rfl
      refine simulates.advance isOwner isPhase isOwner rfl (fun shared position progress => ?_)
      cases progress with
      | locked enters =>
          cases enters
          exact .inside
  | reassign isPhase =>
      have isOwner := exclusive.owns isPhase rfl
      refine simulates.advance isOwner isPhase isOwner rfl (fun shared position progress => ?_)
      cases progress with
      | reassigning => exact .inside
  | @proceed thread _ position last after woken isPhase proceeds =>
      have isOwner := exclusive.owns isPhase rfl
      rcases simulates.owner isOwner isPhase with
        ⟨start, first, shared, threads, position, isStart, resumes, region, progress, isThreads,
          still⟩
      cases progress with
      | inside =>
          -- The step is possible with the phase in which the thread came to the region, too.
          have inside := getElem?_of_proceeds proceeds isPhase rfl
          have awake := LockPhase.isBlocked_of_resumes resumes
          have same : threads.set thread start = threads := by
            rcases List.getElem?_eq_some_iff.mp still with ⟨bound, isStart⟩
            rw [← isStart, List.set_getElem_self bound]
          rcases frame_of_proceeds proceeds inside (by rintro _ ⟨⟩) awake with ⟨-, proceeds⟩
          rw [isThreads, List.set_set, same] at proceeds
          refine ⟨atomic, .inl rfl,
            .held isOwner isStart resumes (.proceed region proceeds) .inside ?_⟩
          rw [MutexSystem.setThread, List.set_set]
  | wait isPhase accessed =>
      have isOwner := exclusive.owns isPhase rfl
      refine simulates.advance isOwner isPhase isOwner rfl (fun shared position progress => ?_)
      cases progress with
      | inside => exact .unassigned accessed
  | leave isPhase accessed =>
      have isOwner := exclusive.owns isPhase rfl
      refine simulates.advance isOwner isPhase isOwner rfl (fun shared position progress => ?_)
      cases progress with
      | inside => exact .unlocking accessed
  | release isPhase =>
      rcases simulates.owner (exclusive.owns isPhase rfl) isPhase with
        ⟨start, first, shared, threads, position, isStart, resumes, region, progress, isThreads, -⟩
      cases progress with
      | unlocking accessed =>
          refine ⟨_, .inr (.leave isStart resumes region accessed), .free rfl rfl ?_⟩
          rw [MutexSystem.setThread, isThreads, List.set_set]
  | block isPhase =>
      rcases simulates.owner (exclusive.owns isPhase rfl) isPhase with
        ⟨start, first, shared, threads, position, isStart, resumes, region, progress, isThreads, -⟩
      cases progress with
      | unassigned accessed =>
          refine ⟨_, .inr (.block isStart resumes region accessed), .free rfl rfl ?_⟩
          rw [MutexSystem.setThread, isThreads, List.set_set]

theorem exists_simulated (reachable : (MutexSystem.machine program ids starts).Reachable system) :
    ∃ atomic, Reachable program starts atomic ∧ Simulates program atomic system := by
  refine reachable.invariant_knowing MutexSystem.reachable_exclusive.2
    (fun system => ∃ atomic, Reachable program starts atomic ∧ Simulates program atomic system)
    ?_ ?_
  · rintro _ ⟨shared, results, starts, rfl⟩
    exact ⟨_, .initial starts, .free rfl rfl rfl⟩
  · rintro current action next exclusive ⟨atomic, reachable, simulates⟩ allowed ran
    rcases MutexSystem.step_cases exclusive allowed with ⟨found, foundRan, step⟩
    cases foundRan.symm.trans ran
    rcases simulates.step exclusive step with ⟨after, rfl | atomicStep, continued⟩
    · exact ⟨after, reachable, continued⟩
    · exact ⟨after, reachable.step atomicStep, continued⟩

/-- Every state of a run is that of a run in which the locked regions are single steps. While a
thread has the mutex, it has gone through a part of its region, which the others have not seen. -/
theorem regions_atomic (reachable : (MutexSystem.machine program ids starts).Reachable system) :
    ∃ atomic, Reachable program starts atomic ∧
      (system.mutex = none →
        system.shared = atomic.shared ∧ system.threads = atomic.threads) ∧
      ∀ (thread : Nat) phase, system.mutex = some thread →
        system.threads[thread]? = some phase →
        ∃ start first shared threads position, atomic.threads[thread]? = some start ∧
          start.resumes program = some first ∧
          Region program atomic.shared atomic.threads first shared threads position ∧
          Progress program shared position phase system.shared ∧
          system.threads = threads.set thread phase := by
  rcases exists_simulated reachable with ⟨atomic, atomicReachable, simulates⟩
  refine ⟨atomic, atomicReachable, ?_, ?_⟩
  · intro isFree
    cases simulates with
    | free _ shared threads => exact ⟨shared, threads⟩
    | held isOwner => cases isFree.symm.trans isOwner
  · intro thread phase isOwner isPhase
    rcases simulates.owner isOwner isPhase with
      ⟨start, first, shared, threads, position, isStart, resumes, region, progress, isThreads, -⟩
    exact ⟨start, first, shared, threads, position, isStart, resumes, region, progress, isThreads⟩

/-- A thread has entered its region while another was waiting, and has written half of what it
writes there. -/
theorem regions_atomic_halfway :
    let program : Guarded Nat Unit Bool Unit Nat := {
      enter waits := if waits then 3 else 0
      access shared position := match position with
        | 0 => (shared + 1, .go 1)
        | 1 => (shared + 1, .notify () 2)
        | 2 => (shared, .leave ())
        | _ => (shared, .wait () 2) }
    let ids : ThreadIds := ⟨(· + 1), Nat.succ_pos, fun _ _ => Nat.succ.inj⟩
    ∃ system, (MutexSystem.machine program ids fun _ _ => True).Reachable system ∧
      system.shared = 1 ∧ system.threads = [.blocked () 2, .inside 1] ∧
      ∃ atomic, Reachable program (fun _ _ => True) atomic ∧
        ∃ start first shared threads position, atomic.threads[1]? = some start ∧
          start.resumes program = some first ∧
          Region program atomic.shared atomic.threads first shared threads position ∧
          Progress program shared position (.inside 1) system.shared ∧
          system.threads = threads.set 1 (.inside 1) := by
  intro program ids
  have run := Machine.exists_reachable (MutexSystem.machine program ids fun _ _ => True)
    (fun system => system.shared = 1 ∧ system.mutex = some 1 ∧
      system.threads = [.blocked () 2, .inside 1])
    ⟨0, [(), ()], trivial, rfl⟩
    [.call 0 true, .call 1 false, .lock 0, .assign 0, .access 0 none, .block 0, .lock 1,
      .assign 1, .access 1 none]
    (by decide +kernel)
  rcases run with ⟨system, reachable, shared, isOwner, threads⟩
  rcases regions_atomic reachable with ⟨atomic, atomicReachable, _, held⟩
  exact ⟨system, reachable, shared, threads, atomic, atomicReachable,
    held 1 _ isOwner (by rw [threads]; rfl)⟩

end Atomic

/-! ## Proof outlines -/

/-- What holds between the locked regions, and what holds at a position in one. The thread that is
in the region counts as it was when it came to it. -/
structure Outline {Shared Cond Call Result Position : Type} [DecidableEq Cond]
    (program : Guarded Shared Cond Call Result Position) where
  Quiet : Shared → List (LockPhase Cond Call Result Position) → Prop
  Inner : Shared → List (LockPhase Cond Call Result Position) → Position → Prop
  call : ∀ {shared threads} {thread : Nat} {result : Result} (call : Call), Quiet shared threads →
    threads[thread]? = some (.outside result) → Quiet shared (threads.set thread (.locking call))
  wake : ∀ {shared threads} {thread : Nat} {cond position}, Quiet shared threads →
    threads[thread]? = some (.blocked cond position) →
    Quiet shared (threads.set thread (.woken position))
  enter : ∀ {shared threads} {thread : Nat} {phase start}, Quiet shared threads →
    threads[thread]? = some phase → phase.resumes program = some start →
    Inner shared threads start
  proceed : ∀ {shared threads position after woken next}, Inner shared threads position →
    MutexSystem.Proceeds program shared threads position after woken next →
    Inner after woken next
  leave : ∀ {shared threads position after} {thread : Nat} {phase start result},
    Inner shared threads position → threads[thread]? = some phase →
    phase.resumes program = some start → program.access shared position = (after, .leave result) →
    Quiet after (threads.set thread (.outside result))
  block : ∀ {shared threads position after} {thread : Nat} {phase start cond next},
    Inner shared threads position → threads[thread]? = some phase →
    phase.resumes program = some start →
    program.access shared position = (after, .wait cond next) →
    Quiet after (threads.set thread (.blocked cond next))

namespace Outline

variable {Shared Cond Call Result Position : Type} [DecidableEq Cond]
  {program : Guarded Shared Cond Call Result Position} {starts : Shared → List Result → Prop}
  {ids : ThreadIds} {atomic : Atomic Shared Cond Call Result Position}
  {system : MutexSystem Shared Cond Call Result Position}

theorem inner_of_region (outline : Outline program) {shared after : Shared}
    {threads woken : List (LockPhase Cond Call Result Position)} {start position : Position}
    (inner : outline.Inner shared threads start)
    (region : Atomic.Region program shared threads start after woken position) :
    outline.Inner after woken position := by
  induction region with
  | begin => exact inner
  | proceed region proceeds induction => exact outline.proceed induction proceeds

theorem quiet_of_step (outline : Outline program) {next : Atomic Shared Cond Call Result Position}
    (quiet : outline.Quiet atomic.shared atomic.threads) (step : Atomic.Step program atomic next) :
    outline.Quiet next.shared next.threads := by
  cases step with
  | call isPhase => exact outline.call _ quiet isPhase
  | wake isPhase => exact outline.wake quiet isPhase
  | leave isPhase resumes region accessed =>
      have inner := outline.inner_of_region (outline.enter quiet isPhase resumes) region
      have still := region.getElem? isPhase (LockPhase.isBlocked_of_resumes resumes)
      exact outline.leave inner still resumes accessed
  | block isPhase resumes region accessed =>
      have inner := outline.inner_of_region (outline.enter quiet isPhase resumes) region
      have still := region.getElem? isPhase (LockPhase.isBlocked_of_resumes resumes)
      exact outline.block inner still resumes accessed

theorem quiet_of_reachable (outline : Outline program)
    (initial : ∀ shared results, starts shared results →
      outline.Quiet shared (results.map .outside))
    (reachable : Atomic.Reachable program starts atomic) :
    outline.Quiet atomic.shared atomic.threads := by
  induction reachable with
  | initial start => exact initial _ _ start
  | step _ step induction => exact outline.quiet_of_step induction step

/-- What an outline says of the states of a run. -/
theorem holds (outline : Outline program)
    (initial : ∀ shared results, starts shared results →
      outline.Quiet shared (results.map .outside))
    (reachable : (MutexSystem.machine program ids starts).Reachable system) :
    (system.mutex = none → outline.Quiet system.shared system.threads) ∧
    ∀ (thread : Nat) phase, system.mutex = some thread → system.threads[thread]? = some phase →
      ∃ start first shared threads position, threads[thread]? = some start ∧
        start.resumes program = some first ∧ outline.Inner shared threads position ∧
        Atomic.Progress program shared position phase system.shared ∧
        system.threads = threads.set thread phase := by
  rcases Atomic.exists_simulated reachable with ⟨atomic, atomicReachable, simulates⟩
  have quiet := outline.quiet_of_reachable initial atomicReachable
  constructor
  · intro isFree
    cases simulates with
    | free _ shared threads =>
        rw [shared, threads]
        exact quiet
    | held isOwner => cases isFree.symm.trans isOwner
  · intro thread phase isOwner isPhase
    rcases simulates.owner isOwner isPhase with ⟨start, first, shared, threads, position, isStart,
      resumes, region, progress, isThreads, still⟩
    have inner := outline.inner_of_region (outline.enter quiet isStart resumes) region
    exact ⟨start, first, shared, threads, position, still, resumes, inner, progress, isThreads⟩

end Outline

end Ccnet.Base
