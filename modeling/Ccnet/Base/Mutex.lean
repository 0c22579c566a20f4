import Ccnet.Foundation.Condition
import Ccnet.Foundation.Machine

namespace Ccnet.Base

/-! `base/mutex.h` and `base/condition.h`, for any code that uses them. A step is one call of the
thread library, one assignment to `holder_`, or one access to what the lock guards. -/

/-- What a thread does next in a locked region. `Cond` are the conditions that belong to the
lock. -/
inductive Statement (Cond Result Position : Type)
  | go (next : Position)
  | notify (cond : Cond) (next : Position)
  | notifyAll (cond : Cond) (next : Position)
  | wait (cond : Cond) (next : Position)
  /-- The end of the region. -/
  | leave (result : Result)
  deriving DecidableEq, Repr

/-- The locked regions of a class: where the region of a call begins, and what is done at a
position in it. -/
structure Guarded (Shared Cond Call Result Position : Type) where
  enter : Call → Position
  access : Shared → Position → Shared × Statement Cond Result Position

/-- Where a thread is. -/
inductive LockPhase (Cond Call Result Position : Type)
  | outside (result : Result)
  /-- In `pthread_mutex_lock`. -/
  | locking (call : Call)
  /-- Before `assignHolder` in `lock`. -/
  | locked (call : Call)
  | inside (position : Position)
  /-- After `unassignHolder` in `unlock`. -/
  | unlocking (result : Result)
  /-- After the constructor of `UnassignGuard` in `wait`. -/
  | unassigned (cond : Cond) (position : Position)
  /-- In `pthread_cond_wait`. -/
  | blocked (cond : Cond) (position : Position)
  /-- Woken there, without the mutex. -/
  | woken (position : Position)
  /-- Before the destructor of `UnassignGuard`. -/
  | reassigning (position : Position)
  deriving DecidableEq, Repr

namespace LockPhase

variable {Cond Call Result Position : Type}

def isOutside : LockPhase Cond Call Result Position → Bool
  | .outside _ => true
  | .locking _ | .locked _ | .inside _ | .unlocking _ | .unassigned _ _ | .blocked _ _ | .woken _
  | .reassigning _ => false

def isInside : LockPhase Cond Call Result Position → Bool
  | .inside _ => true
  | .outside _ | .locking _ | .locked _ | .unlocking _ | .unassigned _ _ | .blocked _ _
  | .woken _ | .reassigning _ => false

/-- The thread has the mutex. -/
def isOwning : LockPhase Cond Call Result Position → Bool
  | .locked _ | .inside _ | .unlocking _ | .unassigned _ _ | .reassigning _ => true
  | .outside _ | .locking _ | .blocked _ _ | .woken _ => false

def isBlocked : LockPhase Cond Call Result Position → Bool
  | .blocked _ _ => true
  | .outside _ | .locking _ | .locked _ | .inside _ | .unlocking _ | .unassigned _ _ | .woken _
  | .reassigning _ => false

def isBlockedOn [DecidableEq Cond] (cond : Cond) : LockPhase Cond Call Result Position → Bool
  | .blocked other _ => other = cond
  | .outside _ | .locking _ | .locked _ | .inside _ | .unlocking _ | .unassigned _ _ | .woken _
  | .reassigning _ => false

def wake : LockPhase Cond Call Result Position → LockPhase Cond Call Result Position
  | .blocked _ position => .woken position
  | phase => phase

theorem isInside_eq_false {phase : LockPhase Cond Call Result Position}
    (notOwning : phase.isOwning = false) : phase.isInside = false := by
  cases phase with
  | inside position => cases notOwning
  | outside _ | locking _ | locked _ | unlocking _ | unassigned _ _ | blocked _ _ | woken _
  | reassigning _ => rfl

theorem isBlockedOn_eq_true [DecidableEq Cond] {cond : Cond}
    {phase : LockPhase Cond Call Result Position}
    (isBlocked : phase.isBlockedOn cond = true) : ∃ position, phase = .blocked cond position := by
  cases phase with
  | blocked other position =>
      cases of_decide_eq_true isBlocked
      exact ⟨position, rfl⟩
  | outside _ | locking _ | locked _ | inside _ | unlocking _ | unassigned _ _ | woken _
  | reassigning _ => cases isBlocked

end LockPhase

/-- `gettid` -/
structure ThreadIds where
  tid : Nat → Nat
  positive : ∀ thread, 0 < tid thread
  injective : ∀ first second, tid first = tid second → first = second

/-- `mutex` is the thread that has the `pthread_mutex_t`. -/
structure MutexSystem (Shared Cond Call Result Position : Type) where
  shared : Shared
  mutex : Option Nat
  holder : Nat
  threads : List (LockPhase Cond Call Result Position)
  deriving DecidableEq, Repr

namespace MutexSystem

variable {Shared Cond Call Result Position : Type}

def setThread (system : MutexSystem Shared Cond Call Result Position) (thread : Nat)
    (phase : LockPhase Cond Call Result Position) : MutexSystem Shared Cond Call Result Position :=
  { system with threads := system.threads.set thread phase }

def isLockedByThisThread (ids : ThreadIds) (system : MutexSystem Shared Cond Call Result Position)
    (thread : Nat) : Bool :=
  system.holder = ids.tid thread

def assignHolder (ids : ThreadIds) (system : MutexSystem Shared Cond Call Result Position)
    (thread : Nat) : MutexSystem Shared Cond Call Result Position :=
  { system with holder := ids.tid thread }

def unassignHolder (system : MutexSystem Shared Cond Call Result Position) :
    MutexSystem Shared Cond Call Result Position :=
  { system with holder := 0 }

/-- `pthread_mutex_unlock`, also within `pthread_cond_wait`; its result is asserted to be 0. -/
def giveUp (system : MutexSystem Shared Cond Call Result Position) (thread : Nat) :
    Checked (MutexSystem Shared Cond Call Result Position) := do
  check (system.mutex = some thread)
  return { system with mutex := none }

/-- An unlocked mutex, and threads that do not use it yet. -/
def create (shared : Shared) (results : List Result) :
    MutexSystem Shared Cond Call Result Position where
  shared
  mutex := none
  holder := 0
  threads := results.map .outside

section Runs

variable [DecidableEq Cond]

/-- The threads that block on a condition. -/
def waiters (cond : Cond) : ConditionVariable (LockPhase Cond Call Result Position) where
  blocked := LockPhase.isBlockedOn cond
  wake := LockPhase.wake

/-- The thread at a position in a locked region goes on, and may wake another. -/
def access (program : Guarded Shared Cond Call Result Position)
    (system : MutexSystem Shared Cond Call Result Position) (thread : Nat) (position : Position)
    (notified : Option Nat) : Option (MutexSystem Shared Cond Call Result Position) :=
  match program.access system.shared position with
  | (shared, .go next) => some ({ system with shared }.setThread thread (.inside next))
  | (shared, .notify cond next) =>
      if (waiters cond).Wakes system.threads notified then
        some ({ system with
          shared
          threads := (waiters cond).notify system.threads notified }.setThread thread
            (.inside next))
      else
        none
  | (shared, .notifyAll cond next) =>
      some ({ system with
        shared
        threads := (waiters cond).notifyAll system.threads }.setThread thread (.inside next))
  | (shared, .wait cond next) =>
      some ({ system with shared }.unassignHolder.setThread thread (.unassigned cond next))
  | (shared, .leave result) =>
      some ({ system with shared }.unassignHolder.setThread thread (.unlocking result))

/-! ## Runs -/

inductive Action (Call : Type)
  | call (thread : Nat) (call : Call)
  /-- `pthread_mutex_lock` returns. -/
  | lock (thread : Nat)
  /-- `assignHolder`, in `lock` or at the end of `wait`. -/
  | assign (thread : Nat)
  | access (thread : Nat) (notified : Option Nat)
  /-- `pthread_mutex_unlock` -/
  | release (thread : Nat)
  /-- `pthread_cond_wait` gives up the mutex. -/
  | block (thread : Nat)
  /-- A thread is woken for no reason, or because of the time. -/
  | wake (thread : Nat)
  /-- `pthread_cond_wait` returns. -/
  | relock (thread : Nat)
  deriving Repr

/-- A thread goes on in the code of the lock or in a locked region. -/
def Action.goesOn {Call : Type} : Action Call → Bool
  | .lock _ | .assign _ | .access _ _ | .release _ | .block _ | .relock _ => true
  | .call _ _ | .wake _ => false

def Action.isCall {Call : Type} : Action Call → Bool
  | .call _ _ => true
  | .lock _ | .assign _ | .access _ _ | .release _ | .block _ | .wake _ | .relock _ => false

/-- What an action does, where it is possible. -/
def attempt (program : Guarded Shared Cond Call Result Position) (ids : ThreadIds)
    (system : MutexSystem Shared Cond Call Result Position) :
    Action Call → Option (Checked (MutexSystem Shared Cond Call Result Position))
  | .call thread call =>
      match system.threads[thread]? with
      | some (.outside _) => some (.ok (system.setThread thread (.locking call)))
      | _ => none
  | .lock thread =>
      match system.threads[thread]?, system.mutex with
      | some (.locking call), none =>
          some (.ok ({ system with mutex := some thread }.setThread thread (.locked call)))
      | _, _ => none
  | .assign thread =>
      match system.threads[thread]? with
      | some (.locked call) =>
          some (.ok ((system.assignHolder ids thread).setThread thread
            (.inside (program.enter call))))
      | some (.reassigning position) =>
          some (.ok ((system.assignHolder ids thread).setThread thread (.inside position)))
      | _ => none
  | .access thread notified =>
      match system.threads[thread]? with
      | some (.inside position) =>
          (system.access program thread position notified).map Except.ok
      | _ => none
  | .release thread =>
      match system.threads[thread]? with
      | some (.unlocking result) => some do
          return (← system.giveUp thread).setThread thread (.outside result)
      | _ => none
  | .block thread =>
      match system.threads[thread]? with
      | some (.unassigned cond position) => some do
          return (← system.giveUp thread).setThread thread (.blocked cond position)
      | _ => none
  | .wake thread =>
      match system.threads[thread]? with
      | some (.blocked _ position) => some (.ok (system.setThread thread (.woken position)))
      | _ => none
  | .relock thread =>
      match system.threads[thread]?, system.mutex with
      | some (.woken position), none =>
          some (.ok ({ system with mutex := some thread }.setThread thread
            (.reassigning position)))
      | _, _ => none

def machine (program : Guarded Shared Cond Call Result Position) (ids : ThreadIds)
    (starts : Shared → List Result → Prop) :
    Machine (MutexSystem Shared Cond Call Result Position) (Action Call) where
  initial system := ∃ shared results, starts shared results ∧ system = create shared results
  allowed system action := (system.attempt program ids action).isSome = true
  step system action := (system.attempt program ids action).getD (.ok system)

instance (program : Guarded Shared Cond Call Result Position) (ids : ThreadIds)
    (starts : Shared → List Result → Prop) (system : MutexSystem Shared Cond Call Result Position)
    (action : Action Call) :
    Decidable ((machine program ids starts).allowed system action) :=
  inferInstanceAs (Decidable (_ = true))

end Runs

/-! ## The lock excludes -/

variable {ids : ThreadIds} {system next : MutexSystem Shared Cond Call Result Position}

/-- A thread has the mutex if it is in one of the phases between getting it and giving it up, and
`holder_` is the thread whose code runs in the locked region. -/
structure Exclusive (ids : ThreadIds) (system : MutexSystem Shared Cond Call Result Position) :
    Prop where
  owner : ∀ thread : Nat, system.threads[thread]?.any LockPhase.isOwning = true ↔
    system.mutex = some thread
  holder : ∀ thread : Nat, system.threads[thread]?.any LockPhase.isInside = true →
    system.holder = ids.tid thread
  free : (∀ thread : Nat, system.threads[thread]?.any LockPhase.isInside = false) →
    system.holder = 0

theorem Exclusive.owns (exclusive : system.Exclusive ids) {thread : Nat}
    {phase : LockPhase Cond Call Result Position} (isPhase : system.threads[thread]? = some phase)
    (isOwning : phase.isOwning = true) : system.mutex = some thread := by
  apply (exclusive.owner thread).mp
  rw [isPhase]
  exact isOwning

theorem Exclusive.not_owning (exclusive : system.Exclusive ids) {thread other : Nat}
    (owner : system.mutex = some thread) (different : thread ≠ other) :
    system.threads[other]?.any LockPhase.isOwning = false := by
  apply Bool.eq_false_iff.mpr
  intro owns
  rw [(exclusive.owner other).mp owns] at owner
  exact different (Option.some.inj owner).symm

theorem any_isInside_eq_false {phase : Option (LockPhase Cond Call Result Position)}
    (notOwning : phase.any LockPhase.isOwning = false) :
    phase.any LockPhase.isInside = false := by
  cases phase with
  | none => rfl
  | some phase => exact LockPhase.isInside_eq_false notOwning

theorem any_set {threads : List (LockPhase Cond Call Result Position)} {thread : Nat}
    {phase : LockPhase Cond Call Result Position} (isPhase : threads[thread]? = some phase)
    (test : LockPhase Cond Call Result Position → Bool) (new : LockPhase Cond Call Result Position)
    (other : Nat) : (threads.set thread new)[other]?.any test =
      if thread = other then test new else threads[other]?.any test := by
  rcases List.getElem?_eq_some_iff.mp isPhase with ⟨inside, -⟩
  by_cases same : thread = other
  · cases same
    rw [if_pos rfl, List.getElem?_set_self inside]
    rfl
  · rw [if_neg same, List.getElem?_set_ne same]

theorem create_exclusive (shared : Shared) (results : List Result) :
    (create shared results : MutexSystem Shared Cond Call Result Position).Exclusive ids := by
  have quiet : ∀ {test : LockPhase Cond Call Result Position → Bool} (thread : Nat),
      (∀ result, test (.outside result) = false) →
      ((results.map .outside)[thread]? : Option (LockPhase Cond Call Result Position)).any test =
        false := by
    intro test thread outside
    rw [List.getElem?_map]
    cases results[thread]? with
    | none => rfl
    | some result => exact outside result
  refine ⟨fun thread => ?_, fun thread inside => ?_, fun _ => rfl⟩
  · rw [create, quiet thread fun _ => rfl]
    exact iff_of_false Bool.false_ne_true nofun
  · rw [create, quiet thread fun _ => rfl] at inside
    cases inside

/-- The lock may be destroyed when no thread uses it. -/
theorem Exclusive.holder_eq_zero (exclusive : system.Exclusive ids)
    (outside : ∀ phase ∈ system.threads, phase.isOutside = true) : system.holder = 0 := by
  apply exclusive.free
  intro thread
  cases isPhase : system.threads[thread]? with
  | none => rfl
  | some phase =>
      have isOutside := outside phase (List.mem_of_getElem? isPhase)
      cases phase with
      | outside result => rfl
      | locking _ | locked _ | inside _ | unlocking _ | unassigned _ _ | blocked _ _ | woken _
      | reassigning _ => cases isOutside

/-- A thread without the mutex goes on. -/
theorem Exclusive.quiet (exclusive : system.Exclusive ids) {thread : Nat}
    {phase new : LockPhase Cond Call Result Position}
    (isPhase : system.threads[thread]? = some phase)
    (notOwning : phase.isOwning = false) (newNotOwning : new.isOwning = false) :
    (system.setThread thread new).Exclusive ids := by
  have notInside := LockPhase.isInside_eq_false notOwning
  have newNotInside := LockPhase.isInside_eq_false newNotOwning
  have same : ∀ (test : LockPhase Cond Call Result Position → Bool), test phase = false →
      test new = false → ∀ other : Nat, (system.threads.set thread new)[other]?.any test =
        system.threads[other]?.any test := by
    intro test before after other
    rw [any_set isPhase]
    split
    · rename_i isThread
      rw [← isThread, isPhase, after]
      exact before.symm
    · rfl
  refine ⟨fun other => ?_, fun other => ?_, fun none => exclusive.free fun other => ?_⟩
  · rw [setThread, same _ notOwning newNotOwning]
    exact exclusive.owner other
  · rw [setThread, same _ notInside newNotInside]
    exact exclusive.holder other
  · rw [← same _ notInside newNotInside]
    exact none other

/-- A thread gets the mutex. -/
theorem Exclusive.take (exclusive : system.Exclusive ids) {thread : Nat}
    {phase new : LockPhase Cond Call Result Position}
    (isPhase : system.threads[thread]? = some phase)
    (isFree : system.mutex = none) (isOwning : new.isOwning = true)
    (notInside : new.isInside = false) :
    ({ system with mutex := some thread }.setThread thread new).Exclusive ids := by
  have free : ∀ other : Nat, system.threads[other]?.any LockPhase.isOwning = false := by
    intro other
    apply Bool.eq_false_iff.mpr
    intro owns
    rw [(exclusive.owner other).mp owns] at isFree
    cases isFree
  have outside : ∀ other : Nat, system.threads[other]?.any LockPhase.isInside = false :=
    fun other => any_isInside_eq_false (free other)
  refine ⟨fun other => ?_, fun other inside => ?_, fun _ => exclusive.free outside⟩
  · rw [setThread, any_set isPhase]
    split
    · rename_i isThread
      rw [isOwning, isThread]
      exact iff_of_true rfl rfl
    · rename_i different
      rw [free]
      exact iff_of_false Bool.false_ne_true fun same => different (Option.some.inj same)
  · rw [setThread, any_set isPhase, outside] at inside
    split at inside
    · rw [notInside] at inside
      cases inside
    · cases inside

/-- The thread that has the mutex goes on with it; `holder_` is set where it is in the region. -/
theorem Exclusive.keep (exclusive : system.Exclusive ids) {thread : Nat}
    {phase new : LockPhase Cond Call Result Position}
    (isPhase : system.threads[thread]? = some phase)
    (isOwning : phase.isOwning = true) (newOwning : new.isOwning = true)
    {shared : Shared} {holder : Nat} {threads : List (LockPhase Cond Call Result Position)}
    (owners : ∀ other : Nat, threads[other]?.any LockPhase.isOwning =
      system.threads[other]?.any LockPhase.isOwning)
    (isHolder : holder = if new.isInside then ids.tid thread else 0) :
    (setThread { system with shared, holder, threads } thread new).Exclusive ids := by
  have owner := exclusive.owns isPhase isOwning
  have present : ∃ found, threads[thread]? = some found := by
    have some := owners thread
    rw [isPhase] at some
    rcases (Option.any_eq_true _ _).mp (some.trans isOwning) with ⟨found, isFound, -⟩
    exact ⟨found, isFound⟩
  rcases present with ⟨found, isFound⟩
  have others : ∀ other : Nat, thread ≠ other →
      threads[other]?.any LockPhase.isInside = false := by
    intro other different
    apply any_isInside_eq_false
    rw [owners other]
    exact exclusive.not_owning owner different
  refine ⟨fun other => ?_, fun other inside => ?_, fun none => ?_⟩
  · rw [setThread, any_set isFound]
    split
    · rename_i isThread
      rw [newOwning, ← isThread]
      exact iff_of_true rfl owner
    · rw [owners other]
      exact exclusive.owner other
  · rw [setThread, any_set isFound] at inside
    split at inside
    · rename_i isThread
      change holder = _
      rw [isHolder, inside, isThread]
      rfl
    · rename_i different
      rw [others other different] at inside
      cases inside
  · have notInside := none thread
    rw [setThread, any_set isFound, if_pos rfl] at notInside
    change holder = 0
    rw [isHolder, notInside]
    rfl

/-- A thread gives up the mutex. -/
theorem Exclusive.giveUp (exclusive : system.Exclusive ids) {thread : Nat}
    {phase new : LockPhase Cond Call Result Position}
    (isPhase : system.threads[thread]? = some phase)
    (isOwning : phase.isOwning = true) (notInside : phase.isInside = false)
    (notOwning : new.isOwning = false) :
    ({ system with mutex := none }.setThread thread new).Exclusive ids := by
  have owner := exclusive.owns isPhase isOwning
  have outside : ∀ other : Nat, system.threads[other]?.any LockPhase.isInside = false := by
    intro other
    by_cases same : thread = other
    · rw [← same, isPhase]
      exact notInside
    · exact any_isInside_eq_false (exclusive.not_owning owner same)
  refine ⟨fun other => ?_, fun other inside => ?_, fun _ => exclusive.free outside⟩
  · rw [setThread, any_set isPhase]
    split
    · rw [notOwning]
      exact iff_of_false Bool.false_ne_true nofun
    · rename_i different
      rw [exclusive.not_owning owner different]
      exact iff_of_false Bool.false_ne_true nofun
  · rw [setThread, any_set isPhase, outside] at inside
    split at inside
    · rw [LockPhase.isInside_eq_false notOwning] at inside
      cases inside
    · cases inside

/-! ## What a step can do -/

variable [DecidableEq Cond] {program : Guarded Shared Cond Call Result Position}
  {starts : Shared → List Result → Prop}

/-- A step within a locked region. -/
inductive Proceeds (program : Guarded Shared Cond Call Result Position) (shared : Shared)
    (threads : List (LockPhase Cond Call Result Position)) (position : Position) :
    Shared → List (LockPhase Cond Call Result Position) → Position → Prop
  | go {after : Shared} {next : Position} :
      program.access shared position = (after, .go next) →
      Proceeds program shared threads position after threads next
  | notify {after : Shared} {cond : Cond} {next : Position} {notified : Option Nat} :
      program.access shared position = (after, .notify cond next) →
      (waiters cond).Wakes threads notified →
      Proceeds program shared threads position after ((waiters cond).notify threads notified) next
  | notifyAll {after : Shared} {cond : Cond} {next : Position} :
      program.access shared position = (after, .notifyAll cond next) →
      Proceeds program shared threads position after ((waiters cond).notifyAll threads) next

inductive Step (program : Guarded Shared Cond Call Result Position) (ids : ThreadIds)
    (system : MutexSystem Shared Cond Call Result Position) :
    Action Call → MutexSystem Shared Cond Call Result Position → Prop
  | call {thread : Nat} {result : Result} {call : Call} :
      system.threads[thread]? = some (.outside result) →
      Step program ids system (.call thread call) (system.setThread thread (.locking call))
  | lock {thread : Nat} {call : Call} : system.threads[thread]? = some (.locking call) →
      system.mutex = none →
      Step program ids system (.lock thread)
        ({ system with mutex := some thread }.setThread thread (.locked call))
  | relock {thread : Nat} {position : Position} :
      system.threads[thread]? = some (.woken position) → system.mutex = none →
      Step program ids system (.relock thread)
        ({ system with mutex := some thread }.setThread thread (.reassigning position))
  | assign {thread : Nat} {call : Call} : system.threads[thread]? = some (.locked call) →
      Step program ids system (.assign thread)
        ((system.assignHolder ids thread).setThread thread (.inside (program.enter call)))
  | reassign {thread : Nat} {position : Position} :
      system.threads[thread]? = some (.reassigning position) →
      Step program ids system (.assign thread)
        ((system.assignHolder ids thread).setThread thread (.inside position))
  | proceed {thread : Nat} {notified : Option Nat} {position next : Position} {shared : Shared}
      {threads : List (LockPhase Cond Call Result Position)} :
      system.threads[thread]? = some (.inside position) →
      Proceeds program system.shared system.threads position shared threads next →
      Step program ids system (.access thread notified)
        ({ system with shared, threads }.setThread thread (.inside next))
  | wait {thread : Nat} {notified : Option Nat} {position next : Position} {shared : Shared}
      {cond : Cond} :
      system.threads[thread]? = some (.inside position) →
      program.access system.shared position = (shared, .wait cond next) →
      Step program ids system (.access thread notified)
        ({ system with shared }.unassignHolder.setThread thread (.unassigned cond next))
  | leave {thread : Nat} {notified : Option Nat} {position : Position} {shared : Shared}
      {result : Result} :
      system.threads[thread]? = some (.inside position) →
      program.access system.shared position = (shared, .leave result) →
      Step program ids system (.access thread notified)
        ({ system with shared }.unassignHolder.setThread thread (.unlocking result))
  | release {thread : Nat} {result : Result} :
      system.threads[thread]? = some (.unlocking result) →
      Step program ids system (.release thread)
        ({ system with mutex := none }.setThread thread (.outside result))
  | block {thread : Nat} {cond : Cond} {position : Position} :
      system.threads[thread]? = some (.unassigned cond position) →
      Step program ids system (.block thread)
        ({ system with mutex := none }.setThread thread (.blocked cond position))
  | wake {thread : Nat} {cond : Cond} {position : Position} :
      system.threads[thread]? = some (.blocked cond position) →
      Step program ids system (.wake thread) (system.setThread thread (.woken position))

theorem access_cases {thread : Nat} {position : Position} {notified : Option Nat}
    (isPhase : system.threads[thread]? = some (.inside position))
    (ran : system.access program thread position notified = some next) :
    Step program ids system (.access thread notified) next := by
  unfold access at ran
  split at ran
  · rename_i shared position accessed
    cases ran
    exact .proceed isPhase (.go accessed)
  · rename_i shared cond position accessed
    split at ran
    · rename_i wakes
      cases ran
      exact .proceed isPhase (.notify accessed wakes)
    · cases ran
  · rename_i shared cond position accessed
    cases ran
    exact .proceed isPhase (.notifyAll accessed)
  · rename_i shared cond position accessed
    cases ran
    exact .wait isPhase accessed
  · rename_i shared result accessed
    cases ran
    exact .leave isPhase accessed

theorem step_call {thread : Nat} {result : Result} (call : Call)
    (isPhase : system.threads[thread]? = some (.outside result)) :
    (machine program ids starts).step system (.call thread call) =
      .ok (system.setThread thread (.locking call)) := by
  simp only [machine, attempt, isPhase, Option.getD_some]

theorem allowed_call {thread : Nat} {result : Result} (call : Call)
    (isPhase : system.threads[thread]? = some (.outside result)) :
    (machine program ids starts).allowed system (.call thread call) := by
  simp only [machine, attempt, isPhase, Option.isSome_some]

/-- Each possible step succeeds, and is one of these. -/
theorem step_cases (exclusive : system.Exclusive ids) {action : Action Call}
    (allowed : (machine program ids starts).allowed system action) :
    ∃ next, (machine program ids starts).step system action = .ok next ∧
      Step program ids system action next := by
  rcases Option.isSome_iff_exists.mp allowed with ⟨result, attempted⟩
  have stepped : (machine program ids starts).step system action = result := by
    change (system.attempt program ids action).getD _ = _
    rw [attempted]
    rfl
  rw [stepped]
  unfold attempt at attempted
  cases action with
  | call thread call =>
      dsimp only at attempted
      split at attempted
      · rename_i outside isPhase
        cases attempted
        exact ⟨_, rfl, .call isPhase⟩
      · cases attempted
  | lock thread =>
      dsimp only at attempted
      split at attempted
      · rename_i call isPhase isFree
        cases attempted
        exact ⟨_, rfl, .lock isPhase isFree⟩
      · cases attempted
  | assign thread =>
      dsimp only at attempted
      split at attempted
      · rename_i call isPhase
        cases attempted
        exact ⟨_, rfl, .assign isPhase⟩
      · rename_i position isPhase
        cases attempted
        exact ⟨_, rfl, .reassign isPhase⟩
      · cases attempted
  | access thread notified =>
      dsimp only at attempted
      split at attempted
      · rename_i position isPhase
        rcases Option.map_eq_some_iff.mp attempted with ⟨next, ran, rfl⟩
        exact ⟨next, rfl, access_cases isPhase ran⟩
      · cases attempted
  | release thread =>
      dsimp only at attempted
      split at attempted
      · rename_i outside isPhase
        cases attempted
        refine ⟨_, ?_, .release isPhase⟩
        rw [giveUp, Checked.check_bind_of (exclusive.owns isPhase rfl)]
        rfl
      · cases attempted
  | block thread =>
      dsimp only at attempted
      split at attempted
      · rename_i cond position isPhase
        cases attempted
        refine ⟨_, ?_, .block isPhase⟩
        rw [giveUp, Checked.check_bind_of (exclusive.owns isPhase rfl)]
        rfl
      · cases attempted
  | wake thread =>
      dsimp only at attempted
      split at attempted
      · rename_i cond position isPhase
        cases attempted
        exact ⟨_, rfl, .wake isPhase⟩
      · cases attempted
  | relock thread =>
      dsimp only at attempted
      split at attempted
      · rename_i position isPhase isFree
        cases attempted
        exact ⟨_, rfl, .relock isPhase isFree⟩
      · cases attempted

/-- A thread that goes on in a locked region changes nothing about the others, but that some are
woken. -/
theorem Proceeds.getElem? {shared after : Shared}
    {threads woken : List (LockPhase Cond Call Result Position)} {position next : Position}
    (proceeds : Proceeds program shared threads position after woken next) (index : Nat) :
    woken[index]? = threads[index]? ∨ ∃ cond position,
      threads[index]? = some (.blocked cond position) ∧ woken[index]? = some (.woken position) := by
  cases proceeds with
  | go accessed => exact .inl rfl
  | @notify cond _ _ accessed wakes =>
      rcases ConditionVariable.notify_cases wakes with
        ⟨unchanged, _⟩ | ⟨chosen, phase, isPhase, isBlocked, changed⟩
      · rw [unchanged]
        exact .inl rfl
      · rcases LockPhase.isBlockedOn_eq_true isBlocked with ⟨position, rfl⟩
        rcases List.getElem?_eq_some_iff.mp isPhase with ⟨inside, -⟩
        rw [changed]
        by_cases same : chosen = index
        · cases same
          exact .inr ⟨cond, position, isPhase, List.getElem?_set_self inside⟩
        · exact .inl (List.getElem?_set_ne same)
  | @notifyAll cond _ accessed =>
      rw [ConditionVariable.notifyAll, List.getElem?_map]
      cases isPhase : threads[index]? with
      | none => exact .inl rfl
      | some phase =>
          rw [Option.map_some]
          cases isBlocked : (waiters cond).blocked phase with
          | false =>
              left
              rfl
          | true =>
              rcases LockPhase.isBlockedOn_eq_true isBlocked with ⟨position, rfl⟩
              exact .inr ⟨cond, position, rfl, rfl⟩

theorem Proceeds.any {shared after : Shared}
    {threads woken : List (LockPhase Cond Call Result Position)} {position next : Position}
    (proceeds : Proceeds program shared threads position after woken next)
    {test : LockPhase Cond Call Result Position → Bool}
    (asleep : ∀ cond position, test (.blocked cond position) = false)
    (awake : ∀ position, test (.woken position) = false) (index : Nat) :
    woken[index]?.any test = threads[index]?.any test := by
  rcases proceeds.getElem? index with same | ⟨cond, position, before, after⟩
  · rw [same]
  · rw [before, after]
    exact (awake position).trans (asleep cond position).symm

theorem Exclusive.step (exclusive : system.Exclusive ids) {action : Action Call}
    (step : Step program ids system action next) : next.Exclusive ids := by
  cases step with
  | call isPhase => exact exclusive.quiet isPhase rfl rfl
  | wake isPhase => exact exclusive.quiet isPhase rfl rfl
  | lock isPhase isFree => exact exclusive.take isPhase isFree rfl rfl
  | relock isPhase isFree => exact exclusive.take isPhase isFree rfl rfl
  | assign isPhase | reassign isPhase =>
      exact exclusive.keep isPhase rfl rfl (fun _ => rfl) rfl
  | proceed isPhase proceeds =>
      refine exclusive.keep isPhase rfl rfl (proceeds.any (fun _ _ => rfl) fun _ => rfl) ?_
      apply exclusive.holder
      rw [isPhase]
      rfl
  | wait isPhase accessed | leave isPhase accessed =>
      exact exclusive.keep isPhase rfl rfl (fun _ => rfl) rfl
  | release isPhase => exact exclusive.giveUp isPhase rfl rfl rfl
  | block isPhase => exact exclusive.giveUp isPhase rfl rfl rfl

theorem reachable_exclusive : (machine program ids starts).Safe ∧
    ∀ system, (machine program ids starts).Reachable system → system.Exclusive ids := by
  refine Machine.safe_of_invariant (Exclusive ids) ?_ ?_
  · rintro _ ⟨shared, results, -, rfl⟩
    exact create_exclusive shared results
  · intro system action exclusive allowed
    rcases step_cases exclusive allowed with ⟨next, ran, step⟩
    exact ⟨next, ran, exclusive.step step⟩

/-! ## Some thread can go on -/

theorem exists_access (system : MutexSystem Shared Cond Call Result Position) (thread : Nat)
    (position : Position) :
    ∃ notified, (system.access program thread position notified).isSome = true := by
  unfold access
  cases program.access system.shared position with
  | mk shared statement =>
      cases statement with
      | notify cond next =>
          rcases ConditionVariable.exists_wakes (waiters cond) system.threads with
            ⟨notified, wakes⟩
          exact ⟨notified, by simp only [if_pos wakes, Option.isSome_some]⟩
      | go next | notifyAll cond next | wait cond next | leave result => exact ⟨none, rfl⟩

/-- The thread with the mutex goes on, or any that waits for it if there is none. -/
theorem Exclusive.exists_action (exclusive : system.Exclusive ids)
    {phase : LockPhase Cond Call Result Position} (member : phase ∈ system.threads)
    (busy : phase.isOutside = false) (awake : phase.isBlocked = false) :
    ∃ action : Action Call, action.goesOn = true ∧
      (machine program ids starts).allowed system action := by
  cases isOwner : system.mutex with
  | some thread =>
      have owns := (exclusive.owner thread).mpr isOwner
      rcases (Option.any_eq_true _ _).mp owns with ⟨phase, isPhase, isOwning⟩
      have isPhase : system.threads[thread]? = some phase := isPhase
      cases phase with
      | locked call =>
          exact ⟨.assign thread, rfl, by simp only [machine, attempt, isPhase, Option.isSome_some]⟩
      | reassigning position =>
          exact ⟨.assign thread, rfl, by simp only [machine, attempt, isPhase, Option.isSome_some]⟩
      | inside position =>
          have some : ∃ notified, (system.access program thread position notified).isSome = true :=
            exists_access system thread position
          rcases some with ⟨notified, isSome⟩
          exact ⟨.access thread notified, rfl,
            by simp only [machine, attempt, isPhase, Option.isSome_map, isSome]⟩
      | unlocking result =>
          exact ⟨.release thread, rfl, by simp only [machine, attempt, isPhase, Option.isSome_some]⟩
      | unassigned cond position =>
          exact ⟨.block thread, rfl, by simp only [machine, attempt, isPhase, Option.isSome_some]⟩
      | outside _ | locking _ | blocked _ _ | woken _ => cases isOwning
  | none =>
      rcases List.getElem?_of_mem member with ⟨thread, isPhase⟩
      have notOwning : phase.isOwning = false := by
        apply Bool.eq_false_iff.mpr
        intro isOwning
        cases isOwner.symm.trans (exclusive.owns isPhase isOwning)
      cases phase with
      | locking call =>
          exact ⟨.lock thread, rfl,
            by simp only [machine, attempt, isPhase, isOwner, Option.isSome_some]⟩
      | woken position =>
          exact ⟨.relock thread, rfl,
            by simp only [machine, attempt, isPhase, isOwner, Option.isSome_some]⟩
      | outside result => cases busy
      | blocked cond position => cases awake
      | locked _ | inside _ | unlocking _ | unassigned _ _ | reassigning _ => cases notOwning

/-- However the threads are interleaved, no call of the thread library fails, one thread at most
has the mutex, `isLockedByThisThread` is true in the thread that runs in the locked region and in
no other, and `holder_` is 0 when the lock may be destroyed. -/
theorem lock_exclusive (reachable : (machine program ids starts).Reachable system) :
    (∀ action, (machine program ids starts).allowed system action →
      ∃ next, (machine program ids starts).step system action = .ok next) ∧
    (∀ first second : Nat, system.threads[first]?.any LockPhase.isOwning = true →
      system.threads[second]?.any LockPhase.isOwning = true → first = second) ∧
    (∀ (thread : Nat) phase, system.threads[thread]? = some phase →
      (system.isLockedByThisThread ids thread = true ↔ phase.isInside = true)) ∧
    ((∀ phase ∈ system.threads, phase.isOutside = true) → system.holder = 0) := by
  have exclusive := reachable_exclusive.2 system reachable
  refine ⟨reachable_exclusive.1 system reachable, ?_, ?_, exclusive.holder_eq_zero⟩
  · intro first second firstOwns secondOwns
    have owner := (exclusive.owner first).mp firstOwns
    rw [(exclusive.owner second).mp secondOwns] at owner
    exact (Option.some.inj owner).symm
  · intro thread phase isPhase
    have asked : system.isLockedByThisThread ids thread = true ↔
        system.holder = ids.tid thread := decide_eq_true_iff
    rw [asked]
    constructor
    · intro isHolder
      -- Some thread is inside, since `holder_` is not 0, and it is the one with this number.
      by_contra notInside
      have positive := ids.positive thread
      have none : ¬∀ other : Nat, system.threads[other]?.any LockPhase.isInside = false := by
        intro none
        rw [exclusive.free none] at isHolder
        omega
      rcases not_forall.mp none with ⟨other, inside⟩
      have holder := exclusive.holder other (eq_true_of_ne_false inside)
      have same := ids.injective thread other (isHolder.symm.trans holder)
      rw [← same, isPhase] at inside
      exact inside (Bool.eq_false_iff.mpr notInside)
    · intro inside
      apply exclusive.holder
      rw [isPhase]
      exact inside

/-- A thread waits on a condition, and the one that has notified it is still inside. -/
theorem lock_exclusive_notified :
    let program : Guarded Nat Unit Bool Unit Bool := {
      enter := id
      access shared waits :=
        if waits then (shared, .wait () false) else (shared, .notify () false) }
    let ids : ThreadIds := ⟨(· + 1), Nat.succ_pos, fun _ _ => Nat.succ.inj⟩
    ∃ system, (machine program ids fun _ _ => True).Reachable system ∧
      system.threads = [.woken false, .inside false] ∧
      (system.isLockedByThisThread ids 0 = true ↔
        (LockPhase.woken false : LockPhase Unit Bool Unit Bool).isInside = true) ∧
      (system.isLockedByThisThread ids 1 = true ↔
        (LockPhase.inside false : LockPhase Unit Bool Unit Bool).isInside = true) := by
  intro program ids
  have run := Machine.exists_reachable (machine program ids fun _ _ => True)
    (fun system => system.threads = [.woken false, .inside false])
    ⟨0, [(), ()], trivial, rfl⟩
    [.call 0 true, .call 1 false, .lock 0, .assign 0, .access 0 none, .block 0, .lock 1,
      .assign 1, .access 1 (some 0)]
    (by decide +kernel)
  rcases run with ⟨system, reachable, threads⟩
  rcases lock_exclusive reachable with ⟨_, _, asked, _⟩
  exact ⟨system, reachable, threads, asked 0 _ (by rw [threads]; rfl),
    asked 1 _ (by rw [threads]; rfl)⟩

end MutexSystem

end Ccnet.Base
