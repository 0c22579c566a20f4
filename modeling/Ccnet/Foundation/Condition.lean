import Mathlib.Algebra.GroupWithZero.Nat
import Mathlib.Data.List.Perm.Basic

namespace Ccnet

/-! Threads that block on a condition variable. A thread is in some phase; one that is
blocked is woken by a signal, or for no reason at all, and has then to get the lock
again before it can look at the condition. -/

/-- The phases that are blocked in `wait`, and where a thread goes that is woken. -/
structure ConditionVariable (Phase : Type u) where
  blocked : Phase → Bool
  wake : Phase → Phase

/-! ## One thread changes its phase -/

section Change

variable {Phase : Type u} {threads : List Phase} {index : Nat} {phase : Phase}

theorem exists_others (isPhase : threads[index]? = some phase) :
    ∃ others, threads.Perm (phase :: others) ∧
      ∀ next, (threads.set index next).Perm (next :: others) := by
  rcases List.getElem?_eq_some_iff.mp isPhase with ⟨inside, rfl⟩
  exact ⟨threads.eraseIdx index, (List.getElem_cons_eraseIdx_perm inside).symm,
    fun next => List.set_perm_cons_eraseIdx inside next⟩

theorem countP_change (isPhase : threads[index]? = some phase) (next : Phase)
    (counted : Phase → Bool) :
    (threads.set index next).countP counted + (counted phase).toNat =
      threads.countP counted + (counted next).toNat := by
  rcases exists_others isPhase with ⟨others, before, after⟩
  rw [before.countP_eq, (after next).countP_eq, List.countP_cons, List.countP_cons]
  cases counted phase <;> cases counted next <;> simp

theorem sum_change (isPhase : threads[index]? = some phase) (next : Phase)
    (weight : Phase → Nat) :
    ((threads.set index next).map weight).sum + weight phase =
      (threads.map weight).sum + weight next := by
  rcases exists_others isPhase with ⟨others, before, after⟩
  rw [(before.map weight).sum_nat, ((after next).map weight).sum_nat, List.map_cons,
    List.map_cons, List.sum_cons, List.sum_cons]
  omega

/-- What the threads have in their hands. -/
theorem filterMap_change {Item : Type v} (isPhase : threads[index]? = some phase)
    (held : Phase → Option Item) :
    ∃ others, (threads.filterMap held).Perm ((held phase).toList ++ others) ∧
      ∀ next, ((threads.set index next).filterMap held).Perm ((held next).toList ++ others) := by
  rcases exists_others isPhase with ⟨others, before, after⟩
  have split : ∀ first, (first :: others).filterMap held =
      (held first).toList ++ others.filterMap held := by
    intro first
    cases isHeld : held first <;> simp [isHeld]
  refine ⟨others.filterMap held, ?_, ?_⟩
  · rw [← split]
    exact before.filterMap held
  · intro next
    rw [← split]
    exact (after next).filterMap held

end Change

namespace ConditionVariable

variable {Phase : Type u} (condition : ConditionVariable Phase)

/-- The threads that a signal may wake: a blocked one, if there is any. -/
def Wakes (threads : List Phase) : Option Nat → Prop
  | none => ∀ phase ∈ threads, condition.blocked phase = false
  | some index => ∃ phase ∈ threads[index]?, condition.blocked phase = true

def notify (threads : List Phase) : Option Nat → List Phase
  | none => threads
  | some index => threads.modify index condition.wake

def notifyAll (threads : List Phase) : List Phase :=
  threads.map fun phase => if condition.blocked phase then condition.wake phase else phase

instance (threads : List Phase) : (notified : Option Nat) →
    Decidable (condition.Wakes threads notified)
  | none => inferInstanceAs (Decidable (∀ phase ∈ threads, condition.blocked phase = false))
  | some index =>
      inferInstanceAs (Decidable (∃ phase ∈ threads[index]?, condition.blocked phase = true))

variable {condition} {threads : List Phase} {notified : Option Nat}

theorem exists_wakes (condition : ConditionVariable Phase) (threads : List Phase) :
    ∃ notified, condition.Wakes threads notified := by
  by_cases isBlocked : ∃ phase ∈ threads, condition.blocked phase = true
  · rcases isBlocked with ⟨phase, member, isBlocked⟩
    rcases List.getElem?_of_mem member with ⟨index, isPhase⟩
    exact ⟨some index, phase, isPhase, isBlocked⟩
  · refine ⟨none, ?_⟩
    intro phase member
    exact Bool.eq_false_iff.mpr (fun found => isBlocked ⟨phase, member, found⟩)

theorem notify_some {index : Nat} {phase : Phase} (isPhase : threads[index]? = some phase) :
    condition.notify threads (some index) = threads.set index (condition.wake phase) := by
  rw [notify, List.modify_eq_set_getElem?, isPhase]
  rfl

theorem notify_cases (wakes : condition.Wakes threads notified) :
    (condition.notify threads notified = threads ∧
      ∀ phase ∈ threads, condition.blocked phase = false) ∨
    ∃ index phase, threads[index]? = some phase ∧ condition.blocked phase = true ∧
      condition.notify threads notified = threads.set index (condition.wake phase) := by
  cases notified with
  | none => exact .inl ⟨rfl, wakes⟩
  | some index =>
      rcases wakes with ⟨phase, isPhase, isBlocked⟩
      refine .inr ⟨index, phase, isPhase, isBlocked, ?_⟩
      rw [notify, List.modify_eq_set_getElem?, Option.mem_def.mp isPhase]
      rfl

/-- A signal is no matter to what does not tell a woken thread from a blocked one. -/
theorem countP_notify (wakes : condition.Wakes threads notified) {counted : Phase → Bool}
    (same : ∀ phase, condition.blocked phase = true →
      counted (condition.wake phase) = counted phase) :
    (condition.notify threads notified).countP counted = threads.countP counted := by
  rcases notify_cases wakes with ⟨unchanged, _⟩ | ⟨index, phase, isPhase, isBlocked, changed⟩
  · rw [unchanged]
  · have count := countP_change isPhase (condition.wake phase) counted
    rw [same phase isBlocked] at count
    rw [changed]
    omega

theorem filterMap_notify {Item : Type v} (wakes : condition.Wakes threads notified)
    {held : Phase → Option Item}
    (same : ∀ phase, condition.blocked phase = true →
      held (condition.wake phase) = held phase) :
    ((condition.notify threads notified).filterMap held).Perm (threads.filterMap held) := by
  rcases notify_cases wakes with ⟨unchanged, _⟩ | ⟨index, phase, isPhase, isBlocked, changed⟩
  · rw [unchanged]
  · rcases filterMap_change isPhase held with ⟨others, before, after⟩
    rw [changed]
    refine (after _).trans ?_
    rw [same phase isBlocked]
    exact before.symm

/-- A signal wakes no thread that is not blocked. -/
theorem getElem?_notify {index : Nat} {phase : Phase}
    (wakes : condition.Wakes threads notified) (isPhase : threads[index]? = some phase)
    (notBlocked : condition.blocked phase = false) :
    (condition.notify threads notified)[index]? = some phase := by
  rcases notify_cases wakes with ⟨unchanged, _⟩ | ⟨woken, found, isFound, isBlocked, changed⟩
  · rw [unchanged, isPhase]
  · have different : woken ≠ index := by
      rintro rfl
      cases isFound.symm.trans isPhase
      rw [notBlocked] at isBlocked
      cases isBlocked
    rw [changed, List.getElem?_set_ne different, isPhase]

theorem not_blocked_notify (wakes : condition.Wakes threads notified) {phase : Phase}
    (wakesUp : ∀ phase, condition.blocked phase = true →
      condition.blocked (condition.wake phase) = false)
    (none : ∀ phase ∈ threads, condition.blocked phase = false)
    (member : phase ∈ condition.notify threads notified) : condition.blocked phase = false := by
  rcases notify_cases wakes with ⟨unchanged, _⟩ | ⟨index, found, _, isBlocked, changed⟩
  · rw [unchanged] at member
    exact none phase member
  · rw [changed] at member
    rcases List.mem_or_eq_of_mem_set member with old | rfl
    · exact none phase old
    · exact wakesUp found isBlocked

/-! ## No signal is lost -/

/-- As long as a thread is blocked, enough others are on their way to what is there. -/
def Served (condition : ConditionVariable Phase) (ready : Phase → Bool) (threads : List Phase)
    (load : Nat) : Prop :=
  (∃ phase ∈ threads, condition.blocked phase = true) → load ≤ threads.countP ready

variable {ready : Phase → Bool} {load : Nat}

theorem Served.of_none (none : ∀ phase ∈ threads, condition.blocked phase = false) :
    condition.Served ready threads load := by
  rintro ⟨phase, member, isBlocked⟩
  rw [none phase member] at isBlocked
  cases isBlocked

theorem Served.zero : condition.Served ready threads 0 := fun _ => Nat.zero_le _

/-- A thread goes on, unblocked. -/
theorem Served.change {index after : Nat} {phase next : Phase}
    (served : condition.Served ready threads load) (isPhase : threads[index]? = some phase)
    (notBlocked : condition.blocked next = false)
    (fewer : after + (ready phase).toNat ≤ load + (ready next).toNat) :
    condition.Served ready (threads.set index next) after := by
  rintro ⟨found, member, isBlocked⟩
  have count := countP_change isPhase next ready
  have before : found ∈ threads := by
    rcases List.mem_or_eq_of_mem_set member with old | rfl
    · exact old
    · rw [notBlocked] at isBlocked
      cases isBlocked
  have bound := served ⟨found, before, isBlocked⟩
  omega

/-- Something is added, and a thread is signalled. -/
theorem Served.notify (served : condition.Served ready threads load)
    (wakes : condition.Wakes threads notified)
    (wakesUp : ∀ phase, condition.blocked phase = true →
      condition.blocked (condition.wake phase) = false ∧
        ready (condition.wake phase) = true ∧ ready phase = false) :
    condition.Served ready (condition.notify threads notified) (load + 1) := by
  rcases notify_cases wakes with ⟨unchanged, none⟩ | ⟨index, phase, isPhase, isBlocked, changed⟩
  · rw [unchanged]
    exact .of_none none
  · rcases wakesUp phase isBlocked with ⟨notBlocked, isReady, notReady⟩
    rw [changed]
    refine served.change isPhase notBlocked ?_
    rw [isReady, notReady]
    exact Nat.le_refl _

/-- A thread is signalled that waits for something else. -/
theorem Served.notify_other {other : ConditionVariable Phase}
    (served : condition.Served ready threads load) (wakes : other.Wakes threads notified)
    (elsewhere : ∀ phase, other.blocked phase = true →
      condition.blocked (other.wake phase) = false ∧ ready phase = false) :
    condition.Served ready (other.notify threads notified) load := by
  rcases notify_cases wakes with ⟨unchanged, _⟩ | ⟨index, phase, isPhase, isBlocked, changed⟩
  · rw [unchanged]
    exact served
  · rcases elsewhere phase isBlocked with ⟨notBlocked, notReady⟩
    rw [changed]
    refine served.change isPhase notBlocked ?_
    rw [notReady]
    exact Nat.le_add_right _ _

end ConditionVariable

end Ccnet
