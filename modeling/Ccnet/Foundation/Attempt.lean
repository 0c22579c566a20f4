import Ccnet.Foundation.Fault

namespace Ccnet

/-! Code on a state that can throw. An exception leaves the state as it was when it was
thrown, and can be caught; a fault ends everything. -/

def Attempt (State α : Type) : Type := State → Checked (Except String α × State)

namespace Attempt

variable {State α β : Type}

instance : Monad (Attempt State) where
  pure value := fun state => .ok (.ok value, state)
  bind first next := fun state =>
    match first state with
    | .ok (.ok value, after) => next value after
    | .ok (.error what, after) => .ok (.error what, after)
    | .error fault => .error fault

def raise (what : String) : Attempt State α := fun state => .ok (.error what, state)

def require (condition : Prop) [Decidable condition] (what : String) : Attempt State Unit :=
  if condition then pure () else raise what

def lift (checked : Checked α) : Attempt State α := fun state => do
  let value ← checked
  return (.ok value, state)

def get : Attempt State State := fun state => .ok (.ok state, state)

def modify (change : State → State) : Attempt State Unit := fun state =>
  .ok (.ok (), change state)

/-- A loop of so many rounds, counted from `first`, that collects what they return. -/
def loopFrom (body : Nat → Attempt State α) : Nat → Nat → Attempt State (List α)
  | _, 0 => pure []
  | first, count + 1 => do
      let value ← body first
      let values ← loopFrom body (first + 1) count
      return value :: values

def loop (count : Nat) (body : Nat → Attempt State α) : Attempt State (List α) :=
  loopFrom body 0 count

/-- A sequence ends where its first part throws, or else where its second part ends. -/
theorem bind_eq_iff {first : Attempt State α} {next : α → Attempt State β}
    {state final : State} {result : Except String β} :
    (first >>= next) state = .ok (result, final) ↔
      (∃ value after, first state = .ok (.ok value, after) ∧
        next value after = .ok (result, final)) ∨
      ∃ what, first state = .ok (.error what, final) ∧ result = .error what := by
  change (match first state with
    | .ok (.ok value, after) => next value after
    | .ok (.error what, after) => .ok (.error what, after)
    | .error fault => .error fault) = _ ↔ _
  constructor
  · intro ran
    split at ran
    · rename_i value after started
      exact .inl ⟨value, after, started, ran⟩
    · rename_i what after started
      cases ran
      exact .inr ⟨what, started, rfl⟩
    · cases ran
  · rintro (⟨value, after, started, ran⟩ | ⟨what, started, rfl⟩)
    · rw [started]
      exact ran
    · rw [started]

theorem bind_eq_ok_iff {first : Attempt State α} {next : α → Attempt State β}
    {state final : State} {result : β} :
    (first >>= next) state = .ok (.ok result, final) ↔
      ∃ value after, first state = .ok (.ok value, after) ∧
        next value after = .ok (.ok result, final) := by
  rw [bind_eq_iff]
  constructor
  · rintro (ran | ⟨what, -, impossible⟩)
    · exact ran
    · cases impossible
  · exact .inl

/-! ## When an attempt succeeds -/

/-- From a state the attempt succeeds exactly under a condition, and then with this value
and in this state. -/
def Succeeds (attempt : Attempt State α) (state : State) (condition : Prop) (value : α)
    (after : State) : Prop :=
  ∀ result final, attempt state = .ok (.ok result, final) ↔
    condition ∧ result = value ∧ final = after

namespace Succeeds

variable {attempt first : Attempt State α} {next : α → Attempt State β}
  {state after final : State} {condition further : Prop} {value : α} {result : β}

theorem of_ran (ran : attempt state = .ok (.ok value, after)) :
    attempt.Succeeds state True value after := by
  intro result final
  constructor
  · intro alsoRan
    cases ran.symm.trans alsoRan
    exact ⟨trivial, rfl, rfl⟩
  · rintro ⟨-, rfl, rfl⟩
    exact ran

theorem pure (value : α) (state : State) :
    Succeeds (Pure.pure value) state True value state := of_ran rfl

theorem get (state : State) : Succeeds Attempt.get state True state state := of_ran rfl

theorem modify (change : State → State) (state : State) :
    Succeeds (Attempt.modify change) state True () (change state) := of_ran rfl

theorem require (condition : Prop) [Decidable condition] (what : String) (state : State) :
    Succeeds (Attempt.require condition what) state condition () state := by
  intro result final
  by_cases holds : condition
  · rw [Attempt.require, if_pos holds, Succeeds.pure () state]
    exact and_congr_left fun _ => iff_of_true trivial holds
  · rw [Attempt.require, if_neg holds]
    constructor
    · intro ran
      cases ran
    · intro met
      exact absurd met.1 holds

theorem lift {checked : Checked α} (ran : ∀ result, checked = .ok result ↔
    condition ∧ result = value) (state : State) :
    Succeeds (Attempt.lift checked) state condition value state := by
  intro result final
  have unfolded : Attempt.lift checked state = .ok (.ok result, final) ↔
      checked = .ok result ∧ final = state := by
    unfold Attempt.lift
    rw [Checked.bind_eq_ok_iff]
    constructor
    · rintro ⟨found, isFound, returned⟩
      cases returned
      exact ⟨isFound, rfl⟩
    · rintro ⟨isFound, rfl⟩
      exact ⟨result, isFound, rfl⟩
  rw [unfolded, ran, and_assoc]

theorem bind (succeeds : first.Succeeds state condition value after)
    (later : condition → (next value).Succeeds after further result final) :
    (first >>= next).Succeeds state (condition ∧ further) result final := by
  intro found last
  rw [bind_eq_ok_iff]
  constructor
  · rintro ⟨middle, between, started, ran⟩
    rcases (succeeds middle between).mp started with ⟨holds, rfl, rfl⟩
    rcases (later holds found last).mp ran with ⟨also, rfl, rfl⟩
    exact ⟨⟨holds, also⟩, rfl, rfl⟩
  · rintro ⟨⟨holds, also⟩, rfl, rfl⟩
    exact ⟨value, after, (succeeds _ _).mpr ⟨holds, rfl, rfl⟩,
      (later holds _ _).mpr ⟨also, rfl, rfl⟩⟩

theorem congr (succeeds : attempt.Succeeds state condition value after)
    (same : further ↔ condition) : attempt.Succeeds state further value after := by
  intro result final
  rw [succeeds result final, same]

theorem map (succeeds : attempt.Succeeds state condition value after) (function : α → β) :
    (attempt >>= fun found => Pure.pure (function found)).Succeeds state condition
      (function value) after := by
  refine (succeeds.bind fun _ => Succeeds.pure (function value) after).congr ?_
  rw [and_true]

theorem loopFrom {body : Nat → Attempt State α} {states : Nat → State}
    {conditions : Nat → Prop} {values : Nat → α} {first count : Nat}
    (round : ∀ i, first ≤ i → i < first + count →
      (body i).Succeeds (states i) (conditions i) (values i) (states (i + 1))) :
    (Attempt.loopFrom body first count).Succeeds (states first)
      (∀ i, first ≤ i → i < first + count → conditions i)
      ((List.range' first count).map values) (states (first + count)) := by
  induction count generalizing first with
  | zero =>
      refine (Succeeds.pure [] (states first)).congr ?_
      constructor
      · intro _
        trivial
      · intro _ i _ _
        omega
  | succ count induction =>
      have head := round first (Nat.le_refl _) (by omega)
      have tail := @induction (first + 1) fun i low high => round i (by omega) (by omega)
      rw [Nat.add_right_comm, Nat.add_assoc] at tail
      have all : (Attempt.loopFrom body first (count + 1)).Succeeds (states first)
          (conditions first ∧ (∀ i, first + 1 ≤ i → i < first + (count + 1) → conditions i) ∧
            True)
          (values first :: (List.range' (first + 1) count).map values)
          (states (first + (count + 1))) := by
        rw [Attempt.loopFrom]
        exact head.bind fun _ => tail.bind fun _ => Succeeds.pure _ _
      refine all.congr ?_
      constructor
      · intro every
        refine ⟨every first (Nat.le_refl _) (by omega), ?_, trivial⟩
        intro i low high
        exact every i (by omega) (by omega)
      · rintro ⟨holds, later, -⟩ i low high
        by_cases isFirst : i = first
        · exact isFirst ▸ holds
        · exact later i (by omega) (by omega)

theorem loop {body : Nat → Attempt State α} (states : Nat → State)
    {conditions : Nat → Prop} {values : Nat → α} {count : Nat}
    (round : ∀ i < count,
      (body i).Succeeds (states i) (conditions i) (values i) (states (i + 1))) :
    (Attempt.loop count body).Succeeds (states 0) (∀ i < count, conditions i)
      ((List.range count).map values) (states count) := by
  have all := @loopFrom _ _ body states conditions values 0 count fun i _ high =>
    round i (Nat.zero_add count ▸ high)
  rw [← List.range_eq_range', Nat.zero_add] at all
  refine all.congr ?_
  constructor
  · intro every i _ high
    exact every i high
  · intro every i high
    exact every i (Nat.zero_le i) high

end Succeeds

/-! ## What an exception leaves behind -/

/-- However the attempt ends, what holds of the state before holds after. -/
def Keeps (holds : State → Prop) (attempt : Attempt State α) : Prop :=
  ∀ state result after, holds state → attempt state = .ok (result, after) → holds after

/-- The same where the attempt throws. -/
def ThrowsKeeping (holds : State → Prop) (attempt : Attempt State α) : Prop :=
  ∀ state what after, holds state → attempt state = .ok (.error what, after) → holds after

variable {holds : State → Prop}

theorem Keeps.bind {first : Attempt State α} {next : α → Attempt State β}
    (keeps : first.Keeps holds) (later : ∀ value, (next value).Keeps holds) :
    (first >>= next).Keeps holds := by
  intro state result after before ran
  rcases bind_eq_iff.mp ran with ⟨value, between, started, ended⟩ | ⟨what, started, -⟩
  · exact later value _ _ _ (keeps _ _ _ before started) ended
  · exact keeps _ _ _ before started

theorem ThrowsKeeping.bind {first : Attempt State α} {next : α → Attempt State β}
    (keeps : first.Keeps holds) (later : ∀ value, (next value).ThrowsKeeping holds) :
    (first >>= next).ThrowsKeeping holds := by
  intro state what after before ran
  rcases bind_eq_iff.mp ran with ⟨value, between, started, ended⟩ | ⟨thrown, started, -⟩
  · exact later value _ _ _ (keeps _ _ _ before started) ended
  · exact keeps _ _ _ before started

theorem Keeps.pure (value : α) : Keeps holds (Pure.pure value : Attempt State α) := by
  intro state result after before ran
  cases ran
  exact before

theorem Keeps.get : Keeps holds (Attempt.get : Attempt State State) := by
  intro state result after before ran
  cases ran
  exact before

theorem Keeps.require (condition : Prop) [Decidable condition] (what : String) :
    Keeps holds (Attempt.require condition what : Attempt State Unit) := by
  intro state result after before ran
  unfold Attempt.require at ran
  split at ran <;> cases ran <;> exact before

theorem Keeps.lift (checked : Checked α) :
    Keeps holds (Attempt.lift checked : Attempt State α) := by
  intro state result after before ran
  rcases Checked.bind_eq_ok_iff.mp ran with ⟨value, -, returned⟩
  cases returned
  exact before

theorem Keeps.modify {change : State → State} (step : ∀ state, holds state →
    holds (change state)) : Keeps holds (Attempt.modify change) := by
  intro state result after before ran
  cases ran
  exact step state before

theorem ThrowsKeeping.modify (change : State → State) :
    ThrowsKeeping holds (Attempt.modify change) := by
  intro state what after before ran
  cases ran

theorem Keeps.loop {body : Nat → Attempt State α} (round : ∀ i, (body i).Keeps holds)
    (count : Nat) : (Attempt.loop count body).Keeps holds := by
  unfold Attempt.loop
  generalize 0 = first
  induction count generalizing first with
  | zero => exact .pure []
  | succ count induction =>
      rw [loopFrom]
      exact (round first).bind fun value =>
        (induction (first + 1)).bind fun values => .pure (value :: values)

end Attempt

end Ccnet
