import Ccnet.Foundation.Fault

namespace Ccnet

/-! State machines whose steps may fault. An action is a choice of the
environment: which call is made, by whom, and what the outside world answers.
`allowed` states what the callers promise and the platform guarantees. -/

structure Machine (State : Type u) (Action : Type v) where
  initial : State → Prop
  allowed : State → Action → Prop
  step : State → Action → Checked State

namespace Machine

variable {State : Type u} {Action : Type v}

inductive Reachable (machine : Machine State Action) : State → Prop
  | initial {state : State} :
      machine.initial state → Reachable machine state
  | step {current next : State} {action : Action} :
      Reachable machine current →
      machine.allowed current action →
      machine.step current action = .ok next →
      Reachable machine next

/-- No reachable state has an allowed action that faults. -/
def Safe (machine : Machine State Action) : Prop :=
  ∀ state, machine.Reachable state → ∀ action, machine.allowed state action →
    ∃ next, machine.step state action = .ok next

/-- The same machine, with only the steps that meet a further condition. -/
def restrict (machine : Machine State Action)
    (condition : State → Action → Prop) : Machine State Action where
  initial := machine.initial
  allowed state action := machine.allowed state action ∧ condition state action
  step := machine.step

/-- The same machine, started in a given state. -/
def startingAt (machine : Machine State Action) (state : State) : Machine State Action where
  initial first := first = state
  allowed := machine.allowed
  step := machine.step

theorem Reachable.invariant {machine : Machine State Action}
    (Invariant : State → Prop)
    (starts : ∀ state, machine.initial state → Invariant state)
    (preserves : ∀ current action next, Invariant current →
      machine.allowed current action →
      machine.step current action = .ok next → Invariant next)
    {state : State} (reachable : machine.Reachable state) :
    Invariant state := by
  induction reachable with
  | initial start => exact starts _ start
  | step _ allowed step induction => exact preserves _ _ _ induction allowed step

/-- The rule for an invariant whose step uses what is known of every reachable state. -/
theorem Reachable.invariant_knowing {machine : Machine State Action}
    {Known : State → Prop} (known : ∀ state, machine.Reachable state → Known state)
    (Invariant : State → Prop)
    (starts : ∀ state, machine.initial state → Invariant state)
    (preserves : ∀ current action next, Known current → Invariant current →
      machine.allowed current action →
      machine.step current action = .ok next → Invariant next)
    {state : State} (reachable : machine.Reachable state) :
    Invariant state := by
  induction reachable with
  | initial start => exact starts _ start
  | step before allowed step induction =>
      exact preserves _ _ _ (known _ before) induction allowed step

theorem Reachable.of_restrict {machine : Machine State Action}
    {condition : State → Action → Prop} {state : State}
    (reachable : (machine.restrict condition).Reachable state) :
    machine.Reachable state := by
  induction reachable with
  | initial start => exact .initial start
  | step _ allowed step induction => exact .step induction allowed.1 step

theorem Reachable.startingAt_trans {machine : Machine State Action} {first second third : State}
    (before : (machine.startingAt first).Reachable second)
    (after : (machine.startingAt second).Reachable third) :
    (machine.startingAt first).Reachable third := by
  induction after with
  | initial start =>
      cases start
      exact before
  | step _ allowed step induction => exact .step induction allowed step

/-- The rule for machines that also never fault: each allowed step from a
state with the invariant succeeds and keeps it. -/
theorem safe_of_invariant {machine : Machine State Action}
    (Invariant : State → Prop)
    (starts : ∀ state, machine.initial state → Invariant state)
    (preserves : ∀ current action, Invariant current →
      machine.allowed current action →
      ∃ next, machine.step current action = .ok next ∧ Invariant next) :
    machine.Safe ∧ ∀ state, machine.Reachable state → Invariant state := by
  have holds : ∀ state, machine.Reachable state → Invariant state := by
    intro state reachable
    refine reachable.invariant Invariant starts ?_
    intro current action next invariant allowed step
    rcases preserves current action invariant allowed with ⟨found, foundStep, kept⟩
    rw [foundStep] at step
    cases step
    exact kept
  refine ⟨?_, holds⟩
  intro state reachable action allowed
  rcases preserves state action (holds state reachable) allowed with ⟨next, step, _⟩
  exact ⟨next, step⟩

/-! ## Runs on concrete inputs -/

/-- The state after the listed actions, if each is allowed and succeeds. -/
def execute (machine : Machine State Action)
    [∀ state action, Decidable (machine.allowed state action)]
    (state : State) : List Action → Option State
  | [] => some state
  | action :: actions =>
      if machine.allowed state action then
        match machine.step state action with
        | .ok next => machine.execute next actions
        | .error _ => none
      else
        none

theorem Reachable.execute {machine : Machine State Action}
    [∀ state action, Decidable (machine.allowed state action)]
    {first last : State} {actions : List Action}
    (reachable : machine.Reachable first)
    (executed : machine.execute first actions = some last) :
    machine.Reachable last := by
  induction actions generalizing first with
  | nil =>
      cases executed
      exact reachable
  | cons action actions induction =>
      simp only [Machine.execute] at executed
      split at executed
      · rename_i allowed
        split at executed
        · rename_i next stepped
          exact induction (.step reachable allowed stepped) executed
        · cases executed
      · cases executed

/-- Evaluating a list of actions exhibits a reachable state with a property. -/
theorem exists_reachable (machine : Machine State Action)
    [∀ state action, Decidable (machine.allowed state action)]
    (Property : State → Prop) [DecidablePred Property] {first : State}
    (starts : machine.initial first) (actions : List Action)
    (holds : (machine.execute first actions).any (fun state => Property state) = true) :
    ∃ state, machine.Reachable state ∧ Property state := by
  rw [Option.any_eq_true] at holds
  rcases holds with ⟨last, executed, property⟩
  exact ⟨last, (Reachable.initial starts).execute executed, of_decide_eq_true property⟩

instance (machine : Machine State Action) (condition : State → Action → Prop)
    [∀ state action, Decidable (machine.allowed state action)]
    [∀ state action, Decidable (condition state action)] (state : State)
    (action : Action) : Decidable ((machine.restrict condition).allowed state action) :=
  inferInstanceAs (Decidable (_ ∧ _))

instance (machine : Machine State Action) [∀ state action, Decidable (machine.allowed state action)]
    (first state : State) (action : Action) :
    Decidable ((machine.startingAt first).allowed state action) :=
  inferInstanceAs (Decidable (machine.allowed state action))

end Machine

end Ccnet
