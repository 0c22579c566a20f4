import Mathlib.Logic.Function.Basic

namespace Ccnet

/-! Slots whose names are used again, such as file descriptors. A ledger numbers
what has been opened in them, so that "closed once" can be said of each opening
and not of a slot. -/

/-- `current` is the opening behind each open slot; `closed` and `delivered` are the
openings that were behind the slots closed and handed over so far. -/
structure Ledger (Slot : Type u) where
  current : Slot → Option Nat
  opened : Nat
  closed : List (Option Nat)
  delivered : List (Option Nat)

namespace Ledger

section Operations

variable {Slot : Type u} [DecidableEq Slot]

def empty : Ledger Slot where
  current _ := none
  opened := 0
  closed := []
  delivered := []

def acquire (ledger : Ledger Slot) (slot : Slot) : Ledger Slot :=
  { ledger with
    current := Function.update ledger.current slot (some ledger.opened)
    opened := ledger.opened + 1 }

def close (ledger : Ledger Slot) (slot : Slot) : Ledger Slot :=
  { ledger with
    current := Function.update ledger.current slot none
    closed := ledger.closed ++ [ledger.current slot] }

/-- The slot stays open, but another owner has it now. -/
def deliver (ledger : Ledger Slot) (slot : Slot) : Ledger Slot :=
  { ledger with delivered := ledger.delivered ++ [ledger.current slot] }

/-- The other owner closes the slot. -/
def release (ledger : Ledger Slot) (slot : Slot) : Ledger Slot :=
  { ledger with current := Function.update ledger.current slot none }

end Operations

variable {Slot : Type u}

/-- Whether the opening is the one in the slot that is held. -/
def holding (ledger : Ledger Slot) (held : Option Slot) (opening : Nat) : Nat :=
  if held.bind ledger.current = some opening then 1 else 0

/-- Each opening is held, was closed or was handed over: one of these, and once. -/
structure Accounted (ledger : Ledger Slot) (held : Option Slot) : Prop where
  bounded : ∀ slot opening, ledger.current slot = some opening → opening < ledger.opened
  injective : ∀ left right opening, ledger.current left = some opening →
    ledger.current right = some opening → left = right
  once : ∀ opening < ledger.opened, ledger.holding held opening +
    ledger.closed.count (some opening) + ledger.delivered.count (some opening) = 1
  past : ∀ opening, some opening ∈ ledger.closed ∨ some opening ∈ ledger.delivered →
    opening < ledger.opened
  known : none ∉ ledger.closed ∧ none ∉ ledger.delivered
  holds : ∀ slot ∈ held, ledger.current slot ≠ none

theorem Accounted.empty [DecidableEq Slot] :
    (empty : Ledger Slot).Accounted none := by
  constructor <;> simp [Ledger.empty]

theorem holding_none (ledger : Ledger Slot) (opening : Nat) :
    ledger.holding none opening = 0 := by
  simp [holding]

theorem holding_some (ledger : Ledger Slot) (slot : Slot) (opening : Nat) :
    ledger.holding (some slot) opening = if ledger.current slot = some opening then 1 else 0 :=
  rfl

namespace Accounted

variable {ledger : Ledger Slot} {slot : Slot} {held : Option Slot}

theorem exists_held (accounted : ledger.Accounted (some slot)) :
    ∃ opening, ledger.current slot = some opening :=
  Option.ne_none_iff_exists'.mp (accounted.holds slot rfl)

theorem deliver (accounted : ledger.Accounted (some slot)) :
    (ledger.deliver slot).Accounted none := by
  rcases accounted.exists_held with ⟨held, isHeld⟩
  constructor
  case bounded => exact accounted.bounded
  case injective => exact accounted.injective
  case once =>
    intro opening bound
    have before := accounted.once opening bound
    rw [holding_some, isHeld] at before
    rw [holding_none]
    simp only [Ledger.deliver, isHeld, List.count_append, List.count_singleton, beq_iff_eq,
      Option.some.injEq] at before ⊢
    omega
  case past =>
    intro opening member
    simp only [Ledger.deliver, isHeld, List.mem_append, List.mem_singleton,
      Option.some.injEq] at member ⊢
    rcases member with other | old | new
    · exact accounted.past opening (.inl other)
    · exact accounted.past opening (.inr old)
    · rw [new]
      exact accounted.bounded slot held isHeld
  case known => simpa [Ledger.deliver, isHeld] using accounted.known
  case holds => simp

/-- A delivered slot is not the one that is held. -/
theorem ne_of_delivered {opening : Nat} (accounted : ledger.Accounted held)
    (isCurrent : ledger.current slot = some opening)
    (delivered : some opening ∈ ledger.delivered) : held ≠ some slot := by
  rintro rfl
  have once := accounted.once opening (accounted.bounded slot opening isCurrent)
  rw [holding_some, if_pos isCurrent] at once
  have positive := List.count_pos_iff.mpr delivered
  omega

variable [DecidableEq Slot]

theorem acquire (accounted : ledger.Accounted none) (slot : Slot) :
    (ledger.acquire slot).Accounted (some slot) := by
  have unused : ∀ other, ledger.current other ≠ some ledger.opened := by
    intro other same
    exact Nat.lt_irrefl _ (accounted.bounded other _ same)
  constructor
  case bounded =>
    intro other opening isCurrent
    by_cases same : other = slot
    · simp only [Ledger.acquire, same, Function.update_self, Option.some.injEq] at isCurrent
      simp [Ledger.acquire, ← isCurrent]
    · simp only [Ledger.acquire, Function.update_of_ne same] at isCurrent
      exact Nat.lt_succ_of_lt (accounted.bounded other opening isCurrent)
  case injective =>
    intro left right opening isLeft isRight
    simp only [Ledger.acquire, Function.update_apply] at isLeft isRight
    split at isLeft <;> split at isRight
    · simp_all
    · rw [← isLeft] at isRight
      exact absurd isRight (unused right)
    · rw [← isRight] at isLeft
      exact absurd isLeft (unused left)
    · exact accounted.injective left right opening isLeft isRight
  case once =>
    intro opening bound
    rw [holding_some]
    simp only [Ledger.acquire, Function.update_self, Option.some.injEq] at bound ⊢
    by_cases new : opening = ledger.opened
    · have notClosed : some opening ∉ ledger.closed := by
        intro member
        exact absurd (accounted.past opening (.inl member)) (by simp [new])
      have notDelivered : some opening ∉ ledger.delivered := by
        intro member
        exact absurd (accounted.past opening (.inr member)) (by simp [new])
      rw [if_pos new.symm, List.count_eq_zero.mpr notClosed, List.count_eq_zero.mpr notDelivered]
    · rw [if_neg (fun same => new same.symm)]
      have before := accounted.once opening (by omega)
      rw [holding_none] at before
      exact before
  case past => exact fun opening member => Nat.lt_succ_of_lt (accounted.past opening member)
  case known => exact accounted.known
  case holds => simp [Ledger.acquire]

theorem close (accounted : ledger.Accounted (some slot)) :
    (ledger.close slot).Accounted none := by
  rcases accounted.exists_held with ⟨held, isHeld⟩
  have shrinks : ∀ other opening, (ledger.close slot).current other = some opening →
      ledger.current other = some opening := by
    intro other opening isCurrent
    simp only [Ledger.close, Function.update_apply] at isCurrent
    split at isCurrent
    · cases isCurrent
    · exact isCurrent
  constructor
  case bounded =>
    exact fun other opening isCurrent => accounted.bounded other opening (shrinks _ _ isCurrent)
  case injective =>
    exact fun left right opening isLeft isRight =>
      accounted.injective left right opening (shrinks _ _ isLeft) (shrinks _ _ isRight)
  case once =>
    intro opening bound
    have before := accounted.once opening bound
    rw [holding_some, isHeld] at before
    rw [holding_none]
    simp only [Ledger.close, isHeld, List.count_append, List.count_singleton, beq_iff_eq,
      Option.some.injEq] at before ⊢
    omega
  case past =>
    intro opening member
    simp only [Ledger.close, isHeld, List.mem_append, List.mem_singleton,
      Option.some.injEq] at member ⊢
    rcases member with (old | new) | other
    · exact accounted.past opening (.inl old)
    · rw [new]
      exact accounted.bounded slot held isHeld
    · exact accounted.past opening (.inr other)
  case known => simpa [Ledger.close, isHeld] using accounted.known
  case holds => simp

theorem release {opening : Nat} (accounted : ledger.Accounted held)
    (isCurrent : ledger.current slot = some opening)
    (delivered : some opening ∈ ledger.delivered) :
    (ledger.release slot).Accounted held := by
  have different := accounted.ne_of_delivered isCurrent delivered
  have shrinks : ∀ other found, (ledger.release slot).current other = some found →
      ledger.current other = some found := by
    intro other found stillCurrent
    simp only [Ledger.release, Function.update_apply] at stillCurrent
    split at stillCurrent
    · cases stillCurrent
    · exact stillCurrent
  have kept : ∀ other ∈ held, (ledger.release slot).current other = ledger.current other := by
    intro other isHeld
    have apart : other ≠ slot := by
      rintro rfl
      exact different isHeld
    exact Function.update_of_ne apart _ _
  constructor
  case bounded => exact fun other found now => accounted.bounded other found (shrinks _ _ now)
  case injective =>
    exact fun left right found isLeft isRight =>
      accounted.injective left right found (shrinks _ _ isLeft) (shrinks _ _ isRight)
  case once =>
    intro found bound
    have before := accounted.once found bound
    cases held with
    | none => exact before
    | some other =>
        rw [holding_some] at before ⊢
        rw [kept other rfl]
        exact before
  case past => exact accounted.past
  case known => exact accounted.known
  case holds =>
    intro other isHeld
    rw [kept other isHeld]
    exact accounted.holds other isHeld

end Accounted

end Ledger

end Ccnet
