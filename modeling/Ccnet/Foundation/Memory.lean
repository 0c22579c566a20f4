import Ccnet.Foundation.Fault
import Ccnet.Foundation.Slice
import Mathlib.Data.List.Induction

namespace Ccnet

/-! Writing through pointers into an array of fixed size. Every access is checked, so that a
computation that succeeds has written nowhere else. -/

variable {α : Type u} {size : Nat}

/-- `*p = value` -/
def store (memory : Vector α size) (position : Nat) (value : α) : Checked (Vector α size) :=
  if inside : position < size then .ok (memory.set position value) else .error .outOfRange

/-- `memcpy` from another array. -/
def storeAll (memory : Vector α size) (position : Nat) : List α → Checked (Vector α size)
  | [] => .ok memory
  | value :: rest => do storeAll (← store memory position value) (position + 1) rest

/-- `std::iter_swap` -/
def iterSwap (memory : Vector α size) (first second : Nat) : Checked (Vector α size) := do
  let left ← element memory.toList first
  let right ← element memory.toList second
  store (← store memory first right) second left

/-- The outermost `count` pairs of a range are swapped. -/
def swapPairs (memory : Vector α size) (first last : Nat) : Nat → Checked (Vector α size)
  | 0 => .ok memory
  | count + 1 => do swapPairs (← iterSwap memory first (last - 1)) (first + 1) (last - 1) count

/-- `std::reverse` -/
def reverseRange (memory : Vector α size) (first last : Nat) : Checked (Vector α size) :=
  swapPairs memory first last ((last - first) / 2)

/-- The array with the given values from a position on. -/
def place (memory : Vector α size) (position : Nat) (values : List α) : Vector α size :=
  ⟨(copyInto memory.toList position values).toArray, by simp⟩

@[simp] theorem place_toList (memory : Vector α size) (position : Nat) (values : List α) :
    (place memory position values).toList = copyInto memory.toList position values := rfl

theorem place_toList_eq (memory : Vector α size) {position : Nat} {values : List α}
    (fits : position + values.length ≤ size) :
    (place memory position values).toList =
      memory.toList.take position ++ values ++
        memory.toList.drop (position + values.length) := by
  rw [place_toList, copyInto_eq _ _ _ (by simpa using fits)]

/-- What stands before a position and what is placed there. -/
theorem place_take (memory : Vector α size) {position : Nat} {front back : List α}
    (fits : position + (front ++ back).length ≤ size) :
    (place memory position (front ++ back)).toList.take (position + front.length) =
      memory.toList.take position ++ front := by
  have length : (memory.toList.take position ++ front).length = position + front.length := by
    rw [List.length_append] at fits
    rw [List.length_append, List.length_take, Vector.length_toList]
    omega
  rw [place_toList_eq memory fits, ← length, ← List.append_assoc, List.append_assoc _ back]
  exact List.take_left

theorem place_append (memory : Vector α size) (position : Nat) (front back : List α) :
    place (place memory position front) (position + front.length) back =
      place memory position (front ++ back) :=
  Vector.toList_inj.mp (copyInto_append memory.toList position front back)

theorem store_ok (memory : Vector α size) {position : Nat} (value : α)
    (inside : position < size) :
    store memory position value = .ok (place memory position [value]) := by
  rw [store, dif_pos inside]
  congr 1

/-- Values are stored one after the other. -/
theorem storeAll_ok (memory : Vector α size) {position : Nat} {values : List α}
    (fits : position + values.length ≤ size) :
    storeAll memory position values = .ok (place memory position values) := by
  induction values generalizing memory position with
  | nil => rfl
  | cons value rest induction =>
      rw [List.length_cons] at fits
      rw [storeAll, store_ok _ _ (by omega), Checked.ok_bind, induction _ (by omega)]
      exact congrArg _ (place_append memory position [value] rest)

/-! ## Reversing a range -/

section Split

variable {memory : Vector α size} {before after : List α}

theorem element_split {value : α} (split : memory.toList = before ++ value :: after) :
    element memory.toList before.length = .ok value := by
  apply element_of
  rw [split, List.getElem?_append_right (Nat.le_refl _), Nat.sub_self]
  rfl

theorem store_split {value : α} (split : memory.toList = before ++ value :: after) (other : α) :
    ∃ stored, store memory before.length other = .ok stored ∧
      stored.toList = before ++ other :: after := by
  have length := congrArg List.length split
  rw [Vector.length_toList, List.length_append, List.length_cons] at length
  refine ⟨_, dif_pos (by omega), ?_⟩
  rw [Vector.toList_set, split, List.set_append_right _ _ (Nat.le_refl _), Nat.sub_self]
  rfl

theorem iterSwap_split {left right : α} {middle : List α}
    (split : memory.toList = before ++ left :: (middle ++ right :: after)) :
    ∃ swapped, iterSwap memory before.length (before.length + (middle.length + 1)) =
        .ok swapped ∧
      swapped.toList = before ++ right :: (middle ++ left :: after) := by
  have regroup : ∀ value, before ++ value :: (middle ++ right :: after) =
      (before ++ value :: middle) ++ right :: after := by simp
  have place : ∀ value, (before ++ value :: middle).length =
      before.length + (middle.length + 1) := by simp
  rcases store_split split right with ⟨stored, storedLeft, storedSplit⟩
  rw [regroup] at storedSplit
  rcases store_split storedSplit left with ⟨swapped, storedRight, swappedSplit⟩
  rw [place] at storedRight
  have readRight := element_split (split.trans (regroup left))
  rw [place] at readRight
  refine ⟨swapped, ?_, ?_⟩
  · rw [iterSwap, element_split split, Checked.ok_bind, readRight, Checked.ok_bind, storedLeft,
      Checked.ok_bind, storedRight]
  · rw [swappedSplit]
    simp

theorem swapPairs_split {values : List α} (split : memory.toList = before ++ (values ++ after)) :
    ∃ reversed, swapPairs memory before.length (before.length + values.length)
        (values.length / 2) = .ok reversed ∧
      reversed.toList = before ++ (values.reverse ++ after) := by
  induction values using List.bidirectionalRec generalizing memory before after with
  | nil | singleton => exact ⟨memory, by simp [swapPairs], split⟩
  | cons_append left middle right induction =>
      -- The pair at the ends is swapped, and belongs to the surroundings from then on.
      have ends : memory.toList = before ++ left :: (middle ++ right :: after) := by simp [split]
      rcases iterSwap_split ends with ⟨swapped, first, swappedSplit⟩
      have inner : swapped.toList = (before ++ [right]) ++ (middle ++ (left :: after)) := by
        simp [swappedSplit]
      rcases induction inner with ⟨reversed, rest, reversedSplit⟩
      refine ⟨reversed, ?_, ?_⟩
      · have count : (left :: (middle ++ [right])).length / 2 = middle.length / 2 + 1 := by
          simp only [List.length_cons, List.length_append, List.length_nil]
          omega
        have last : before.length + (left :: (middle ++ [right])).length - 1 =
            before.length + (middle.length + 1) := by
          simp only [List.length_cons, List.length_append, List.length_nil]
          omega
        rw [List.length_append, List.length_singleton, Nat.add_assoc, Nat.add_comm 1] at rest
        rw [count, swapPairs, last, first, Checked.ok_bind, rest]
      · rw [reversedSplit]
        simp

end Split

/-- The first of the placed values are reversed. -/
theorem reverseRange_place (memory : Vector α size) {position : Nat} {values rest : List α}
    (fits : position + (values ++ rest).length ≤ size) :
    reverseRange (place memory position (values ++ rest)) position (position + values.length) =
      .ok (place memory position (values.reverse ++ rest)) := by
  have split := place_toList_eq memory fits
  rw [List.append_assoc, List.append_assoc] at split
  have start : (memory.toList.take position).length = position := by
    rw [List.length_take, Vector.length_toList]
    omega
  rcases swapPairs_split split with ⟨reversed, ran, reversedSplit⟩
  rw [start] at ran
  have placed : reversed = place memory position (values.reverse ++ rest) := by
    have sameLength : (values.reverse ++ rest).length = (values ++ rest).length := by simp
    apply Vector.toList_inj.mp
    rw [reversedSplit, place_toList_eq memory (by rwa [sameLength]), sameLength,
      List.append_assoc, List.append_assoc]
  rw [reverseRange, Nat.add_sub_cancel_left, ran, placed]

end Ccnet
