import Ccnet.Foundation.Fault

namespace Ccnet

/-! `std::lower_bound`: bisection for the first element that is not below a value. On
values that are not sorted it still ends between two elements. -/

variable {α : Type}

/-- Bisection of the `count` elements from `first` on. -/
def lowerBoundFrom (below : α → Bool) (values : List α) : Nat → Nat → Nat → Checked Nat
  | 0, _, _ => .error .outOfFuel
  | fuel + 1, first, count =>
      if count = 0 then
        .ok first
      else do
        let middle ← element values (first + count / 2)
        if below middle then
          lowerBoundFrom below values fuel (first + count / 2 + 1) (count - count / 2 - 1)
        else
          lowerBoundFrom below values fuel first (count / 2)

def lowerBound (below : α → Bool) (values : List α) : Checked Nat :=
  lowerBoundFrom below values (values.length + 1) 0 values.length

/-- The element before `low` is below, and the element at `high` is not. -/
structure Brackets (below : α → Bool) (values : List α) (low high : Nat) : Prop where
  inside : high ≤ values.length
  before : 0 < low → ∃ value ∈ values[low - 1]?, below value = true
  after : ∀ value ∈ values[high]?, below value = false

theorem lowerBoundFrom_ok {below : α → Bool} {values : List α} {fuel first count : Nat}
    (enough : count < fuel) (brackets : Brackets below values first (first + count)) :
    ∃ found, lowerBoundFrom below values fuel first count = .ok found ∧
      Brackets below values found found := by
  induction fuel generalizing first count with
  | zero => exact absurd enough (Nat.not_lt_zero _)
  | succ fuel induction =>
      have inside := brackets.inside
      rw [lowerBoundFrom]
      by_cases done : count = 0
      · rw [if_pos done]
        rw [done] at brackets
        exact ⟨first, rfl, brackets⟩
      · have present : first + count / 2 < values.length := by omega
        rw [if_neg done, element_of (List.getElem?_eq_getElem present)]
        cases isBelow : below values[first + count / 2] with
        | true =>
            have upper : first + count / 2 + 1 + (count - count / 2 - 1) = first + count := by
              omega
            simp only [Checked.ok_bind, isBelow, if_true]
            apply induction (by omega)
            rw [upper]
            refine ⟨inside, fun _ => ⟨_, ?_, isBelow⟩, brackets.after⟩
            rw [Nat.add_sub_cancel, Option.mem_def, List.getElem?_eq_getElem present]
        | false =>
            simp only [Checked.ok_bind, isBelow, Bool.false_eq_true, if_false]
            refine induction (by omega) ⟨by omega, brackets.before, ?_⟩
            intro value member
            rw [Option.mem_def, List.getElem?_eq_getElem present] at member
            cases member
            exact isBelow

theorem lowerBound_ok (below : α → Bool) (values : List α) :
    ∃ found, lowerBound below values = .ok found ∧ Brackets below values found found := by
  apply lowerBoundFrom_ok (Nat.lt_succ_self _)
  refine ⟨by omega, fun positive => absurd positive (Nat.lt_irrefl 0), ?_⟩
  intro value member
  rw [Nat.zero_add, List.getElem?_eq_none (Nat.le_refl _)] at member
  cases member

theorem getLast?_take_of_getElem? {values : List α} {index : Nat} {value : α}
    (present : values[index]? = some value) :
    (values.take (index + 1)).getLast? = some value := by
  rw [List.getLast?_take, if_neg (Nat.succ_ne_zero _), Nat.add_sub_cancel, present]
  rfl

/-- The last element before a boundary. -/
theorem Brackets.exists_last {below : α → Bool} {values : List α} {found high : Nat}
    (brackets : Brackets below values found high) (positive : 0 < found) :
    ∃ last, values[found - 1]? = some last ∧ (values.take found).getLast? = some last ∧
      below last = true := by
  rcases brackets.before positive with ⟨last, isLast, isBelow⟩
  have taken := getLast?_take_of_getElem? isLast
  rw [Nat.sub_add_cancel positive] at taken
  exact ⟨last, isLast, taken, isBelow⟩

end Ccnet
