import Mathlib.Data.List.Basic

namespace Ccnet

/-! Ranges of an array held as a list: reading a range, copying into one and
moving one to a lower position of the same array. All facts are stated through
`getElem?`, so that two arrays are compared position by position. -/

variable {α : Type u}

/-- The elements at positions `first`, …, `last - 1`. -/
def slice (values : List α) (first last : Nat) : List α :=
  (values.drop first).take (last - first)

/-- `std::copy` from another array, one element after the other. -/
def copyInto (target : List α) (position : Nat) : List α → List α
  | [] => target
  | value :: rest => copyInto (target.set position value) (position + 1) rest

/-- `readv`: the elements of `source` fill the areas one after the other. -/
def scatter : List (List α) → List α → List (List α)
  | [], _ => []
  | area :: areas, source =>
      copyInto area 0 (source.take area.length) :: scatter areas (source.drop area.length)

/-- `std::copy` inside one array. Elements are read when they are copied, so a
source element that an earlier iteration overwrote is lost. -/
def copyForward [Inhabited α] (values : List α) (source target : Nat) :
    Nat → List α
  | 0 => values
  | count + 1 =>
      copyForward (values.set target (values.getD source default))
        (source + 1) (target + 1) count

/-- `std::vector::resize`: new elements are value-initialized. -/
def resize [Inhabited α] (values : List α) (size : Nat) : List α :=
  values.take size ++ List.replicate (size - values.length) default

theorem slice_getElem? (values : List α) (first last index : Nat) :
    (slice values first last)[index]? =
      if index < last - first then values[first + index]? else none := by
  unfold slice
  rw [List.getElem?_take]
  split <;> simp

theorem slice_length {values : List α} {first last : Nat}
    (bounded : last ≤ values.length) :
    (slice values first last).length = last - first := by
  simp [slice]
  omega

@[simp] theorem slice_self (values : List α) (position : Nat) :
    slice values position position = [] := by
  simp [slice]

theorem slice_drop (values : List α) (first last count : Nat) :
    slice values (first + count) last = (slice values first last).drop count := by
  simp only [slice, List.drop_take, List.drop_drop]
  congr 1
  omega

theorem slice_take (values : List α) (first last count : Nat)
    (bounded : count ≤ last - first) :
    slice values first (first + count) = (slice values first last).take count := by
  simp only [slice, List.take_take]
  congr 1
  omega

theorem slice_append_slice (values : List α) {first middle last : Nat}
    (lower : first ≤ middle) (upper : middle ≤ last) :
    slice values first middle ++ slice values middle last =
      slice values first last := by
  have front := slice_take values first last (middle - first) (by omega)
  have back := slice_drop values first last (middle - first)
  rw [Nat.add_sub_cancel' lower] at front back
  rw [front, back, List.take_append_drop]

@[simp] theorem copyInto_length (target : List α) (position : Nat)
    (source : List α) :
    (copyInto target position source).length = target.length := by
  induction source generalizing target position with
  | nil => rfl
  | cons value rest induction => simp [copyInto, induction]

theorem copyInto_getElem? (target : List α) (position : Nat)
    (source : List α) (fits : position + source.length ≤ target.length)
    (index : Nat) :
    (copyInto target position source)[index]? =
      if position ≤ index ∧ index < position + source.length then
        source[index - position]?
      else
        target[index]? := by
  induction source generalizing target position with
  | nil =>
      have outside : ¬(position ≤ index ∧ index < position) := by omega
      simp [copyInto, outside]
  | cons value rest induction =>
      simp only [List.length_cons] at fits ⊢
      rw [copyInto, induction _ _ (by simp; omega)]
      by_cases here : index = position
      · subst index
        have notLater : ¬(position + 1 ≤ position ∧
            position < position + 1 + rest.length) := by omega
        have inRange : position ≤ position ∧
            position < position + (rest.length + 1) := by omega
        have bound : position < target.length := by omega
        rw [if_neg notLater, if_pos inRange]
        simp [bound]
      · rw [List.getElem?_set_ne (by omega)]
        by_cases later : position + 1 ≤ index ∧
            index < position + 1 + rest.length
        · have inRange : position ≤ index ∧
              index < position + (rest.length + 1) := by omega
          have shifted : index - position = index - (position + 1) + 1 := by
            omega
          rw [if_pos later, if_pos inRange, shifted, List.getElem?_cons_succ]
        · have outside : ¬(position ≤ index ∧
              index < position + (rest.length + 1)) := by omega
          rw [if_neg later, if_neg outside]

theorem copyInto_eq (target : List α) (position : Nat) (source : List α)
    (fits : position + source.length ≤ target.length) :
    copyInto target position source =
      target.take position ++ source ++ target.drop (position + source.length) := by
  induction source generalizing target position with
  | nil => simp [copyInto]
  | cons value rest induction =>
      simp only [List.length_cons] at fits ⊢
      have bound : position < target.length := by omega
      have front : (target.set position value).take (position + 1) =
          target.take position ++ [value] := by
        rw [List.take_succ_eq_append_getElem (by simpa using bound), List.take_set_of_le (by omega),
          List.getElem_set_self]
      have back : (target.set position value).drop (position + 1 + rest.length) =
          target.drop (position + (rest.length + 1)) := by
        rw [List.drop_set_of_lt (by omega)]
        congr 1
        omega
      rw [copyInto, induction _ _ (by simp; omega), front, back]
      simp

theorem copyInto_append (target : List α) (position : Nat) (front back : List α) :
    copyInto (copyInto target position front) (position + front.length) back =
      copyInto target position (front ++ back) := by
  induction front generalizing target position with
  | nil => rfl
  | cons value front induction =>
      rw [List.cons_append, copyInto, copyInto, ← induction, List.length_cons,
        Nat.add_right_comm, Nat.add_assoc]

/-- Copying into a range leaves exactly the copied elements there. -/
theorem slice_copyInto_self (target : List α) (position : Nat)
    (source : List α) (fits : position + source.length ≤ target.length) :
    slice (copyInto target position source) position
      (position + source.length) = source := by
  apply List.ext_getElem?
  intro index
  rw [slice_getElem?, copyInto_getElem? target position source fits]
  by_cases inside : index < source.length
  · have within : index < position + source.length - position := by omega
    have inRange : position ≤ position + index ∧
        position + index < position + source.length := by omega
    rw [if_pos within, if_pos inRange, Nat.add_sub_cancel_left]
  · have beyond : ¬index < position + source.length - position := by omega
    rw [if_neg beyond, List.getElem?_eq_none (by omega)]

/-- A range that ends before the copied one, or starts after it, is kept. -/
theorem slice_copyInto_of_disjoint (target : List α) (position : Nat)
    (source : List α) (fits : position + source.length ≤ target.length)
    {first last : Nat}
    (disjoint : last ≤ position ∨ position + source.length ≤ first) :
    slice (copyInto target position source) first last =
      slice target first last := by
  apply List.ext_getElem?
  intro index
  rw [slice_getElem?, slice_getElem?]
  split
  · rename_i inside
    rw [copyInto_getElem? target position source fits]
    have outside : ¬(position ≤ first + index ∧
        first + index < position + source.length) := by omega
    rw [if_neg outside]
  · rfl

@[simp] theorem copyForward_length [Inhabited α] (values : List α)
    (source target count : Nat) :
    (copyForward values source target count).length = values.length := by
  induction count generalizing values source target with
  | zero => rfl
  | succ count induction => simp [copyForward, induction]

/-- A move towards the front reads every element before it is overwritten:
the element written by one iteration lies below all that are still to be read. -/
theorem copyForward_getElem? [Inhabited α] (values : List α)
    (source target count : Nat) (towardsFront : target ≤ source)
    (fits : source + count ≤ values.length) (index : Nat) :
    (copyForward values source target count)[index]? =
      if target ≤ index ∧ index < target + count then
        values[source + (index - target)]?
      else
        values[index]? := by
  induction count generalizing values source target with
  | zero =>
      have outside : ¬(target ≤ index ∧ index < target + 0) := by omega
      rw [copyForward, if_neg outside]
  | succ count induction =>
      rw [copyForward, induction _ _ _ (by omega) (by simp; omega)]
      by_cases here : index = target
      · subst index
        have notLater : ¬(target + 1 ≤ target ∧
            target < target + 1 + count) := by omega
        have inRange : target ≤ target ∧ target < target + (count + 1) := by
          omega
        have sourceBound : source < values.length := by omega
        have targetBound : target < values.length := by omega
        rw [if_neg notLater, if_pos inRange]
        simp [sourceBound, targetBound]
      · by_cases later : target + 1 ≤ index ∧ index < target + 1 + count
        · have inRange : target ≤ index ∧ index < target + (count + 1) := by
            omega
          have shifted : source + 1 + (index - (target + 1)) =
              source + (index - target) := by omega
          rw [if_pos later, if_pos inRange, List.getElem?_set_ne (by omega),
            shifted]
        · have outside : ¬(target ≤ index ∧ index < target + (count + 1)) := by
            omega
          rw [if_neg later, if_neg outside, List.getElem?_set_ne (by omega)]

/-- After a move towards the front the target range holds the old source range. -/
theorem slice_copyForward [Inhabited α] (values : List α)
    (source target count : Nat) (towardsFront : target ≤ source)
    (fits : source + count ≤ values.length) :
    slice (copyForward values source target count) target (target + count) =
      slice values source (source + count) := by
  apply List.ext_getElem?
  intro index
  rw [slice_getElem?, slice_getElem?]
  simp only [Nat.add_sub_cancel_left]
  split
  · rename_i inside
    rw [copyForward_getElem? values source target count towardsFront fits]
    have inRange : target ≤ target + index ∧
        target + index < target + count := by omega
    rw [if_pos inRange, Nat.add_sub_cancel_left]
  · rfl

@[simp] theorem resize_length [Inhabited α] (values : List α) (size : Nat) :
    (resize values size).length = size := by
  simp [resize]
  omega

theorem slice_resize [Inhabited α] (values : List α) {size first last : Nat}
    (kept : last ≤ values.length) (grows : values.length ≤ size) :
    slice (resize values size) first last = slice values first last := by
  apply List.ext_getElem?
  intro index
  rw [slice_getElem?, slice_getElem?]
  split
  · rename_i inside
    rw [resize, List.take_of_length_le grows,
      List.getElem?_append_left (by omega)]
  · rfl

/-! ## Records of one width -/

section Records

variable {β : Type v} {encode : α → List β} {width : Nat}

theorem flatMap_length_of_width (fixed : ∀ item, (encode item).length = width)
    (items : List α) : (items.flatMap encode).length = width * items.length := by
  induction items with
  | nil => rfl
  | cons item items induction =>
      rw [List.flatMap_cons, List.length_append, fixed, induction, List.length_cons,
        Nat.mul_succ, Nat.add_comm]

/-- A record with what stands before it. -/
theorem record_prefix {front bytes : List β} {items : List α} {index : Nat} {item : α}
    (table : front ++ items.flatMap encode <+: bytes) (present : items[index]? = some item) :
    front ++ (items.take index).flatMap encode ++ encode item <+: bytes := by
  refine List.IsPrefix.trans ?_ table
  rcases List.getElem?_eq_some_iff.mp present with ⟨inside, rfl⟩
  rw [List.append_assoc, List.prefix_append_right_inj]
  refine ⟨(items.drop (index + 1)).flatMap encode, ?_⟩
  rw [List.append_assoc, ← List.flatMap_cons, ← List.drop_eq_getElem_cons inside,
    ← List.flatMap_append, List.take_append_drop]

theorem record_front_length (fixed : ∀ item, (encode item).length = width) (front : List β)
    {items : List α} {index : Nat} {item : α} (present : items[index]? = some item) :
    (front ++ (items.take index).flatMap encode).length = front.length + width * index := by
  rcases List.getElem?_eq_some_iff.mp present with ⟨inside, -⟩
  rw [List.length_append, flatMap_length_of_width fixed, List.length_take,
    Nat.min_eq_left (Nat.le_of_lt inside)]

end Records

end Ccnet
