import Mathlib.Order.Lattice
import Mathlib.Data.List.Basic

namespace Ccnet

/-! Sets kept in the order of a key, as `std::set` keeps its elements in the
order of their comparison. Two elements with the same key are equivalent: the
set holds at most one of them. -/

structure OrderedSet {α : Type u} {κ : Type v} [LinearOrder κ] (key : α → κ) where
  elements : List α
  sorted : elements.Pairwise fun left right => key left < key right

namespace OrderedSet

variable {α : Type u} {κ : Type v} [LinearOrder κ] {key : α → κ}

instance : Membership α (OrderedSet key) where
  mem set value := value ∈ set.elements

instance (set : OrderedSet key) (value : α) [DecidableEq α] :
    Decidable (value ∈ set) :=
  inferInstanceAs (Decidable (value ∈ set.elements))

theorem mem_def {set : OrderedSet key} {value : α} :
    value ∈ set ↔ value ∈ set.elements := Iff.rfl

def empty : OrderedSet key where
  elements := []
  sorted := .nil

def size (set : OrderedSet key) : Nat := set.elements.length

/-- The element `begin()` points to. -/
def first (set : OrderedSet key) : Option α := set.elements.head?

def find (set : OrderedSet key) (wanted : κ) : Option α :=
  set.elements.find? fun value => key value = wanted

/-- The range from `begin()` to `lower_bound(bound)`. -/
def below (set : OrderedSet key) (bound : κ) : List α :=
  set.elements.filter fun value => key value < bound

/-- What is left when the range below `bound` is erased. -/
def eraseBelow (set : OrderedSet key) (bound : κ) : OrderedSet key where
  elements := set.elements.filter fun value => bound ≤ key value
  sorted := set.sorted.filter _

/-- `erase` by key, with the number of elements removed. -/
def erase (set : OrderedSet key) (unwanted : κ) : Nat × OrderedSet key :=
  ((set.elements.filter fun value => key value = unwanted).length, {
    elements := set.elements.filter fun value => key value ≠ unwanted
    sorted := set.sorted.filter _ })

/-- The set with one more element, and whether it was inserted: an equivalent
element that is already there stays. -/
def insert (set : OrderedSet key) (value : α) : OrderedSet key × Bool :=
  match set.find (key value) with
  | some _ => (set, false)
  | none => ({
      elements := set.elements.filter (fun other => key other < key value) ++
        value :: set.elements.filter (fun other => key value < key other)
      sorted := by
        rw [List.pairwise_append, List.pairwise_cons]
        refine ⟨set.sorted.filter _, ⟨?_, set.sorted.filter _⟩, ?_⟩
        · intro other member
          simpa using (List.mem_filter.mp member).2
        · intro lower lowerMember other otherMember
          have isLower : key lower < key value := by
            simpa using (List.mem_filter.mp lowerMember).2
          rcases List.mem_cons.mp otherMember with equal | upperMember
          · rw [equal]
            exact isLower
          · have isUpper : key value < key other := by
              simpa using (List.mem_filter.mp upperMember).2
            exact lt_trans isLower isUpper }, true)

theorem eq_of_key_eq {set : OrderedSet key} {left right : α}
    (leftMember : left ∈ set) (rightMember : right ∈ set)
    (equal : key left = key right) : left = right := by
  rcases set with ⟨elements, sorted⟩
  change left ∈ elements at leftMember
  change right ∈ elements at rightMember
  induction sorted with
  | nil => cases leftMember
  | cons before _ induction =>
      rcases List.mem_cons.mp leftMember with leftHead | leftTail
      · rcases List.mem_cons.mp rightMember with rightHead | rightTail
        · exact leftHead.trans rightHead.symm
        · subst leftHead
          exact absurd equal (ne_of_lt (before right rightTail))
      · rcases List.mem_cons.mp rightMember with rightHead | rightTail
        · subst rightHead
          exact absurd equal.symm (ne_of_lt (before left leftTail))
        · exact induction leftTail rightTail

@[simp] theorem not_mem_empty (value : α) : value ∉ (empty : OrderedSet key) := by
  simp [mem_def, empty]

theorem find_eq_some_iff {set : OrderedSet key} {wanted : κ} {value : α} :
    set.find wanted = some value ↔ value ∈ set ∧ key value = wanted := by
  constructor
  · intro found
    have member := List.mem_of_find?_eq_some found
    have keyed := List.find?_some found
    exact ⟨member, by simpa using keyed⟩
  · rintro ⟨member, keyed⟩
    have isSome : (set.find wanted).isSome := by
      rw [find, List.find?_isSome]
      exact ⟨value, member, by simpa using keyed⟩
    rcases Option.isSome_iff_exists.mp isSome with ⟨other, found⟩
    have otherMember := List.mem_of_find?_eq_some found
    have otherKeyed : key other = wanted := by
      simpa using List.find?_some found
    rw [found, eq_of_key_eq otherMember member (otherKeyed.trans keyed.symm)]

theorem find_eq_none_iff {set : OrderedSet key} {wanted : κ} :
    set.find wanted = none ↔ ∀ value ∈ set, key value ≠ wanted := by
  simp [find, List.find?_eq_none, mem_def]

theorem mem_below {set : OrderedSet key} {bound : κ} {value : α} :
    value ∈ set.below bound ↔ value ∈ set ∧ key value < bound := by
  simp [below, mem_def]

theorem mem_eraseBelow {set : OrderedSet key} {bound : κ} {value : α} :
    value ∈ set.eraseBelow bound ↔ value ∈ set ∧ bound ≤ key value := by
  simp [eraseBelow, mem_def]

theorem mem_erase {set : OrderedSet key} {unwanted : κ} {value : α} :
    value ∈ (set.erase unwanted).2 ↔ value ∈ set ∧ key value ≠ unwanted := by
  simp [erase, mem_def]

/-- Erasing by the key of a member removes that member alone. -/
theorem mem_erase_key {set : OrderedSet key} {value other : α}
    (member : value ∈ set) :
    other ∈ (set.erase (key value)).2 ↔ other ≠ value ∧ other ∈ set := by
  rw [mem_erase, and_comm]
  refine and_congr_left fun otherMember => not_congr ?_
  exact ⟨eq_of_key_eq otherMember member, congrArg key⟩

theorem insert_of_absent {set : OrderedSet key} {value : α}
    (absent : ∀ other ∈ set, key other ≠ key value) :
    (set.insert value).2 = true := by
  simp [insert, find_eq_none_iff.mpr absent]

theorem mem_insert_of_absent {set : OrderedSet key} {value other : α}
    (absent : ∀ other ∈ set, key other ≠ key value) :
    other ∈ (set.insert value).1 ↔ other = value ∨ other ∈ set := by
  rw [insert, find_eq_none_iff.mpr absent]
  simp only [mem_def, List.mem_append, List.mem_filter, List.mem_cons,
    decide_eq_true_eq]
  constructor
  · rintro (⟨member, _⟩ | equal | ⟨member, _⟩)
    · exact .inr member
    · exact .inl equal
    · exact .inr member
  · rintro (equal | member)
    · exact .inr (.inl equal)
    · rcases lt_or_gt_of_ne (absent other member) with lower | upper
      · exact .inl ⟨member, lower⟩
      · exact .inr (.inr ⟨member, upper⟩)

theorem subset_insert {set : OrderedSet key} {value other : α}
    (member : other ∈ set) : other ∈ (set.insert value).1 := by
  cases search : set.find (key value) with
  | some found =>
      rw [insert, search]
      exact member
  | none =>
      exact (mem_insert_of_absent (find_eq_none_iff.mp search)).mpr (.inr member)

theorem exists_mem_insert (set : OrderedSet key) (value : α) :
    ∃ found ∈ (set.insert value).1, key found = key value := by
  cases search : set.find (key value) with
  | some found =>
      rcases find_eq_some_iff.mp search with ⟨member, keyed⟩
      exact ⟨found, subset_insert member, keyed⟩
  | none =>
      have absent := find_eq_none_iff.mp search
      exact ⟨value, (mem_insert_of_absent absent).mpr (.inl rfl), rfl⟩

theorem mem_of_mem_insert {set : OrderedSet key} {value other : α}
    (member : other ∈ (set.insert value).1) : other = value ∨ other ∈ set := by
  cases search : set.find (key value) with
  | some found =>
      rw [insert, search] at member
      exact .inr member
  | none => exact (mem_insert_of_absent (find_eq_none_iff.mp search)).mp member

theorem find_insert_eq_none {set : OrderedSet key} {value : α} {wanted : κ} :
    (set.insert value).1.find wanted = none ↔ set.find wanted = none ∧ key value ≠ wanted := by
  rw [find_eq_none_iff, find_eq_none_iff]
  constructor
  · intro absent
    rcases exists_mem_insert set value with ⟨found, member, same⟩
    exact ⟨fun other old => absent other (subset_insert old), same ▸ absent found member⟩
  · rintro ⟨absent, different⟩ other member
    rcases mem_of_mem_insert member with rfl | old
    · exact different
    · exact absent other old

theorem first_mem {set : OrderedSet key} {value : α} (isFirst : set.first = some value) :
    value ∈ set :=
  List.mem_of_mem_head? isFirst

theorem exists_first {set : OrderedSet key} {value : α} (member : value ∈ set) :
    ∃ first, set.first = some first := by
  rcases List.exists_cons_of_ne_nil (List.ne_nil_of_mem member) with ⟨first, rest, elements⟩
  exact ⟨first, by rw [OrderedSet.first, elements]; rfl⟩

theorem first_le {set : OrderedSet key} {value other : α} (isFirst : set.first = some value)
    (member : other ∈ set) : key value ≤ key other := by
  rcases set with ⟨elements, sorted⟩
  change other ∈ elements at member
  cases elements with
  | nil => cases member
  | cons head tail =>
      cases isFirst
      rcases List.mem_cons.mp member with equal | later
      · rw [equal]
      · exact le_of_lt (List.rel_of_pairwise_cons sorted later)

private theorem length_filter_lt_add_filter_gt {values : List α} {middle : κ}
    (absent : ∀ value ∈ values, key value ≠ middle) :
    (values.filter fun value => key value < middle).length +
      (values.filter fun value => middle < key value).length = values.length := by
  induction values with
  | nil => rfl
  | cons value rest induction =>
      have restAbsent : ∀ other ∈ rest, key other ≠ middle := by
        intro other member
        exact absent other (by simp [member])
      have counted := induction restAbsent
      rcases lt_or_gt_of_ne (absent value (by simp)) with lower | upper
      · have notUpper : ¬middle < key value := not_lt_of_gt lower
        simp only [List.filter_cons, lower, notUpper, decide_true, decide_false,
          if_true, List.length_cons]
        simp only [Bool.false_eq_true, if_false]
        omega
      · have notLower : ¬key value < middle := not_lt_of_gt upper
        simp only [List.filter_cons, upper, notLower, decide_true, decide_false,
          if_true, List.length_cons]
        simp only [Bool.false_eq_true, if_false]
        omega

theorem size_insert_of_absent {set : OrderedSet key} {value : α}
    (absent : ∀ other ∈ set, key other ≠ key value) :
    (set.insert value).1.size = set.size + 1 := by
  have counted := length_filter_lt_add_filter_gt absent
  rw [insert, find_eq_none_iff.mpr absent]
  simp only [size, List.length_append, List.length_cons]
  omega

theorem erase_count_of_mem {set : OrderedSet key} {value : α}
    (member : value ∈ set) : (set.erase (key value)).1 = 1 := by
  rcases set with ⟨elements, sorted⟩
  change value ∈ elements at member
  simp only [erase]
  induction sorted with
  | nil => cases member
  | @cons head tail before _ induction =>
      rcases List.mem_cons.mp member with equal | tailMember
      · subst equal
        have noneLeft : tail.filter (fun other => key other = key value) = [] := by
          rw [List.filter_eq_nil_iff]
          intro other otherMember
          simpa using (ne_of_lt (before other otherMember)).symm
        simp [noneLeft]
      · have different : key head ≠ key value := ne_of_lt (before value tailMember)
        simp only [List.filter_cons, different, decide_false]
        exact induction tailMember

theorem size_erase_add_count (set : OrderedSet key) (unwanted : κ) :
    (set.erase unwanted).2.size + (set.erase unwanted).1 = set.size := by
  simp only [erase, size]
  rw [List.length_eq_length_filter_add (l := set.elements)
    (fun value => decide (key value = unwanted))]
  simp only [ne_eq, decide_not]
  omega

theorem size_eraseBelow_add_below (set : OrderedSet key) (bound : κ) :
    (set.eraseBelow bound).size + (set.below bound).length = set.size := by
  simp only [eraseBelow, below, size]
  rw [List.length_eq_length_filter_add (l := set.elements)
    (fun value => decide (key value < bound))]
  simp only [← not_lt, decide_not]
  omega

theorem below_sorted (set : OrderedSet key) (bound : κ) :
    (set.below bound).Pairwise fun left right => key left < key right :=
  set.sorted.filter _

end OrderedSet

end Ccnet
