namespace Ccnet

/-! Computations that a failed check stops. Every modelled function that can
hit an `assert`, a call of `abort`, a dead object, a null pointer or an element
that does not exist, or whose arithmetic can overflow, returns a `Checked`
value, so that "no assert fails" is a statement about its result. -/

inductive Fault
  | assertion
  | abort
  | useAfterFree
  | nullPointer
  | outOfRange
  | overflow
  | outOfFuel
  deriving DecidableEq, Repr

abbrev Checked (α : Type u) := Except Fault α

/-- An `assert` of the source. -/
def check (condition : Prop) [Decidable condition] : Checked Unit :=
  if condition then .ok () else .error .assertion

/-- An access to an element of an array. -/
def checkIndex (index size : Nat) : Checked Unit :=
  if index < size then .ok () else .error .outOfRange

/-- The element of a vector at a position. -/
def element {α : Type u} (values : List α) (index : Nat) : Checked α :=
  match values[index]? with
  | some value => .ok value
  | none => .error .outOfRange

/-- The result of an operation on 32-bit integers, whose overflow is undefined. -/
def checkInt32 (value : Int) : Checked Int :=
  if -2147483648 ≤ value ∧ value ≤ 2147483647 then .ok value else .error .overflow

/-- The result of an operation on 64-bit integers, whose overflow is undefined. -/
def checkInt64 (value : Int) : Checked Int :=
  if -9223372036854775808 ≤ value ∧ value ≤ 9223372036854775807 then .ok value
  else .error .overflow

@[simp] theorem check_eq_ok_iff (condition : Prop) [Decidable condition]
    (result : Unit) : check condition = .ok result ↔ condition := by
  unfold check
  split <;> simp_all

theorem check_of {condition : Prop} [Decidable condition]
    (holds : condition) : check condition = .ok () := by
  simp [holds]

theorem checkIndex_of {index size : Nat} (inside : index < size) :
    checkIndex index size = .ok () := if_pos inside

theorem element_of {α : Type u} {values : List α} {index : Nat} {value : α}
    (present : values[index]? = some value) : element values index = .ok value := by
  rw [element, present]

theorem mem_of_element {α : Type u} {values : List α} {index : Nat} {value : α}
    (found : element values index = .ok value) : value ∈ values := by
  unfold element at found
  split at found
  · rename_i present
    cases found
    exact List.mem_of_getElem? present
  · cases found

theorem element_eq_ok_iff {α : Type u} {values : List α} {index : Nat} (default : α)
    {value : α} : element values index = .ok value ↔
      index < values.length ∧ value = values.getD index default := by
  unfold element
  by_cases inside : index < values.length
  · rw [List.getD_eq_getElem?_getD, List.getElem?_eq_getElem inside]
    constructor
    · intro found
      cases found
      exact ⟨inside, rfl⟩
    · rintro ⟨-, rfl⟩
      rfl
  · rw [List.getElem?_eq_none (Nat.le_of_not_lt inside)]
    constructor
    · intro found
      cases found
    · intro found
      exact absurd found.1 inside

theorem checkInt32_of {value : Int} (fits : -2147483648 ≤ value ∧ value ≤ 2147483647) :
    checkInt32 value = .ok value := if_pos fits

theorem checkInt64_of {value : Int}
    (fits : -9223372036854775808 ≤ value ∧ value ≤ 9223372036854775807) :
    checkInt64 value = .ok value := if_pos fits

namespace Checked

@[simp] theorem ok_bind {α : Type u} {β : Type u} (value : α)
    (next : α → Checked β) : (Except.ok value >>= next) = next value := rfl

@[simp] theorem error_bind {α : Type u} {β : Type u} (fault : Fault)
    (next : α → Checked β) :
    ((Except.error fault : Checked α) >>= next) = .error fault := rfl

theorem bind_eq_ok_iff {α : Type u} {β : Type u} {first : Checked α}
    {next : α → Checked β} {result : β} :
    (first >>= next) = .ok result ↔
      ∃ value, first = .ok value ∧ next value = .ok result := by
  cases first with
  | error fault => simp
  | ok value => simp

theorem check_bind_eq_ok_iff {β : Type} {condition : Prop}
    [Decidable condition] {next : Unit → Checked β} {result : β} :
    (check condition >>= next) = .ok result ↔
      condition ∧ next () = .ok result := by
  rw [bind_eq_ok_iff]
  constructor
  · rintro ⟨_, holds, rest⟩
    exact ⟨(check_eq_ok_iff _ _).mp holds, rest⟩
  · rintro ⟨holds, rest⟩
    exact ⟨(), check_of holds, rest⟩

theorem check_bind_of {β : Type} {condition : Prop} [Decidable condition]
    (holds : condition) (next : Unit → Checked β) :
    (check condition >>= next) = next () := by
  rw [check_of holds, ok_bind]

theorem checkInt32_bind_of {β : Type} {value : Int}
    (fits : -2147483648 ≤ value ∧ value ≤ 2147483647) (next : Int → Checked β) :
    (checkInt32 value >>= next) = next value := by
  rw [checkInt32_of fits, ok_bind]

theorem eq_ok_of_mem_toOption {α : Type u} {result : Checked α} {value : α}
    (member : value ∈ result.toOption) : result = .ok value := by
  cases result with
  | error fault => cases member
  | ok found =>
      cases member
      rfl

/-- A loop that adds to a list with every round, as long as what it has added is
the beginning of a given list. -/
theorem foldlM_emit {State : Type u} {Item : Type v} {Out : Type w}
    {body : State → Item → Checked State} {emit : Item → List Out} (total : List Out)
    (Emitted : List Out → State → Prop) {items : List Item}
    (round : ∀ item ∈ items, ∀ out state, Emitted out state → out ++ emit item <+: total →
      ∃ after, body state item = .ok after ∧ Emitted (out ++ emit item) after)
    {out : List Out} {state : State} (emitted : Emitted out state)
    (fits : out ++ items.flatMap emit <+: total) :
    ∃ after, items.foldlM body state = .ok after ∧
      Emitted (out ++ items.flatMap emit) after := by
  induction items generalizing out state with
  | nil => exact ⟨state, rfl, by simpa using emitted⟩
  | cons item items induction =>
      rw [List.flatMap_cons, ← List.append_assoc] at fits ⊢
      rcases round item List.mem_cons_self out state emitted
        ((List.prefix_append _ _).trans fits) with ⟨after, ran, next⟩
      rcases induction (fun other member => round other (List.mem_cons_of_mem _ member))
        next fits with ⟨final, rest, holds⟩
      refine ⟨final, ?_, holds⟩
      rw [List.foldlM_cons, ran, ok_bind, rest]

end Checked

end Ccnet
