import Mathlib.Data.List.Infix

namespace Ccnet.Framing

/-! A stream of lines, each ended by the same two elements, and the cuts at
which it can arrive. -/

variable {α : Type u}

/-- `std::search` for two adjacent elements: how many elements precede them. -/
def searchPair [DecidableEq α] (first second : α) : List α → Option Nat
  | [] => none
  | [_] => none
  | value :: next :: rest =>
      if value = first ∧ next = second then
        some 0
      else
        (searchPair first second (next :: rest)).map (· + 1)

def terminated (first second : α) (line : List α) : List α :=
  line ++ [first, second]

def stream (first second : α) (lines : List (List α)) : List α :=
  lines.flatMap (terminated first second)

/-- How much of an unfinished line has arrived with so many elements. -/
def pending : List (List α) → Nat → Nat
  | [], received => received
  | line :: lines, received =>
      if line.length + 2 ≤ received then
        pending lines (received - (line.length + 2))
      else
        received

/-- A part of the first line, without the end of its terminator. -/
def Unfinished (first : α) : List (List α) → List α → Prop
  | [], begun => begun = []
  | line :: _, begun => begun <+: line ++ [first]

@[simp] theorem terminated_length (first second : α) (line : List α) :
    (terminated first second line).length = line.length + 2 := by
  simp [terminated]

@[simp] theorem stream_nil (first second : α) :
    stream first second [] = [] := rfl

@[simp] theorem stream_cons (first second : α) (line : List α)
    (lines : List (List α)) :
    stream first second (line :: lines) =
      terminated first second line ++ stream first second lines := by
  simp [stream]

/-! ## Searching -/

section Search

variable [DecidableEq α] {first second : α}

theorem searchPair_eq_none_iff (values : List α) :
    searchPair first second values = none ↔ ¬[first, second] <:+: values := by
  induction values with
  | nil => simp [searchPair]
  | cons value values induction =>
      cases values with
      | nil =>
          simp only [searchPair, true_iff]
          intro found
          have bound := found.length_le
          simp at bound
      | cons next rest =>
          rw [searchPair, List.infix_cons_iff]
          by_cases here : value = first ∧ next = second
          · simp [here]
          · have elsewhere : ¬[first, second] <+: value :: next :: rest := by
              simp only [List.cons_prefix_cons, List.nil_prefix, and_true]
              intro same
              exact here ⟨same.1.symm, same.2.symm⟩
            simp [here, elsewhere, induction]

/-- In a terminated line the terminator is what is found. -/
theorem searchPair_terminated (different : first ≠ second) (line rest : List α)
    (free : ¬[first, second] <:+: line) :
    searchPair first second (terminated first second line ++ rest) =
      some line.length := by
  induction line with
  | nil => simp [terminated, searchPair]
  | cons value line induction =>
      have later : ¬[first, second] <:+: line :=
        fun found => free (List.infix_cons found)
      have found := induction later
      cases line with
      | nil => simp [terminated, searchPair, different]
      | cons next line =>
          have elsewhere : ¬(value = first ∧ next = second) := by
            rintro ⟨rfl, rfl⟩
            apply free
            exact ⟨[], line, rfl⟩
          simp only [terminated, List.cons_append] at found ⊢
          rw [searchPair, if_neg elsewhere, found]
          rfl

/-- An unfinished line has no terminator. -/
theorem searchPair_unfinished (different : first ≠ second) {lines : List (List α)}
    {begun : List α} (free : ∀ line ∈ lines, ¬[first, second] <:+: line)
    (unfinished : Unfinished first lines begun) :
    searchPair first second begun = none := by
  rw [searchPair_eq_none_iff]
  cases lines with
  | nil =>
      rw [Unfinished] at unfinished
      simp [unfinished]
  | cons line lines =>
      intro found
      rcases List.infix_concat_iff.mp (found.trans unfinished.isInfix) with last | inside
      · rcases last with ⟨front, same⟩
        have ends := congrArg List.getLast? same
        simp only [List.getLast?_append, List.getLast?_cons, List.getLast?_nil] at ends
        simp at ends
        exact different ends.symm
      · exact free line List.mem_cons_self inside

end Search

/-! ## Cutting -/

section Cut

variable {first second : α}

theorem Unfinished.pending {lines : List (List α)} {begun : List α}
    (unfinished : Unfinished first lines begun) :
    pending lines begun.length = begun.length := by
  cases lines with
  | nil => rfl
  | cons line lines =>
      have bound := List.IsPrefix.length_le unfinished
      simp only [List.length_append, List.length_singleton] at bound
      rw [Framing.pending, if_neg (by omega)]

theorem pending_finished (finished rest : List (List α)) (received : Nat) :
    pending (finished ++ rest) ((stream first second finished).length + received) =
      pending rest received := by
  induction finished with
  | nil => simp
  | cons line finished induction =>
      have counted : (stream first second (line :: finished)).length + received =
          line.length + 2 + ((stream first second finished).length + received) := by
        simp [Nat.add_assoc]
      rw [List.cons_append, counted, pending, if_pos (Nat.le_add_right _ _),
        Nat.add_sub_cancel_left, induction]

/-- A whole stream has no unfinished line. -/
theorem Unfinished.eq_nil {lines : List (List α)}
    (unfinished : Unfinished first lines (stream first second lines)) : lines = [] := by
  cases lines with
  | nil => rfl
  | cons line lines =>
      have bound := List.IsPrefix.length_le unfinished
      simp at bound
      omega

/-- What has arrived of a stream is some finished lines and an unfinished one. -/
theorem exists_split {lines : List (List α)} {received future : List α}
    (cut : received ++ future = stream first second lines) :
    ∃ finished rest begun, lines = finished ++ rest ∧
      received = stream first second finished ++ begun ∧
      begun ++ future = stream first second rest ∧ Unfinished first rest begun := by
  induction lines generalizing received with
  | nil =>
      have empty : received = [] := by
        simp only [stream_nil, List.append_eq_nil_iff] at cut
        exact cut.1
      exact ⟨[], [], [], rfl, by simp [empty], by simpa [empty] using cut, rfl⟩
  | cons line lines induction =>
      have whole : received <+: terminated first second line ++ stream first second lines :=
        ⟨future, by rw [cut, stream_cons]⟩
      by_cases enough : line.length + 2 ≤ received.length
      · have taken : terminated first second line <+: received := by
          apply List.prefix_of_prefix_length_le (List.prefix_append _ _) whole
          simpa using enough
        rcases taken with ⟨later, rfl⟩
        rw [List.append_assoc, stream_cons] at cut
        rcases induction (List.append_cancel_left cut) with
          ⟨finished, rest, begun, lines_eq, later_eq, begun_eq, unfinished⟩
        refine ⟨line :: finished, rest, begun, ?_, ?_, begun_eq, unfinished⟩
        · rw [lines_eq, List.cons_append]
        · rw [later_eq, stream_cons, List.append_assoc]
      · refine ⟨[], line :: lines, received, rfl, rfl, cut, ?_⟩
        have ended : line ++ [first] <+:
            terminated first second line ++ stream first second lines :=
          ⟨second :: stream first second lines, by simp [terminated]⟩
        apply List.prefix_of_prefix_length_le whole ended
        simp
        omega

end Cut

end Ccnet.Framing
