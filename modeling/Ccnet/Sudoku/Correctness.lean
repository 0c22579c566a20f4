import Ccnet.Sudoku.Construction

/-! # What `solveSudoku` returns -/

namespace Ccnet.Sudoku

open SudokuSolver

section Board

variable {board : List Nat}

namespace Encodes

variable {matrix : Matrix} {label : List Nat → Nat × Nat} {solver : SudokuSolver}
  {chosen : List (List Nat)}

theorem name_injective (encodes : Encodes board matrix label solver) :
    ∀ left ∈ matrix.heads, ∀ right ∈ matrix.heads,
      solver.name left = solver.name right → left = right := by
  have nodup := @columnNames_nodup board
  rw [← encodes.columns] at nodup
  intro left leftMember right rightMember same
  exact List.inj_on_of_nodup_map nodup leftMember rightMember same

theorem columns_mem (row : List Nat) (member : row ∈ matrix.rows) :
    ∀ c ∈ matrix.columnsOf row, c ∈ matrix.heads := by
  intro c listed
  rcases List.mem_map.mp listed with ⟨node, inRow, rfl⟩
  exact matrix.col_mem row member node inRow

/-- The rows of an exact cover complete the board. -/
theorem completes (encodes : Encodes board matrix label solver)
    (length : board.length = kCells) (digits : ∀ val ∈ board, val ≤ 9)
    (cover : ExactCover matrix.columnsOf matrix.rows matrix.heads chosen) :
    Completes board (chosen.foldl (place label) board) := by
  have named := cover.named encodes.occupied columns_mem encodes.name_injective
  rw [encodes.items, encodes.columns] at named
  have completes := completes_of_exactCover named length digits
  rw [fill, List.foldl_map] at completes
  exact completes

/-- A completed grid gives an exact cover by rows. -/
theorem completable (encodes : Encodes board matrix label solver) {grid : List Nat}
    (completes : Completes board grid) :
    Completable matrix.columnsOf matrix.rows matrix.heads [] := by
  have cover := completes.exactCover
  rw [← encodes.items, ← encodes.columns, List.filter_map] at cover
  refine ⟨_, ExactCover.of_named encodes.occupied columns_mem encodes.name_injective ?_ cover⟩
  intro row member
  exact List.mem_of_mem_filter member

end Encodes

/-- `solve` on a new solver finds a completed grid when there is one. -/
theorem solve_create (length : board.length = kCells) (digits : ∀ val ∈ board, val ≤ 9) :
    ∃ solver found solved, create board = .ok solver ∧
      solver.solve kMaxNodes = .ok (found, solved) ∧
      (found = true → Completes board solved.inout) ∧
      (found = false → ∀ grid, ¬Completes board grid) := by
  rcases create_encodes board with ⟨solver, matrix, label, created, encodes⟩
  rcases solve_ok encodes.searching remaining_length with ⟨found, solved, ran, searched⟩
  refine ⟨solver, found, solved, created, ran, ?_, ?_⟩
  · intro isFound
    rcases searched.succeeded isFound with ⟨rest, cover, written⟩
    rw [written, encodes.inout]
    exact encodes.completes length digits cover
  · intro notFound grid completes
    exact (searched.failed notFound).2 (encodes.completable completes)

end Board

/-! ## Strings of digits -/

def IsDigit (character : UInt8) : Prop :=
  zero.toNat ≤ character.toNat ∧ character.toNat ≤ zero.toNat + 9

instance : DecidablePred IsDigit := fun _ => inferInstanceAs (Decidable (_ ∧ _))

/-- The numbers that the characters stand for. -/
def values (characters : List UInt8) : List Nat :=
  characters.map fun character => character.toNat - zero.toNat

structure DigitString (characters : List UInt8) : Prop where
  length : characters.length = kCells
  digits : ∀ character ∈ characters, IsDigit character

theorem toDigit_toNat {value : Nat} (digit : value ≤ 9) :
    (UInt8.ofNat (value + zero.toNat)).toNat = value + zero.toNat := by
  have zero_eq : zero.toNat = 48 := rfl
  rw [UInt8.toNat_ofNat']
  omega

theorem values_digits {grid : List Nat} (digits : ∀ value ∈ grid, value ≤ 9) :
    values (grid.map fun value => UInt8.ofNat (value + zero.toNat)) = grid := by
  rw [values, List.map_map]
  conv => rhs; rw [← List.map_id grid]
  apply List.map_congr_left
  intro value member
  rw [Function.comp_apply, toDigit_toNat (digits value member), Nat.add_sub_cancel]
  rfl

theorem digitString_digits {grid : List Nat} (completed : Completed grid) :
    DigitString (grid.map fun value => UInt8.ofNat (value + zero.toNat)) where
  length := by
    rw [List.length_map]
    exact completed.length
  digits := by
    intro character member
    rcases List.mem_map.mp member with ⟨value, valueMember, rfl⟩
    have digit := completed.digits value valueMember
    rw [IsDigit, toDigit_toNat digit.2]
    omega

theorem not_digitString_kNoSolution : ¬DigitString kNoSolution := by
  intro digitString
  have length := digitString.length
  revert length
  decide

theorem solveBoard_ok {board : List Nat} (length : board.length = kCells)
    (digits : ∀ val ∈ board, val ≤ 9) :
    (∃ grid, Completes board grid ∧ solveBoard board =
      .ok (grid.map fun value => UInt8.ofNat (value + zero.toNat))) ∨
    ((∀ grid, ¬Completes board grid) ∧ solveBoard board = .ok kNoSolution) := by
  rcases solve_create length digits with
    ⟨solver, found, solved, created, ran, succeeded, failed⟩
  unfold solveBoard
  rw [created, Checked.ok_bind, ran, Checked.ok_bind]
  cases found with
  | true => exact .inl ⟨solved.inout, succeeded rfl, rfl⟩
  | false => exact .inr ⟨failed rfl, rfl⟩

theorem valid_iff {puzzle : List UInt8} :
    ((puzzle.map fun character => (character.toNat : Int) - zero.toNat).all
      fun value => 0 ≤ value ∧ value ≤ 9) = true ↔ ∀ character ∈ puzzle, IsDigit character := by
  rw [List.all_map, List.all_eq_true]
  apply forall₂_congr
  intro character _
  rw [Function.comp_apply, decide_eq_true_eq, IsDigit]
  omega

theorem toNat_values {puzzle : List UInt8} :
    (puzzle.map fun character => (character.toNat : Int) - zero.toNat).map Int.toNat =
      values puzzle := by
  rw [List.map_map, values]
  apply List.map_congr_left
  intro character _
  rw [Function.comp_apply]
  omega

/-- For every 81 characters `solveSudoku` returns: "NoSolution" when one of them is
not a digit; otherwise a completed grid that agrees with the givens, when there is
one, and "NoSolution" when there is none. -/
theorem solveSudoku_correct (puzzle : List UInt8) (length : puzzle.length = kCells) :
    ∃ result, solveSudoku puzzle = .ok result ∧
      ((∃ character ∈ puzzle, ¬IsDigit character) → result = kNoSolution) ∧
      ((∀ character ∈ puzzle, IsDigit character) →
        (DigitString result ↔ ∃ grid, Completes (values puzzle) grid) ∧
        (DigitString result → Completes (values puzzle) (values result)) ∧
        (result = kNoSolution ↔ ∀ grid, ¬Completes (values puzzle) grid)) := by
  unfold solveSudoku
  rw [Checked.check_bind_of length]
  by_cases valid : ∀ character ∈ puzzle, IsDigit character
  · have board_length : (values puzzle).length = kCells := by
      rw [values, List.length_map, length]
    have board_digits : ∀ val ∈ values puzzle, val ≤ 9 := by
      intro val member
      rcases List.mem_map.mp member with ⟨character, characterMember, rfl⟩
      have digit := valid character characterMember
      unfold IsDigit at digit
      omega
    simp only [valid_iff.mpr valid, if_true, toNat_values]
    rcases solveBoard_ok board_length board_digits with ⟨grid, completes, ran⟩ | ⟨none, ran⟩
    · refine ⟨_, ran, ?_, ?_⟩
      · rintro ⟨character, member, notDigit⟩
        exact absurd (valid character member) notDigit
      · intro _
        have string := digitString_digits completes.completed
        refine ⟨⟨fun _ => ⟨grid, completes⟩, fun _ => string⟩, ?_, ?_⟩
        · intro _
          rw [values_digits fun value member => (completes.completed.digits value member).2]
          exact completes
        · constructor
          · intro isNone
            rw [isNone] at string
            exact absurd string not_digitString_kNoSolution
          · intro none
            exact absurd completes (none grid)
    · refine ⟨_, ran, fun _ => rfl, fun _ => ⟨⟨?_, ?_⟩, ?_, ⟨fun _ => none, fun _ => rfl⟩⟩⟩
      · intro string
        exact absurd string not_digitString_kNoSolution
      · rintro ⟨grid, completes⟩
        exact absurd completes (none grid)
      · intro string
        exact absurd string not_digitString_kNoSolution
  · simp only [mt valid_iff.mp valid]
    refine ⟨kNoSolution, rfl, fun _ => rfl, fun all => absurd all valid⟩

/-- Two equal givens in the first row. -/
theorem solveSudoku_correct_conflict :
    (53 :: 53 :: List.replicate 79 zero).length = kCells ∧
      solveSudoku (53 :: 53 :: List.replicate 79 zero) = .ok kNoSolution := by
  have length : (53 :: 53 :: List.replicate 79 zero).length = kCells := by decide
  refine ⟨length, ?_⟩
  rcases solveSudoku_correct (53 :: 53 :: List.replicate 79 zero) length with
    ⟨result, ran, _, digits⟩
  have none : ∀ grid, ¬Completes (values (53 :: 53 :: List.replicate 79 zero)) grid := by
    intro grid
    exact not_completes_of_twins .row 0 1 (by decide) (by decide)
      (by decide) rfl (by decide) rfl
  have given : ∀ character ∈ 53 :: 53 :: List.replicate 79 zero, IsDigit character := by
    intro character member
    simp only [List.mem_cons, List.mem_replicate] at member
    rcases member with rfl | rfl | ⟨_, rfl⟩ <;> decide
  rw [ran, (digits given).2.2.mpr none]

end Ccnet.Sudoku
