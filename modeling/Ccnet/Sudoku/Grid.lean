import Ccnet.Foundation.ExactCover
import Ccnet.Sudoku.Solver
import Mathlib.Data.Fintype.Card
import Mathlib.Data.Fintype.Prod
import Mathlib.Data.List.GetD

/-! # Grids and exact covers

A puzzle is an instance of the exact cover problem. Its columns are the empty
cells and, for every row, column and box, the digits that no given puts there; its
items are the values that the givens allow in the empty cells. -/

namespace Ccnet.Sudoku

open SudokuSolver

inductive Region
  | row
  | col
  | box
  deriving DecidableEq

namespace Region

def all : List Region := [.row, .col, .box]

/-- The row, column or box that a cell is in. -/
def of : Region → Nat → Nat
  | .row => rowOf
  | .col => colOf
  | .box => boxOf

/-- The name of the matrix column for a digit in a row, column or box. -/
def column : Region → Nat → Nat → Nat
  | .row => getRowCol
  | .col => getColCol
  | .box => getBoxCol

variable {region other : Region} {cell index otherIndex val otherVal : Nat}

theorem mem_all (region : Region) : region ∈ all := by
  cases region <;> decide

theorem of_lt (inBoard : cell < kCells) : region.of cell < 9 := by
  unfold kCells at inBoard
  cases region <;> simp only [of, rowOf, colOf, boxOf] <;> omega

theorem column_eq : region.column index val =
    (match region with | .row => 100 | .col => 200 | .box => 300) + index * 10 + val := by
  cases region <;> rfl

theorem column_ge : 100 ≤ region.column index val := by
  rw [column_eq]
  split <;> omega

theorem column_mod (digit : val ≤ 9) : region.column index val % 10 = val := by
  rw [column_eq]
  split <;> omega

theorem column_injective (small : index < 9) (otherSmall : otherIndex < 9)
    (digit : val ≤ 9) (otherDigit : otherVal ≤ 9)
    (same : region.column index val = other.column otherIndex otherVal) :
    region = other ∧ index = otherIndex ∧ val = otherVal := by
  rw [column_eq, column_eq] at same
  cases region <;> cases other <;> simp only [reduceCtorEq, true_and, false_and] at same ⊢ <;>
    omega

end Region

/-! ## Givens -/

def SudokuSolver.Givens.flags (givens : Givens) : Region → Nat → Nat → Bool
  | .row => givens.rows
  | .col => givens.cols
  | .box => givens.boxes

variable {board grid : List Nat} {region : Region} {cell index val : Nat}

theorem mark_eq_true_iff {flags : Nat → Nat → Bool} {i v : Nat} :
    mark flags i v index val = true ↔ (i = index ∧ v = val) ∨ flags index val = true := by
  unfold mark
  by_cases sameIndex : index = i
  · subst sameIndex
    rw [Function.update_self]
    by_cases sameVal : val = v
    · simp [sameVal]
    · simp [Function.update_of_ne sameVal, Ne.symm sameVal]
  · simp [Function.update_of_ne sameIndex, Ne.symm sameIndex]

theorem flags_mark_iff {givens : Givens} {v : Nat} :
    Givens.flags { rows := mark givens.rows (rowOf cell) v
                   cols := mark givens.cols (colOf cell) v
                   boxes := mark givens.boxes (boxOf cell) v } region index val = true ↔
      (region.of cell = index ∧ v = val) ∨ givens.flags region index val = true := by
  cases region with
  | row => exact mark_eq_true_iff
  | col => exact mark_eq_true_iff
  | box => exact mark_eq_true_iff

/-- A flag is set when a given has the digit in the row, column or box. -/
theorem markGivens_flags : (markGivens board).flags region index val = true ↔
    ∃ cell < kCells, region.of cell = index ∧ board.getD cell 0 = val := by
  have marked : ∀ (cells : List Nat) (givens : Givens),
      (cells.foldl (fun givens i =>
        let val := board.getD i 0
        { rows := mark givens.rows (rowOf i) val
          cols := mark givens.cols (colOf i) val
          boxes := mark givens.boxes (boxOf i) val }) givens).flags region index val = true ↔
      givens.flags region index val = true ∨
        ∃ cell ∈ cells, region.of cell = index ∧ board.getD cell 0 = val := by
    intro cells
    induction cells with
    | nil => simp
    | cons cell cells induction =>
        intro givens
        rw [List.foldl_cons, induction, List.exists_mem_cons_iff, flags_mark_iff, or_assoc,
          or_left_comm]
  rw [markGivens, marked]
  cases region <;> simp [Givens.flags]

theorem absent_iff {givens : Givens} :
    givens.absent cell val = true ↔ ∀ region, givens.flags region (region.of cell) val = false := by
  simp only [Givens.absent, Bool.not_eq_true', Bool.or_eq_false_iff]
  constructor
  · rintro ⟨⟨row, col⟩, box⟩ region
    cases region
    · exact row
    · exact col
    · exact box
  · intro absent
    exact ⟨⟨absent .row, absent .col⟩, absent .box⟩

/-! ## The instance -/

def cellColumns (board : List Nat) : List Nat :=
  (List.range kCells).filter fun cell => board.getD cell 0 = 0

/-- The matrix columns for a digit in the row, the column and the box of one index. -/
def digitColumns (givens : Givens) (index val : Nat) : List Nat :=
  Region.all.flatMap fun region =>
    if !givens.flags region index val then [region.column index val] else []

def columnNames (board : List Nat) : List Nat :=
  cellColumns board ++ (List.range 9).flatMap fun index =>
    (List.range' 1 9).flatMap fun val => digitColumns (markGivens board) index val

/-- The values that can go into a cell. -/
def cellCandidates (board : List Nat) (cell : Nat) : List (Nat × Nat) :=
  if board.getD cell 0 = 0 then
    ((List.range' 1 9).filter fun val => (markGivens board).absent cell val).map (cell, ·)
  else
    []

def candidates (board : List Nat) : List (Nat × Nat) :=
  (List.range kCells).flatMap (cellCandidates board)

/-- The columns that a value in a cell occupies. -/
def constraints (candidate : Nat × Nat) : List Nat :=
  candidate.1 :: Region.all.map fun region =>
    region.column (region.of candidate.1) candidate.2

theorem mem_columnNames {name : Nat} : name ∈ columnNames board ↔
    (name < kCells ∧ board.getD name 0 = 0) ∨
    ∃ region index val, index < 9 ∧ 1 ≤ val ∧ val ≤ 9 ∧
      (markGivens board).flags region index val = false ∧ name = region.column index val := by
  simp only [columnNames, cellColumns, digitColumns, List.mem_append, List.mem_filter,
    List.mem_range, decide_eq_true_eq, List.mem_flatMap, List.mem_range'_1]
  apply or_congr Iff.rfl
  constructor
  · rintro ⟨index, small, val, digit, region, _, member⟩
    split at member
    · rename_i absent
      refine ⟨region, index, val, small, digit.1, by omega, by simpa using absent, ?_⟩
      exact List.mem_singleton.mp member
    · cases member
  · rintro ⟨region, index, val, small, least, most, absent, rfl⟩
    refine ⟨index, small, val, by omega, region, region.mem_all, ?_⟩
    simp [absent]

/-- Every name is a place in `columns_`. -/
theorem columnNames_lt {name : Nat} (member : name ∈ columnNames board) :
    name < kMaxColumns := by
  unfold kMaxColumns
  rcases mem_columnNames.mp member with ⟨inBoard, _⟩ | ⟨region, index, val, small, _, digit, _, rfl⟩
  · unfold kCells at inBoard
    omega
  · rw [Region.column_eq]
    split <;> omega

theorem mem_candidates : (cell, val) ∈ candidates board ↔
    cell < kCells ∧ board.getD cell 0 = 0 ∧ 1 ≤ val ∧ val ≤ 9 ∧
      ∀ region, (markGivens board).flags region (region.of cell) val = false := by
  simp only [candidates, cellCandidates, List.mem_flatMap, List.mem_range]
  constructor
  · rintro ⟨other, inBoard, member⟩
    split at member
    · rename_i empty
      simp only [List.mem_map, List.mem_filter, List.mem_range'_1, absent_iff,
        Prod.mk.injEq] at member
      rcases member with ⟨_, ⟨digit, absent⟩, rfl, rfl⟩
      exact ⟨inBoard, empty, digit.1, by omega, absent⟩
    · cases member
  · rintro ⟨inBoard, empty, least, most, absent⟩
    refine ⟨cell, inBoard, ?_⟩
    rw [if_pos empty]
    simp only [List.mem_map, List.mem_filter, List.mem_range'_1, absent_iff]
    exact ⟨val, ⟨by omega, absent⟩, rfl⟩

theorem mem_constraints {name : Nat} : name ∈ constraints (cell, val) ↔
    name = cell ∨ ∃ region : Region, name = region.column (region.of cell) val := by
  simp only [constraints, List.mem_cons, List.mem_map]
  constructor
  · rintro (rfl | ⟨region, _, rfl⟩)
    · exact .inl rfl
    · exact .inr ⟨region, rfl⟩
  · rintro (rfl | ⟨region, rfl⟩)
    · exact .inl rfl
    · exact .inr ⟨region, region.mem_all, rfl⟩

/-- Two values occupy a common column when they are in one cell, or are one digit
in the same row, column or box. -/
theorem shared_constraint {name other otherVal : Nat} (inBoard : cell < kCells)
    (otherInBoard : other < kCells) (digit : val ≤ 9) (otherDigit : otherVal ≤ 9)
    (member : name ∈ constraints (cell, val)) (otherMember : name ∈ constraints (other, otherVal)) :
    cell = other ∨ ∃ region : Region, region.of cell = region.of other ∧ val = otherVal := by
  unfold kCells at inBoard otherInBoard
  rcases mem_constraints.mp member with rfl | ⟨region, rfl⟩
  · rcases mem_constraints.mp otherMember with same | ⟨region, same⟩
    · exact .inl same
    · have large := @Region.column_ge region (region.of other) otherVal
      omega
  · rcases mem_constraints.mp otherMember with same | ⟨otherRegion, same⟩
    · have large := @Region.column_ge region (region.of cell) val
      omega
    · rcases Region.column_injective (Region.of_lt inBoard) (Region.of_lt otherInBoard)
        digit otherDigit same with ⟨rfl, sameIndex, sameVal⟩
      exact .inr ⟨region, sameIndex, sameVal⟩

theorem constraints_nodup (inBoard : cell < kCells) (digit : val ≤ 9) :
    (constraints (cell, val)).Nodup := by
  unfold kCells at inBoard
  simp only [constraints, Region.all, List.map_cons, List.map_nil, Region.column, Region.of,
    getRowCol, getColCol, getBoxCol, kRow, kCol, kBox, rowOf, colOf, boxOf, List.nodup_cons,
    List.mem_cons, List.not_mem_nil, List.nodup_nil, or_false, not_or, not_false_eq_true,
    and_true]
  omega

theorem candidates_nodup : (candidates board).Nodup := by
  rw [candidates, List.nodup_flatMap]
  constructor
  · intro cell _
    unfold cellCandidates
    split
    · apply List.Nodup.map
      · intro left right same
        exact congrArg Prod.snd same
      · exact List.Nodup.filter _ (List.nodup_range' 1)
    · exact List.nodup_nil
  · apply List.nodup_range.imp
    intro left right different candidate inLeft inRight
    have cell_eq : ∀ cell, candidate ∈ cellCandidates board cell → candidate.1 = cell := by
      intro cell member
      unfold cellCandidates at member
      split at member
      · rcases List.mem_map.mp member with ⟨val, _, rfl⟩
        rfl
      · cases member
    exact different ((cell_eq left inLeft).symm.trans (cell_eq right inRight))

theorem constraints_subset (member : (cell, val) ∈ candidates board) :
    ∀ name ∈ constraints (cell, val), name ∈ columnNames board := by
  rcases mem_candidates.mp member with ⟨inBoard, empty, least, most, absent⟩
  intro name occupied
  rcases mem_constraints.mp occupied with rfl | ⟨region, rfl⟩
  · exact mem_columnNames.mpr (.inl ⟨inBoard, empty⟩)
  · exact mem_columnNames.mpr (.inr ⟨region, region.of cell, val, Region.of_lt inBoard,
      least, most, absent region, rfl⟩)

theorem mem_digitColumns {givens : Givens} {name : Nat}
    (member : name ∈ digitColumns givens index val) :
    ∃ region : Region, name = region.column index val := by
  rcases List.mem_flatMap.mp member with ⟨region, _, listed⟩
  rw [List.mem_ite_nil_right, List.mem_singleton] at listed
  exact ⟨region, listed.2⟩

theorem digitColumns_nodup {givens : Givens} (small : index < 9) (digit : val ≤ 9) :
    (digitColumns givens index val).Nodup := by
  rw [digitColumns, List.nodup_flatMap]
  constructor
  · intro region _
    split
    · exact List.nodup_singleton _
    · exact List.nodup_nil
  · have distinct : Region.all.Nodup := by decide
    apply distinct.imp
    intro left right different name inLeft inRight
    simp only [List.mem_ite_nil_right, List.mem_singleton] at inLeft inRight
    have same := inLeft.2.symm.trans inRight.2
    exact different (Region.column_injective small small digit digit same).1

theorem columnNames_nodup : (columnNames board).Nodup := by
  rw [columnNames, List.nodup_append]
  refine ⟨List.nodup_range.filter _, ?_, ?_⟩
  · rw [List.nodup_flatMap]
    constructor
    · intro index small
      rw [List.mem_range] at small
      rw [List.nodup_flatMap]
      constructor
      · intro val digit
        rw [List.mem_range'_1] at digit
        exact digitColumns_nodup small (by omega)
      · apply (List.nodup_range' 1).imp_of_mem
        intro left right leftDigit rightDigit different name inLeft inRight
        rw [List.mem_range'_1] at leftDigit rightDigit
        rcases mem_digitColumns inLeft with ⟨region, rfl⟩
        rcases mem_digitColumns inRight with ⟨other, same⟩
        exact different (Region.column_injective small small (by omega) (by omega) same).2.2
    · apply List.nodup_range.imp_of_mem
      intro left right leftSmall rightSmall different name inLeft inRight
      rw [List.mem_range] at leftSmall rightSmall
      rcases List.mem_flatMap.mp inLeft with ⟨val, digit, inLeft⟩
      rcases List.mem_flatMap.mp inRight with ⟨otherVal, otherDigit, inRight⟩
      rw [List.mem_range'_1] at digit otherDigit
      rcases mem_digitColumns inLeft with ⟨region, rfl⟩
      rcases mem_digitColumns inRight with ⟨other, same⟩
      exact different
        (Region.column_injective leftSmall rightSmall (by omega) (by omega) same).2.1
  · intro cell isCell name isName same
    have inBoard := List.mem_range.mp (List.mem_of_mem_filter isCell)
    rcases List.mem_flatMap.mp isName with ⟨index, _, inIndex⟩
    rcases List.mem_flatMap.mp inIndex with ⟨val, _, inVal⟩
    rcases mem_digitColumns inVal with ⟨region, rfl⟩
    have large := @Region.column_ge region index val
    unfold kCells at inBoard
    omega

/-! The instance of the empty board has every column and every item. -/

theorem flatMap_sublist {items : List α} {emit other : α → List β}
    (fewer : ∀ item ∈ items, (emit item).Sublist (other item)) :
    (items.flatMap emit).Sublist (items.flatMap other) := by
  induction items with
  | nil => exact List.Sublist.refl _
  | cons item items induction =>
      rw [List.flatMap_cons, List.flatMap_cons]
      rw [List.forall_mem_cons] at fewer
      exact fewer.1.append (induction fewer.2)

theorem columnNames_length : (columnNames board).length ≤ 81 * 4 := by
  have fewer : (columnNames board).Sublist (List.range kCells ++
      (List.range 9).flatMap fun index => (List.range' 1 9).flatMap fun val =>
        Region.all.flatMap fun region => [region.column index val]) := by
    apply List.filter_sublist.append
    apply flatMap_sublist
    intro index _
    apply flatMap_sublist
    intro val _
    apply flatMap_sublist
    intro region _
    split
    · exact List.Sublist.refl _
    · exact List.nil_sublist _
  apply fewer.length_le.trans
  decide +kernel

theorem candidates_length : (candidates board).length ≤ 9 * 9 * 9 := by
  have fewer : (candidates board).Sublist
      ((List.range kCells).flatMap fun cell => (List.range' 1 9).map (cell, ·)) := by
    apply flatMap_sublist
    intro cell _
    unfold cellCandidates
    split
    · exact List.filter_sublist.map _
    · exact List.nil_sublist _
  apply fewer.length_le.trans
  decide +kernel

/-! ## Completed grids -/

/-- Every row, column and box has every digit in exactly one of its cells. -/
structure Completed (grid : List Nat) : Prop where
  length : grid.length = kCells
  digits : ∀ val ∈ grid, 1 ≤ val ∧ val ≤ 9
  once : ∀ region : Region, ∀ index < 9, ∀ val, 1 ≤ val → val ≤ 9 →
    ∃! cell, cell < kCells ∧ region.of cell = index ∧ grid.getD cell 0 = val

/-- A completed grid that agrees with the givens of the board. -/
structure Completes (board grid : List Nat) : Prop where
  completed : Completed grid
  agrees : ∀ cell < kCells, board.getD cell 0 ≠ 0 → grid.getD cell 0 = board.getD cell 0

theorem Completed.digit (completed : Completed grid) (inBoard : cell < kCells) :
    1 ≤ grid.getD cell 0 ∧ grid.getD cell 0 ≤ 9 := by
  apply completed.digits
  rw [← completed.length] at inBoard
  rw [List.getD_eq_getElem _ _ inBoard]
  exact List.getElem_mem _

/-- Two cells of a region with one value are the same. -/
theorem Completed.cell_eq (completed : Completed grid) {other : Nat} (inBoard : cell < kCells)
    (otherInBoard : other < kCells) (sameRegion : region.of other = region.of cell)
    (sameVal : grid.getD other 0 = grid.getD cell 0) : other = cell := by
  have digit := completed.digit inBoard
  apply (completed.once region (region.of cell) (Region.of_lt inBoard) _ digit.1 digit.2).unique
  · exact ⟨otherInBoard, sameRegion, sameVal⟩
  · exact ⟨inBoard, rfl, rfl⟩

/-- Two givens of a region with one value. -/
theorem not_completes_of_twins (region : Region) (cell other : Nat) (inBoard : cell < kCells)
    (otherInBoard : other < kCells) (different : other ≠ cell)
    (sameRegion : region.of other = region.of cell) (given : board.getD cell 0 ≠ 0)
    (sameVal : board.getD other 0 = board.getD cell 0) : ¬Completes board grid := by
  intro completes
  have first := completes.agrees cell inBoard given
  have second := completes.agrees other otherInBoard (sameVal ▸ given)
  apply different
  exact completes.completed.cell_eq inBoard otherInBoard sameRegion
    (second.trans (sameVal.trans first.symm))

/-- No given that a cell sees has the value that the completed grid has there. -/
theorem Completes.candidate (completes : Completes board grid) (inBoard : cell < kCells)
    (empty : board.getD cell 0 = 0) : (cell, grid.getD cell 0) ∈ candidates board := by
  have digit := completes.completed.digit inBoard
  refine mem_candidates.mpr ⟨inBoard, empty, digit.1, digit.2, ?_⟩
  intro region
  rw [Bool.eq_false_iff]
  intro flagged
  rcases markGivens_flags.mp flagged with ⟨other, otherInBoard, sameRegion, given⟩
  have agrees : grid.getD other 0 = grid.getD cell 0 := by
    rw [← given]
    apply completes.agrees other otherInBoard
    omega
  have same := completes.completed.cell_eq inBoard otherInBoard sameRegion agrees
  rw [same, empty] at given
  omega

/-- The rows of the matrix that say what a completed grid says are an exact cover. -/
theorem Completes.exactCover (completes : Completes board grid) :
    ExactCover constraints (candidates board) (columnNames board)
      ((candidates board).filter fun candidate => grid.getD candidate.1 0 = candidate.2) where
  available candidate member := List.mem_of_mem_filter member
  disjoint := by
    apply (candidates_nodup.filter _).imp_of_mem
    rintro ⟨cell, val⟩ ⟨other, otherVal⟩ member otherMember different name inLeft inRight
    simp only [List.mem_filter, mem_candidates, decide_eq_true_eq] at member otherMember
    rcases member with ⟨⟨inBoard, _, _, digit, _⟩, rfl⟩
    rcases otherMember with ⟨⟨otherInBoard, _, _, otherDigit, _⟩, rfl⟩
    have same : cell = other := by
      rcases shared_constraint inBoard otherInBoard digit otherDigit inLeft inRight with
        same | ⟨region, sameRegion, sameVal⟩
      · exact same
      · exact completes.completed.cell_eq otherInBoard inBoard sameRegion sameVal
    subst same
    exact different rfl
  covers name member := by
    have chosen : ∀ cell < kCells, board.getD cell 0 = 0 → (cell, grid.getD cell 0) ∈
        (candidates board).filter fun candidate => grid.getD candidate.1 0 = candidate.2 := by
      intro cell inBoard empty
      rw [List.mem_filter]
      exact ⟨completes.candidate inBoard empty, by simp⟩
    rcases mem_columnNames.mp member with ⟨inBoard, empty⟩ |
      ⟨region, index, val, small, least, most, absent, rfl⟩
    · exact ⟨_, chosen name inBoard empty, mem_constraints.mpr (.inl rfl)⟩
    · rcases (completes.completed.once region index small val least most).exists with
        ⟨cell, inBoard, rfl, rfl⟩
      refine ⟨_, chosen cell inBoard ?_, mem_constraints.mpr (.inr ⟨region, rfl⟩)⟩
      -- A given would have set the flag of the digit.
      by_contra given
      rw [Bool.eq_false_iff] at absent
      apply absent
      rw [markGivens_flags]
      exact ⟨cell, inBoard, rfl, (completes.agrees cell inBoard given).symm⟩

/-! ## From a cover to a grid -/

/-- The board with the chosen values written to it. -/
def fill (board : List Nat) (chosen : List (Nat × Nat)) : List Nat :=
  chosen.foldl (fun board candidate => board.set candidate.1 candidate.2) board

variable {chosen : List (Nat × Nat)}

theorem fill_length : (fill board chosen).length = board.length := by
  induction chosen generalizing board with
  | nil => rfl
  | cons candidate chosen induction =>
      rw [fill, List.foldl_cons]
      exact induction.trans List.length_set

theorem fill_of_not_mem (free : ∀ val, (cell, val) ∉ chosen) :
    (fill board chosen).getD cell 0 = board.getD cell 0 := by
  induction chosen generalizing board with
  | nil => rfl
  | cons candidate chosen induction =>
      have different : candidate.1 ≠ cell := by
        rintro rfl
        exact free candidate.2 List.mem_cons_self
      have later : ∀ val, (cell, val) ∉ chosen := fun val member =>
        free val (List.mem_cons_of_mem _ member)
      rw [fill, List.foldl_cons]
      apply (induction later).trans
      simp [List.getD_eq_getElem?_getD, List.getElem?_set_ne different]

theorem fill_of_mem (apart : chosen.Pairwise fun left right => left.1 ≠ right.1)
    (member : (cell, val) ∈ chosen) (inBoard : cell < board.length) :
    (fill board chosen).getD cell 0 = val := by
  induction chosen generalizing board with
  | nil => cases member
  | cons candidate chosen induction =>
      rw [List.pairwise_cons] at apart
      rw [fill, List.foldl_cons]
      rcases List.mem_cons.mp member with rfl | later
      · have free : ∀ val, (cell, val) ∉ chosen := fun other inChosen =>
          apart.1 _ inChosen rfl
        apply (fill_of_not_mem free).trans
        simp [List.getD_eq_getElem?_getD, List.getElem?_set_self inBoard]
      · exact induction apart.2 later (List.length_set.symm ▸ inBoard)

/-- The 81 cells have all 81 pairs of a region's index and a digit, so they have
every pair once. -/
theorem once_of_surjective {value : Nat → Nat}
    (digits : ∀ cell < kCells, 1 ≤ value cell ∧ value cell ≤ 9)
    (surjective : ∀ index < 9, ∀ val, 1 ≤ val → val ≤ 9 →
      ∃ cell < kCells, region.of cell = index ∧ value cell = val) :
    ∀ index < 9, ∀ val, 1 ≤ val → val ≤ 9 →
      ∃! cell, cell < kCells ∧ region.of cell = index ∧ value cell = val := by
  let pair : Fin kCells → Fin 9 × Fin 9 := fun cell =>
    (⟨region.of cell, Region.of_lt cell.isLt⟩, ⟨value cell - 1, by
      have digit := digits cell cell.isLt
      omega⟩)
  have onto : Function.Surjective pair := by
    rintro ⟨index, val⟩
    rcases surjective index index.isLt (val + 1) (by omega) (by omega) with
      ⟨cell, inBoard, sameIndex, sameVal⟩
    refine ⟨⟨cell, inBoard⟩, Prod.ext (Fin.ext sameIndex) (Fin.ext ?_)⟩
    simp [pair, sameVal]
  have injective : Function.Injective pair := by
    apply ((Fintype.bijective_iff_surjective_and_card pair).mpr ⟨onto, ?_⟩).1
    rw [Fintype.card_prod, Fintype.card_fin, Fintype.card_fin, kCells]
  intro index small val least most
  rcases surjective index small val least most with ⟨cell, inBoard, sameIndex, sameVal⟩
  refine ⟨cell, ⟨inBoard, sameIndex, sameVal⟩, ?_⟩
  rintro other ⟨otherInBoard, otherIndex, otherVal⟩
  have same : pair ⟨other, otherInBoard⟩ = pair ⟨cell, inBoard⟩ := by
    simp [pair, sameIndex, sameVal, otherIndex, otherVal]
  exact congrArg Fin.val (injective same)

theorem cover_cells_apart
    (cover : ExactCover constraints (candidates board) (columnNames board) chosen) :
    chosen.Pairwise fun left right => left.1 ≠ right.1 := by
  apply cover.disjoint.imp
  intro left right disjoint same
  apply disjoint (mem_constraints.mpr (.inl rfl))
  rw [same]
  exact mem_constraints.mpr (.inl rfl)

section Cover

variable (cover : ExactCover constraints (candidates board) (columnNames board) chosen)
include cover

theorem chosen_candidate (member : (cell, val) ∈ chosen) :
    cell < kCells ∧ board.getD cell 0 = 0 ∧ 1 ≤ val ∧ val ≤ 9 := by
  rcases mem_candidates.mp (cover.available _ member) with ⟨inBoard, empty, least, most, _⟩
  exact ⟨inBoard, empty, least, most⟩

theorem fill_chosen (length : board.length = kCells) (member : (cell, val) ∈ chosen) :
    (fill board chosen).getD cell 0 = val := by
  apply fill_of_mem (cover_cells_apart cover) member
  rw [length]
  exact (chosen_candidate cover member).1

theorem fill_given (given : board.getD cell 0 ≠ 0) :
    (fill board chosen).getD cell 0 = board.getD cell 0 := by
  apply fill_of_not_mem
  intro val member
  exact given (chosen_candidate cover member).2.1

theorem fill_empty (length : board.length = kCells) (inBoard : cell < kCells)
    (empty : board.getD cell 0 = 0) : (cell, (fill board chosen).getD cell 0) ∈ chosen := by
  rcases cover.covers cell (mem_columnNames.mpr (.inl ⟨inBoard, empty⟩)) with
    ⟨⟨other, val⟩, member, occupies⟩
  rcases mem_constraints.mp occupies with rfl | ⟨region, same⟩
  · rw [fill_chosen cover length member]
    exact member
  · have large := @Region.column_ge region (region.of other) val
    unfold kCells at inBoard
    omega

theorem fill_digit (length : board.length = kCells) (digits : ∀ val ∈ board, val ≤ 9)
    (inBoard : cell < kCells) :
    1 ≤ (fill board chosen).getD cell 0 ∧ (fill board chosen).getD cell 0 ≤ 9 := by
  by_cases empty : board.getD cell 0 = 0
  · exact (chosen_candidate cover (fill_empty cover length inBoard empty)).2.2
  · have member : board.getD cell 0 ∈ board := by
      rw [List.getD_eq_getElem _ _ (length ▸ inBoard)]
      exact List.getElem_mem _
    rw [fill_given cover empty]
    exact ⟨Nat.pos_of_ne_zero empty, digits _ member⟩

/-- A digit that no given puts into a region is put there by the cover. -/
theorem fill_surjective (length : board.length = kCells) (small : index < 9)
    (least : 1 ≤ val) (most : val ≤ 9) :
    ∃ cell < kCells, region.of cell = index ∧ (fill board chosen).getD cell 0 = val := by
  cases flagged : (markGivens board).flags region index val with
  | true =>
      rcases markGivens_flags.mp flagged with ⟨cell, inBoard, sameIndex, given⟩
      refine ⟨cell, inBoard, sameIndex, ?_⟩
      rw [fill_given cover (by omega), given]
  | false =>
      have name : region.column index val ∈ columnNames board :=
        mem_columnNames.mpr (.inr ⟨region, index, val, small, least, most, flagged, rfl⟩)
      rcases cover.covers _ name with ⟨⟨cell, other⟩, member, occupies⟩
      rcases chosen_candidate cover member with ⟨inBoard, _, _, digit⟩
      rcases mem_constraints.mp occupies with same | ⟨otherRegion, same⟩
      · have large := @Region.column_ge region index val
        unfold kCells at inBoard
        omega
      · rcases Region.column_injective small (Region.of_lt inBoard) most digit same with
          ⟨rfl, rfl, rfl⟩
        exact ⟨cell, inBoard, rfl, fill_chosen cover length member⟩

/-- An exact cover completes the board, whether or not its givens agree. -/
theorem completes_of_exactCover (length : board.length = kCells)
    (digits : ∀ val ∈ board, val ≤ 9) : Completes board (fill board chosen) where
  completed := by
    refine ⟨fill_length.trans length, ?_, ?_⟩
    · intro val member
      rcases List.getElem_of_mem member with ⟨cell, inGrid, rfl⟩
      rw [← List.getD_eq_getElem _ 0 inGrid]
      apply fill_digit cover length digits
      rwa [fill_length, length] at inGrid
    · intro region
      apply once_of_surjective
      · intro cell inBoard
        exact fill_digit cover length digits inBoard
      · intro index small val least most
        exact fill_surjective cover length small least most
  agrees cell _ given := fill_given cover given

end Cover

end Ccnet.Sudoku
