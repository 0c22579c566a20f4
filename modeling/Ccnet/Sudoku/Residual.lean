import Ccnet.Sudoku.Construction

/-! # The matrix that the constructor builds

It is the part of the exact cover problem that the givens leave open. -/

namespace Ccnet.Sudoku

open SudokuSolver

/-- No given puts the digit into the row, column or box. -/
def Absent (board : List Nat) (region : Region) (index val : Nat) : Prop :=
  ∀ cell < kCells, region.of cell = index → board.getD cell 0 ≠ val

/-- The nodes are the root, the headers `heads` and the nodes of `rows`. There is one header
for each cell that is empty and for each digit that is absent from a row, column or box, and
one row, of four nodes in its four columns, for each digit that is absent from the row, the
column and the box of an empty cell; `item` tells which. -/
structure Residual (board heads : List Nat) (rows : List (List Nat))
    (item : List Nat → Nat × Nat) (solver : SudokuSolver) : Prop where
  nodes : solver.root :: (heads ++ rows.flatten) = List.range solver.curNode
  pool : solver.curNode ≤ kMaxNodes
  headers : solver.horizontal.Ring solver.root heads
  names_distinct : (heads.map solver.name).Nodup
  mem_names : ∀ name, name ∈ heads.map solver.name ↔
    (name < kCells ∧ board.getD name 0 = 0) ∨
    ∃ region index val, index < 9 ∧ 1 ≤ val ∧ val ≤ 9 ∧ Absent board region index val ∧
      name = region.column index val
  items_distinct : (rows.map item).Nodup
  mem_items : ∀ cell val, (cell, val) ∈ rows.map item ↔
    cell < kCells ∧ board.getD cell 0 = 0 ∧ 1 ≤ val ∧ val ≤ 9 ∧
      ∀ region : Region, Absent board region (region.of cell) val
  four : ∀ row ∈ rows, row.length = 4
  rings : ∀ first rest, first :: rest ∈ rows → solver.horizontal.Ring first rest
  owned : ∀ row ∈ rows, ∀ node ∈ row, solver.col node ∈ heads
  occupied : ∀ row ∈ rows,
    row.map (fun node => solver.name (solver.col node)) = constraints (item row)
  columns : ∀ c ∈ heads, solver.vertical.Ring c (rows.flatten.filter (solver.col · = c))
  sizes : ∀ c ∈ heads, solver.size c = (rows.flatten.filter (solver.col · = c)).length

variable {board heads : List Nat} {rows : List (List Nat)} {solver : SudokuSolver}

theorem absent_iff_flags {region : Region} {index val : Nat} :
    (markGivens board).flags region index val = false ↔ Absent board region index val := by
  rw [Bool.eq_false_iff, ne_eq, markGivens_flags]
  constructor
  · intro none cell inBoard sameIndex sameVal
    exact none ⟨cell, inBoard, sameIndex, sameVal⟩
  · rintro absent ⟨cell, inBoard, sameIndex, sameVal⟩
    exact absent cell inBoard sameIndex sameVal

theorem Built.residual (built : Built board (columnNames board) heads rows solver)
    (labelled : rows.map (·.map solver.name) = (candidates board).map constraints) :
    Residual board heads rows (fun row => decode (row.map solver.name)) solver := by
  have items : rows.map (fun row => decode (row.map solver.name)) = candidates board := by
    have decoded : rows.map (fun row => decode (row.map solver.name)) =
        (rows.map (·.map solver.name)).map decode := by
      rw [List.map_map]
      rfl
    rw [decoded, labelled, decode_candidates]
  constructor
  case nodes =>
    rw [built.root]
    exact built.nodes
  case pool => exact built.curNode_le labelled
  case headers =>
    rw [built.root]
    exact built.headers
  case names_distinct =>
    rw [built.named]
    exact columnNames_nodup
  case mem_names =>
    intro name
    simp only [built.named, mem_columnNames, absent_iff_flags]
  case items_distinct =>
    rw [items]
    exact candidates_nodup
  case mem_items =>
    intro cell val
    simp only [items, mem_candidates, absent_iff_flags]
  case four =>
    intro row member
    rcases row_candidate labelled member with ⟨cell, val, _, names⟩
    have length := congrArg List.length names
    rw [List.length_map] at length
    exact length
  case rings => exact built.rings
  case owned =>
    intro row member node inRow
    exact (built.owned node (List.mem_flatten.mpr ⟨row, member, inRow⟩)).1
  case occupied =>
    intro row member
    rcases row_label labelled member with ⟨cell, val, _, _, decoded, names⟩
    rw [decoded, ← names, ← built.row_name member, List.map_map]
    rfl
  case columns => exact built.columns
  case sizes => exact built.sizes

/-- On every board the constructor fails none of its checks, and builds what is left of the
exact cover problem. -/
theorem create_residual (board : List Nat) :
    ∃ solver heads rows item, create board = .ok solver ∧
      Residual board heads rows item solver := by
  rcases create_ok board with ⟨solver, ran, heads, rows, built, labelled⟩
  exact ⟨solver, heads, rows, _, ran, built.residual labelled⟩

end Ccnet.Sudoku
