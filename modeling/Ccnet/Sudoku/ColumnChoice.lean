import Ccnet.Sudoku.Undo

/-! # The column that a search chooses -/

namespace Ccnet.Sudoku

open SudokuSolver

variable {board : List Nat} {solver : SudokuSolver}

/-- Wherever `solve` does not stop at once, every size is the number of nodes in its column,
and `getMinColumn` returns a column of the header list that has at most one node or no more
nodes than any other. -/
theorem least_column_chosen (entered : Entered board solver)
    (notEmpty : solver.left solver.root ≠ solver.root) :
    (∀ c, Listed solver c → ∃ nodes, solver.vertical.Ring c nodes ∧
      solver.size c = nodes.length ∧ 0 ≤ solver.size c) ∧
    ∃ col, solver.getMinColumn = .ok col ∧ Listed solver col ∧ col ≠ solver.root ∧
      ((∀ other, Listed solver other → solver.size col ≤ solver.size other) ∨
        solver.size col ≤ 1) := by
  rcases entered.searching with ⟨matrix, label, chosen, covered, searching⟩
  have represents := searching.represents
  constructor
  · intro c listed
    rcases represents.listed_iff.mp listed with ⟨isHead, uncovered⟩
    have counted := represents.sizes c isHead uncovered
    exact ⟨_, represents.columns c isHead uncovered, counted, counted ▸ Int.natCast_nonneg _⟩
  · have remaining : matrix.remaining covered ≠ [] := mt searching.left_root.mpr notEmpty
    rcases searching.picked remaining with ⟨col, uncovered, picked, choice⟩
    have listed := represents.listed_iff.mpr uncovered
    refine ⟨col, picked, listed, listed.1, ?_⟩
    rcases choice with small | least
    · exact .inr small
    · left
      intro other otherListed
      rcases represents.listed_iff.mp otherListed with ⟨isHead, otherUncovered⟩
      exact least other isHead otherUncovered

/-- The first choice on the empty board. -/
theorem least_column_chosen_empty :
    ∃ solver col nodes, create (List.replicate kCells 0) = .ok solver ∧
      solver.getMinColumn = .ok col ∧ solver.vertical.Ring col nodes ∧
      solver.size col = nodes.length := by
  rcases create_encodes (List.replicate kCells 0) with ⟨solver, matrix, label, created, encodes⟩
  have named : 0 ∈ matrix.heads.map solver.name := by
    rw [encodes.columns]
    exact mem_columnNames.mpr (.inl ⟨by decide, by decide⟩)
  rcases List.mem_map.mp named with ⟨head, isHead, _⟩
  have notEmpty : solver.left solver.root ≠ solver.root := by
    intro isEmpty
    have listed : head ∈ matrix.remaining [] :=
      List.mem_filter.mpr ⟨isHead, decide_eq_true List.not_mem_nil⟩
    rw [encodes.searching.left_root.mp isEmpty] at listed
    cases listed
  rcases least_column_chosen (.create created) notEmpty with ⟨counted, col, picked, listed, _⟩
  rcases counted col listed with ⟨nodes, ring, size, _⟩
  exact ⟨solver, col, nodes, created, picked, ring, size⟩

end Ccnet.Sudoku
