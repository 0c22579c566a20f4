import Ccnet.Sudoku.Correctness
import Mathlib.Logic.Function.Iterate

/-! # A failed search leaves no trace -/

namespace Ccnet.Sudoku

open SudokuSolver

/-! ## The states of a search -/

/-- A call of `solve` that was made in the state `solver` is at the head of its loop over the
rows of `col`. -/
inductive Trying (solver : SudokuSolver) (col : Nat) : Nat → SudokuSolver → Prop
  | first {covered : SudokuSolver} : solver.left solver.root ≠ solver.root →
      solver.getMinColumn = .ok col → solver.cover col = .ok covered →
      Trying solver col (covered.down col) covered
  | next {row : Nat} {current chosen searched undone : SudokuSolver} :
      Trying solver col row current → row ≠ col →
      ({ current with stack := current.stack ++ [row] }.forRight row
        fun solver j => solver.cover (solver.col j)) = .ok chosen →
      chosen.solve kMaxNodes = .ok (false, searched) →
      ({ searched with stack := searched.stack.dropLast }.forLeft row
        fun solver j => solver.uncover (solver.col j)) = .ok undone →
      Trying solver col (undone.down row) undone

/-- The states in which `solve` is called, by `solveSudoku` and by itself. -/
inductive Entered (board : List Nat) : SudokuSolver → Prop
  | create {solver : SudokuSolver} : create board = .ok solver → Entered board solver
  | choose {solver current chosen : SudokuSolver} {col row : Nat} :
      Entered board solver → Trying solver col row current → row ≠ col →
      ({ current with stack := current.stack ++ [row] }.forRight row
        fun solver j => solver.cover (solver.col j)) = .ok chosen →
      Entered board chosen

/-- The column is one that `right` leads to from the root. -/
def Listed (solver : SudokuSolver) (c : Nat) : Prop :=
  c ≠ solver.root ∧ ∃ steps, solver.right^[steps] solver.root = c

/-- The states that covering columns of the header list leads to. -/
inductive Covering (solver : SudokuSolver) : SudokuSolver → Prop
  | entered : Covering solver solver
  | cover {current next : SudokuSolver} {c : Nat} : Covering solver current →
      Listed current c → current.cover c = .ok next → Covering solver next
  | push {current : SudokuSolver} {row : Nat} : Covering solver current →
      Covering solver { current with stack := current.stack ++ [row] }

/-! ## Every state -/

variable {matrix : Matrix} {label : List Nat → Nat × Nat} {chosen : List (List Nat)}
  {covered board : List Nat} {solver current : SudokuSolver} {c col row : Nat}

/-- The header list holds the columns that are not covered. -/
theorem Represents.listed_iff (represents : Represents matrix covered solver) :
    Listed solver c ↔ c ∈ matrix.heads ∧ c ∉ covered := by
  have ring := represents.headers
  rw [← represents.root] at ring
  have uncovered : c ∈ matrix.heads.filter (· ∉ covered) ↔ c ∈ matrix.heads ∧ c ∉ covered := by
    rw [List.mem_filter, decide_eq_true_eq]
  have reached : (∃ steps, solver.right^[steps] solver.root = c) ↔
      c ∈ solver.root :: matrix.heads.filter (· ∉ covered) := ring.mem_iff_iterate_next.symm
  rw [← uncovered, Listed, reached, List.mem_cons]
  constructor
  · rintro ⟨notRoot, isRoot | listed⟩
    · exact absurd isRoot notRoot
    · exact listed
  · intro listed
    exact ⟨ne_of_mem_of_not_mem listed ring.head_not_mem, .inr listed⟩

/-- At the head of the loop the column is covered, and nothing else has changed. -/
theorem Trying.covers (searching : Searching matrix label chosen covered solver)
    (trying : Trying solver col row current) :
    Covers matrix covered col solver current ∧
      ∃ front rest, matrix.column covered col = front ++ rest ∧ row = rest.headD col := by
  induction trying with
  | first notEmpty picked ran =>
      have remaining : matrix.remaining covered ≠ [] := mt searching.left_root.mpr notEmpty
      rcases searching.picked remaining with ⟨least, ⟨isHead, uncovered⟩, found, _⟩
      rw [found] at picked
      cases picked
      rcases searching.represents.cover isHead uncovered with ⟨opened, covers⟩
      rw [covers.ran] at ran
      cases ran
      exact ⟨covers, [], _, rfl, covers.kept.next_head⟩
  | @next row current chosen searched undone _ notHead chose failed undid induction =>
      rcases induction with ⟨covers, front, rest, split, isRow⟩
      cases rest with
      | nil => exact absurd isRow notHead
      | cons first rest =>
          cases isRow
          rcases searching.round covers split with
            ⟨_, following, nodes, after, _, _, ran, next, _, restored⟩
          rw [List.headD_cons] at chose
          rw [ran] at chose
          cases chose
          rcases solve_ok next remaining_length with ⟨found, final, solved, outcome⟩
          rw [solved] at failed
          cases failed
          rcases outcome.failed rfl with ⟨rfl, _⟩
          rw [List.headD_cons, restored] at undid
          cases undid
          refine ⟨covers, front ++ [first], rest, ?_, following⟩
          rw [split, List.append_assoc, List.singleton_append]

theorem Entered.searching (entered : Entered board solver) :
    ∃ matrix label chosen covered, Searching matrix label chosen covered solver := by
  induction entered with
  | create created =>
      rcases create_encodes board with ⟨solver, matrix, label, ran, encodes⟩
      rw [ran] at created
      cases created
      exact ⟨matrix, label, [], [], encodes.searching⟩
  | choose _ trying notHead chose induction =>
      rcases induction with ⟨matrix, label, chosen, covered, searching⟩
      rcases trying.covers searching with ⟨covers, front, rest, split, isRow⟩
      cases rest with
      | nil => exact absurd isRow notHead
      | cons first rest =>
          cases isRow
          rcases searching.round covers split with ⟨_, _, nodes, after, _, _, ran, next, _, _⟩
          rw [List.headD_cons, ran] at chose
          cases chose
          exact ⟨matrix, label, _, _, next⟩

theorem Covering.represents (covering : Covering solver current)
    (represents : Represents matrix covered solver) :
    ∃ covered, Represents matrix covered current := by
  induction covering with
  | entered => exact ⟨covered, represents⟩
  | cover _ listed ran induction =>
      rcases induction with ⟨covered, represents⟩
      rcases represents.listed_iff.mp listed with ⟨isHead, uncovered⟩
      rcases represents.cover isHead uncovered with ⟨after, covers⟩
      rw [covers.ran] at ran
      cases ran
      exact ⟨_, covers.represents⟩
  | push _ induction =>
      rcases induction with ⟨covered, represents⟩
      exact ⟨covered, represents.withStack _⟩

/-- Wherever `solve` is called, it returns, and when it returns false the solver is the one
it was called on. Wherever columns have been covered, covering one more and uncovering it
leads back. -/
theorem failed_search_traceless (entered : Entered board solver) :
    (∃ found after, solver.solve kMaxNodes = .ok (found, after) ∧
      (found = false → after = solver)) ∧
    ∀ current, Covering solver current → ∀ c, Listed current c →
      ∃ covered, current.cover c = .ok covered ∧ covered.uncover c = .ok current := by
  rcases entered.searching with ⟨matrix, label, chosen, covered, searching⟩
  constructor
  · rcases solve_ok searching remaining_length with ⟨found, after, ran, searched⟩
    exact ⟨found, after, ran, fun failed => (searched.failed failed).1⟩
  · intro current covering c listed
    rcases covering.represents searching.represents with ⟨covered, represents⟩
    rcases represents.listed_iff.mp listed with ⟨isHead, uncovered⟩
    rcases represents.cover isHead uncovered with ⟨after, covers⟩
    exact ⟨after, covers.ran, covers.undone⟩

/-- Two equal givens in the first row. -/
theorem failed_search_traceless_conflict :
    ∃ solver, create (5 :: 5 :: List.replicate 79 0) = .ok solver ∧
      solver.solve kMaxNodes = .ok (false, solver) := by
  have length : (5 :: 5 :: List.replicate 79 0).length = kCells := by decide
  have digits : ∀ val ∈ 5 :: 5 :: List.replicate 79 0, val ≤ 9 := by
    intro val member
    simp only [List.mem_cons, List.mem_replicate] at member
    omega
  rcases solve_create length digits with ⟨solver, found, solved, created, ran, completes, _⟩
  rcases (failed_search_traceless (.create created)).1 with ⟨_, after, again, failed⟩
  rw [ran] at again
  cases again
  cases found with
  | true =>
      exact absurd (completes rfl) (not_completes_of_twins .row 0 1
        (by decide) (by decide) (by decide) rfl (by decide) rfl)
  | false =>
      rw [failed rfl] at ran
      exact ⟨solver, created, ran⟩

end Ccnet.Sudoku
