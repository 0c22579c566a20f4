import Ccnet.Sudoku.Matrix
import Mathlib.Data.List.Induction
import Mathlib.Data.List.Perm.Subperm

/-! # Covering and uncovering -/

namespace Ccnet.Sudoku

open SudokuSolver

/-- The links show the matrix without its covered columns and without the rows
that have a node in one. -/
structure Represents (matrix : Matrix) (covered : List Nat) (solver : SudokuSolver) :
    Prop where
  root : solver.root = matrix.root
  col : solver.col = matrix.col
  headers : solver.horizontal.Ring matrix.root (matrix.heads.filter (· ∉ covered))
  rows : ∀ node ∈ matrix.rows.flatten, solver.horizontal.Ring node (matrix.others node)
  columns : ∀ c ∈ matrix.heads, c ∉ covered →
    solver.vertical.Ring c (matrix.column covered c)
  sizes : ∀ c ∈ matrix.heads, c ∉ covered →
    solver.size c = (matrix.column covered c).length

variable {matrix : Matrix} {covered : List Nat} {solver start : SudokuSolver}
  {c d j : Nat} {done : List Nat}

/-! ## One node -/

theorem restoreNode_removeNode (linked : solver.vertical.Linked j) :
    (solver.removeNode j).restoreNode j = solver := by
  have counted : Function.update (Function.update solver.size (solver.col j)
      (solver.size (solver.col j) - 1)) (solver.col j)
      (Function.update solver.size (solver.col j) (solver.size (solver.col j) - 1)
        (solver.col j) + 1) = solver.size := by
    rw [Function.update_idem, Function.update_self, Int.sub_add_cancel, Function.update_eq_self]
  unfold removeNode restoreNode
  simp only [Links.relink_unlink linked, counted]

/-- After the header of `c` and the nodes `done` have been taken out. -/
structure Removed (matrix : Matrix) (covered : List Nat) (c : Nat)
    (start : SudokuSolver) (done : List Nat) (solver : SudokuSolver) : Prop where
  frame : solver = { start with vertical := solver.vertical, size := solver.size }
  kept : solver.vertical.Ring c (matrix.column covered c)
  columns : ∀ d ∈ matrix.heads, d ∉ c :: covered →
    solver.vertical.Ring d ((matrix.column covered d).filter (· ∉ done)) ∧
      solver.size d = ((matrix.column covered d).filter (· ∉ done)).length

/-- A node that covering `c` takes out is in an uncovered column. -/
theorem Matrix.removal_column (member : j ∈ matrix.removals covered c) :
    matrix.col j ∈ matrix.heads ∧ matrix.col j ∉ c :: covered ∧
      j ∈ matrix.column covered (matrix.col j) := by
  rcases Matrix.mem_removals.mp member with ⟨row, active, _, inRow, different⟩
  have rowMember := Matrix.mem_active.mp active
  refine ⟨matrix.col_mem row rowMember.1 j inRow, ?_, ?_⟩
  · rw [List.mem_cons, not_or]
    exact ⟨different, rowMember.2 j inRow⟩
  · exact Matrix.mem_column.mpr ⟨⟨row, active, inRow⟩, rfl⟩

/-- Headers and nodes are different. -/
theorem Matrix.head_not_node (head : d ∈ matrix.heads) (node : j ∈ matrix.rows.flatten) :
    d ≠ j := by
  have apart := (List.nodup_append.mp (List.nodup_cons.mp matrix.distinct).2).2.2
  exact apart d head j node

theorem Matrix.column_subset (member : j ∈ matrix.column covered c) :
    j ∈ matrix.rows.flatten := by
  rcases (Matrix.mem_column.mp member).1 with ⟨row, active, inRow⟩
  exact List.mem_flatten.mpr ⟨row, (Matrix.mem_active.mp active).1, inRow⟩

theorem length_filter_ne {nodes : List Nat} (nodup : nodes.Nodup) (member : j ∈ nodes) :
    ((nodes.filter (· ≠ j)).length : Int) = nodes.length - 1 := by
  have erased : nodes.filter (· ≠ j) = nodes.erase j := by
    rw [nodup.erase_eq_filter]
    apply List.filter_congr
    intro other _
    rw [Bool.eq_iff_iff]
    simp
  have positive := List.length_pos_of_mem member
  rw [erased, List.length_erase_of_mem member]
  omega

theorem filter_append_singleton (nodes : List Nat) :
    nodes.filter (· ∉ done ++ [j]) = (nodes.filter (· ∉ done)).filter (· ≠ j) := by
  rw [List.filter_filter]
  apply List.filter_congr
  intro node _
  rw [Bool.eq_iff_iff]
  simp only [List.mem_append, List.mem_singleton, not_or, Bool.and_eq_true,
    decide_eq_true_eq]
  exact and_comm

theorem Removed.linked (removed : Removed matrix covered c start done solver)
    (member : j ∈ matrix.removals covered c) (fresh : j ∉ done) :
    solver.vertical.Linked j := by
  rcases Matrix.removal_column member with ⟨head, uncovered, inColumn⟩
  apply (removed.columns _ head uncovered).1.linked
  simpa [inColumn] using fresh

theorem Removed.removeNode (removed : Removed matrix covered c start done solver)
    (col : start.col = matrix.col) (isHead : c ∈ matrix.heads)
    (member : j ∈ matrix.removals covered c) (fresh : j ∉ done) :
    Removed matrix covered c start (done ++ [j]) (solver.removeNode j) := by
  have linked := removed.linked member fresh
  have sameCol : solver.col = matrix.col := by
    rw [removed.frame]
    exact col
  rcases Matrix.removal_column member with ⟨head, uncovered, inColumn⟩
  have isNode := Matrix.column_subset inColumn
  have listed : j ∈ (matrix.column covered (matrix.col j)).filter (· ∉ done) := by
    simpa [inColumn] using fresh
  refine ⟨?_, ?_, ?_⟩
  · rw [SudokuSolver.removeNode, removed.frame]
  · apply removed.kept.unlink_absent linked
    rw [List.mem_cons, not_or]
    refine ⟨(Matrix.head_not_node isHead isNode).symm, ?_⟩
    intro inC
    exact uncovered ((Matrix.mem_column.mp inC).2 ▸ List.mem_cons_self)
  · intro d isD dUncovered
    rcases removed.columns d isD dUncovered with ⟨ring, size⟩
    rw [filter_append_singleton]
    simp only [SudokuSolver.removeNode, sameCol]
    by_cases same : d = matrix.col j
    · subst same
      refine ⟨ring.unlink listed, ?_⟩
      rw [Function.update_self, size, length_filter_ne ring.rest_nodup listed]
    · have absent : j ∉ (matrix.column covered d).filter (· ∉ done) := by
        intro inD
        exact same (Matrix.mem_column.mp (List.mem_of_mem_filter inD)).2.symm
      have unchanged : ((matrix.column covered d).filter (· ∉ done)).filter (· ≠ j) =
          (matrix.column covered d).filter (· ∉ done) := by
        rw [List.filter_eq_self]
        intro other otherMember
        simp only [ne_eq, decide_eq_true_eq]
        rintro rfl
        exact absent otherMember
      rw [unchanged, Function.update_of_ne same]
      refine ⟨?_, size⟩
      apply ring.unlink_absent linked
      rw [List.mem_cons, not_or]
      exact ⟨(Matrix.head_not_node isD isNode).symm, absent⟩

/-! ## Loops over a row -/

theorem Matrix.length_lt (matrix : Matrix) {head : Nat} {rest : List Nat}
    (nodup : (head :: rest).Nodup)
    (members : ∀ node ∈ head :: rest,
      node ∈ matrix.root :: (matrix.heads ++ matrix.rows.flatten)) :
    rest.length < kMaxNodes := by
  have bound : (head :: rest).length ≤ (List.range kMaxNodes).length := by
    apply (List.subperm_of_subset nodup _).length_le
    intro node member
    exact List.mem_range.mpr (matrix.bounded node (members node member))
  rw [List.length_cons, List.length_range] at bound
  exact bound

theorem Matrix.row_length (member : j ∈ matrix.rows.flatten) :
    (j :: matrix.others j).length < kMaxNodes := by
  rcases List.mem_flatten.mp member with ⟨row, rowMember, inRow⟩
  have others : ∀ other ∈ matrix.others j, other ∈ row ∧ other ≠ j := by
    intro other
    exact (Matrix.mem_others rowMember inRow).mp
  have nodes : ∀ other ∈ j :: matrix.others j, other ∈ matrix.heads ++ matrix.rows.flatten := by
    intro other otherMember
    apply List.mem_append_right
    rcases List.mem_cons.mp otherMember with rfl | inOthers
    · exact member
    · exact List.mem_flatten.mpr ⟨row, rowMember, (others other inOthers).1⟩
  apply matrix.length_lt
  · rw [List.nodup_cons, List.nodup_cons]
    refine ⟨?_, fun self => (others j self).2 rfl, Matrix.others_nodup rowMember inRow⟩
    intro isRoot
    exact (List.nodup_cons.mp matrix.distinct).1 (nodes _ isRoot)
  · exact List.forall_mem_cons.mpr ⟨List.mem_cons_self,
      fun other otherMember => List.mem_cons_of_mem _ (nodes other otherMember)⟩

theorem Matrix.others_length (member : j ∈ matrix.rows.flatten) :
    (matrix.others j).length < kMaxNodes :=
  Nat.lt_of_succ_lt (Matrix.row_length member)

theorem Matrix.column_length (isHead : c ∈ matrix.heads) :
    (matrix.column covered c).length < kMaxNodes := by
  apply matrix.length_lt
  · rw [List.nodup_cons]
    refine ⟨?_, Matrix.column_nodup⟩
    intro member
    exact Matrix.head_not_node isHead (Matrix.column_subset member) rfl
  · intro node member
    apply List.mem_cons_of_mem
    rcases List.mem_cons.mp member with rfl | inColumn
    · exact List.mem_append_left _ isHead
    · exact List.mem_append_right _ (Matrix.column_subset inColumn)

theorem foldl_horizontal {visit : SudokuSolver → Nat → SudokuSolver}
    (keeps : ∀ solver j, (visit solver j).horizontal = solver.horizontal)
    (nodes : List Nat) (solver : SudokuSolver) :
    (nodes.foldl visit solver).horizontal = solver.horizontal := by
  induction nodes generalizing solver with
  | nil => rfl
  | cons node nodes induction => rw [List.foldl_cons, induction, keeps]

theorem forRight_foldl {visit : SudokuSolver → Nat → SudokuSolver} {row : Nat}
    {nodes : List Nat} (keeps : ∀ solver j, (visit solver j).horizontal = solver.horizontal)
    (ring : solver.horizontal.Ring row nodes) (short : nodes.length < kMaxNodes) :
    solver.forRight row (fun solver j => .ok (visit solver j)) =
      .ok (nodes.foldl visit solver) := by
  unfold forRight
  rw [right, ring.next_head]
  apply walk_foldl _ short
  rintro done node rest rfl
  refine ⟨?_, rfl, ?_⟩
  · rintro rfl
    exact ring.head_not_mem (by simp)
  · rw [right, keeps, foldl_horizontal keeps]
    exact ring.next_eq

theorem forLeft_foldl {visit : SudokuSolver → Nat → SudokuSolver} {row : Nat}
    {nodes : List Nat} (keeps : ∀ solver j, (visit solver j).horizontal = solver.horizontal)
    (ring : solver.horizontal.Ring row nodes) (short : nodes.length < kMaxNodes) :
    solver.forLeft row (fun solver j => .ok (visit solver j)) =
      .ok (nodes.reverse.foldl visit solver) := by
  have reversed := ring.flip
  have start : solver.left row = nodes.reverse.headD row := reversed.next_head
  unfold forLeft
  rw [start]
  apply walk_foldl _ (by simpa using short)
  intro done node rest split
  rw [split] at reversed
  refine ⟨?_, rfl, ?_⟩
  · rintro rfl
    exact reversed.head_not_mem (by simp)
  · rw [left, keeps, foldl_horizontal keeps]
    exact reversed.next_eq

/-! ## A whole column -/

/-- The inner loop of `cover`. -/
def removeRow (matrix : Matrix) (solver : SudokuSolver) (row : Nat) : SudokuSolver :=
  (matrix.others row).foldl removeNode solver

def restoreRow (matrix : Matrix) (solver : SudokuSolver) (row : Nat) : SudokuSolver :=
  (matrix.others row).reverse.foldl restoreNode solver

theorem foldl_removeRow (rows : List Nat) (solver : SudokuSolver) :
    rows.foldl (removeRow matrix) solver =
      (rows.flatMap matrix.others).foldl removeNode solver := by
  induction rows generalizing solver with
  | nil => rfl
  | cons row rows induction =>
      rw [List.foldl_cons, List.flatMap_cons, List.foldl_append, induction, removeRow]

/-- The node that is taken out next is not among those taken out. -/
theorem Matrix.removal_fresh {rest : List Nat}
    (split : matrix.removals covered c = done ++ j :: rest) :
    j ∈ matrix.removals covered c ∧ j ∉ done := by
  have nodup : (matrix.removals covered c).Nodup := Matrix.removals_nodup
  rw [split, List.nodup_append] at nodup
  constructor
  · rw [split]
    simp
  · intro member
    exact nodup.2.2 j member j List.mem_cons_self rfl

theorem Removed.foldl (base : Removed matrix covered c start [] start)
    (col : start.col = matrix.col) (isHead : c ∈ matrix.heads) {rest : List Nat}
    (split : matrix.removals covered c = done ++ rest) :
    Removed matrix covered c start done (done.foldl SudokuSolver.removeNode start) := by
  induction done using List.reverseRecOn generalizing rest with
  | nil => exact base
  | append_singleton done j induction =>
      rw [List.append_assoc, List.singleton_append] at split
      rcases Matrix.removal_fresh split with ⟨member, fresh⟩
      rw [List.foldl_append, List.foldl_cons, List.foldl_nil]
      exact (induction split).removeNode col isHead member fresh

/-- What covering the column `c` of a represented matrix starts from. -/
structure Opened (matrix : Matrix) (covered : List Nat) (c : Nat)
    (start : SudokuSolver) : Prop where
  isHead : c ∈ matrix.heads
  col : start.col = matrix.col
  rows : ∀ node ∈ matrix.rows.flatten, start.horizontal.Ring node (matrix.others node)
  base : Removed matrix covered c start [] start

namespace Opened

variable {rest front back : List Nat} {row : Nat}

theorem prefix_state (opened : Opened matrix covered c start)
    (split : matrix.column covered c = front ++ back) :
    Removed matrix covered c start (front.flatMap matrix.others)
      (front.foldl (removeRow matrix) start) := by
  rw [foldl_removeRow]
  apply opened.base.foldl opened.col opened.isHead
  rw [Matrix.removals, split, List.flatMap_append]

theorem horizontal_eq (opened : Opened matrix covered c start)
    (split : matrix.column covered c = front ++ back) :
    (front.foldl (removeRow matrix) start).horizontal = start.horizontal := by
  rw [(opened.prefix_state split).frame]

/-- Putting the nodes of a row back undoes taking them out. -/
theorem restoreRow_removeRow (opened : Opened matrix covered c start)
    (split : matrix.column covered c = front ++ row :: back) :
    restoreRow matrix (removeRow matrix (front.foldl (removeRow matrix) start) row) row =
      front.foldl (removeRow matrix) start := by
  have undone : (matrix.others row).reverse.foldl restoreNode
      ((matrix.others row).foldl SudokuSolver.removeNode
        (front.foldl (removeRow matrix) start)) =
      [].foldl SudokuSolver.removeNode (front.foldl (removeRow matrix) start) := by
    apply foldl_undo _ (List.nil_append _).symm
    intro done j rest others
    have removals : matrix.removals covered c =
        (front.flatMap matrix.others ++ done) ++ j :: (rest ++ back.flatMap matrix.others) := by
      rw [Matrix.removals, split, List.flatMap_append, List.flatMap_cons, others]
      simp
    rcases Matrix.removal_fresh removals with ⟨member, fresh⟩
    rw [foldl_removeRow, ← List.foldl_append]
    apply restoreNode_removeNode
    exact (opened.base.foldl opened.col opened.isHead removals).linked member fresh
  exact undone

/-- The nodes of the column are rows that the loops can go around, in every state
that the outer loop passes through. -/
theorem row_ring (opened : Opened matrix covered c start)
    (split : matrix.column covered c = front ++ back) (member : row ∈ matrix.column covered c) :
    (front.foldl (removeRow matrix) start).horizontal.Ring row (matrix.others row) := by
  rw [opened.horizontal_eq split]
  exact opened.rows row (Matrix.column_subset member)

theorem forDown_eq (opened : Opened matrix covered c start) :
    (start.forDown c fun solver row =>
      solver.forRight row fun solver j => .ok (solver.removeNode j)) =
      .ok ((matrix.column covered c).foldl (removeRow matrix) start) := by
  have kept := opened.base.kept
  unfold forDown
  rw [down, kept.next_head]
  apply walk_foldl _ (Matrix.column_length opened.isHead)
  intro done row rest split
  have member : row ∈ matrix.column covered c := by
    rw [split]
    simp
  refine ⟨?_, ?_, ?_⟩
  · rintro rfl
    exact kept.head_not_mem member
  · exact forRight_foldl (fun _ _ => rfl) (opened.row_ring split member)
      (Matrix.others_length (Matrix.column_subset member))
  · have next : matrix.column covered c = (done ++ [row]) ++ rest := by
      rw [split, List.append_assoc, List.singleton_append]
    have ring := (opened.prefix_state next).kept
    rw [List.foldl_append, List.foldl_cons, List.foldl_nil, split] at ring
    exact ring.next_eq

/-- A round of the loop that goes up: `row :: rest` is what has not been put back. -/
theorem forUp_round (opened : Opened matrix covered c start)
    (reversed : (matrix.column covered c).reverse = done ++ row :: rest) :
    row ≠ c ∧
    (((row :: rest).reverse.foldl (removeRow matrix) start).forLeft row fun solver j =>
      .ok (solver.restoreNode j)) = .ok (rest.reverse.foldl (removeRow matrix) start) ∧
    (rest.reverse.foldl (removeRow matrix) start).up row = rest.headD c := by
  have split : matrix.column covered c = rest.reverse ++ row :: done.reverse := by
    rw [← List.reverse_reverse (matrix.column covered c), reversed]
    simp
  have passed : matrix.column covered c = (row :: rest).reverse ++ done.reverse := by
    rw [split]
    simp
  have member : row ∈ matrix.column covered c := by
    rw [split]
    simp
  have before : (row :: rest).reverse.foldl (removeRow matrix) start =
      removeRow matrix (rest.reverse.foldl (removeRow matrix) start) row := by
    rw [List.reverse_cons, List.foldl_append, List.foldl_cons, List.foldl_nil]
  refine ⟨?_, ?_, ?_⟩
  · rintro rfl
    exact opened.base.kept.head_not_mem member
  · rw [← opened.restoreRow_removeRow split, ← before]
    exact forLeft_foldl (fun _ _ => rfl) (opened.row_ring passed member)
      (Matrix.others_length (Matrix.column_subset member))
  · have ring := (opened.prefix_state split).kept.flip
    rw [reversed] at ring
    exact ring.next_eq

theorem forUp_eq (opened : Opened matrix covered c start) :
    (((matrix.column covered c).foldl (removeRow matrix) start).forUp c fun solver row =>
      solver.forLeft row fun solver j => .ok (solver.restoreNode j)) = .ok start := by
  have kept := (opened.prefix_state (List.append_nil _).symm).kept.flip
  have first : ((matrix.column covered c).foldl (removeRow matrix) start).up c =
      (matrix.column covered c).reverse.headD c := kept.next_head
  have short : (matrix.column covered c).reverse.length < kMaxNodes := by
    rw [List.length_reverse]
    exact (Matrix.column_length opened.isHead)
  have walked : ∃ final, (((matrix.column covered c).foldl (removeRow matrix) start).forUp c
      fun solver row => solver.forLeft row fun solver j => .ok (solver.restoreNode j)) =
        .ok final ∧ (∃ done, (matrix.column covered c).reverse = done ++ []) ∧
      final = [].reverse.foldl (removeRow matrix) start := by
    unfold forUp
    rw [first]
    apply walk_ok
      (fun rest solver => (∃ done, (matrix.column covered c).reverse = done ++ rest) ∧
        solver = rest.reverse.foldl (removeRow matrix) start)
      _ ⟨⟨[], rfl⟩, by rw [List.reverse_reverse]⟩ short
    rintro row rest solver ⟨⟨done, reversed⟩, rfl⟩
    rcases opened.forUp_round reversed with ⟨different, restored, next⟩
    refine ⟨different, _, restored, ⟨⟨done ++ [row], ?_⟩, rfl⟩, next⟩
    rw [reversed, List.append_assoc, List.singleton_append]
  rcases walked with ⟨final, ran, _, rfl⟩
  exact ran

end Opened

/-! ## Covering a column -/

/-- Covering `c` leads from one represented state to another, and back. -/
structure Covers (matrix : Matrix) (covered : List Nat) (c : Nat)
    (solver after : SudokuSolver) : Prop where
  ran : solver.cover c = .ok after
  represents : Represents matrix (c :: covered) after
  undone : after.uncover c = .ok solver
  kept : after.vertical.Ring c (matrix.column covered c)
  frame : after = { solver with
    horizontal := after.horizontal, vertical := after.vertical, size := after.size }

theorem filter_cons_covered (nodes : List Nat) :
    nodes.filter (· ∉ c :: covered) = (nodes.filter (· ∉ covered)).filter (· ≠ c) := by
  rw [List.filter_filter]
  apply List.filter_congr
  intro node _
  rw [Bool.eq_iff_iff]
  simp

theorem Represents.opened (represents : Represents matrix covered solver)
    (isHead : c ∈ matrix.heads) (uncovered : c ∉ covered)
    (linked : solver.horizontal.Linked c) :
    Opened matrix covered c { solver with horizontal := solver.horizontal.unlink c } where
  isHead := isHead
  col := represents.col
  rows := by
    intro node member
    apply (represents.rows node member).unlink_absent linked
    rcases List.mem_flatten.mp member with ⟨row, rowMember, inRow⟩
    intro inRing
    rcases List.mem_cons.mp inRing with same | inOthers
    · exact Matrix.head_not_node isHead member same
    · have inRow := ((Matrix.mem_others rowMember inRow).mp inOthers).1
      exact Matrix.head_not_node isHead (List.mem_flatten.mpr ⟨row, rowMember, inRow⟩) rfl
  base := by
    refine ⟨rfl, represents.columns c isHead uncovered, ?_⟩
    intro d dHead dUncovered
    have free : d ∉ covered := fun member => dUncovered (List.mem_cons_of_mem _ member)
    have all : (matrix.column covered d).filter (· ∉ []) = matrix.column covered d := by
      simp
    rw [all]
    exact ⟨represents.columns d dHead free, represents.sizes d dHead free⟩

theorem Represents.cover (represents : Represents matrix covered solver)
    (isHead : c ∈ matrix.heads) (uncovered : c ∉ covered) :
    ∃ after, Covers matrix covered c solver after := by
  have listed : c ∈ matrix.heads.filter (· ∉ covered) := by
    simpa [isHead] using uncovered
  have linked := represents.headers.linked listed
  have opened := represents.opened isHead uncovered linked
  have removed := opened.prefix_state (List.append_nil _).symm
  generalize end_eq : (matrix.column covered c).foldl (removeRow matrix)
    { solver with horizontal := solver.horizontal.unlink c } = after at removed
  refine ⟨after, ?_, ?_, ?_, removed.kept, ?_⟩
  · rw [SudokuSolver.cover, opened.forDown_eq, end_eq]
  · refine ⟨?_, ?_, ?_, ?_, ?_, ?_⟩
    · rw [removed.frame]
      exact represents.root
    · rw [removed.frame]
      exact represents.col
    · rw [removed.frame, filter_cons_covered]
      exact represents.headers.unlink listed
    · rw [removed.frame]
      exact opened.rows
    · intro d dHead dUncovered
      rw [Matrix.column_cons (List.ne_of_not_mem_cons dUncovered)]
      exact (removed.columns d dHead dUncovered).1
    · intro d dHead dUncovered
      rw [Matrix.column_cons (List.ne_of_not_mem_cons dUncovered)]
      exact (removed.columns d dHead dUncovered).2
  · have restored := opened.forUp_eq
    rw [end_eq] at restored
    rw [uncover, restored, Checked.ok_bind]
    simp only [Links.relink_unlink linked]
    rfl
  · rw [removed.frame]

end Ccnet.Sudoku
