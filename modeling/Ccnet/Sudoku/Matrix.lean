import Ccnet.Sudoku.Solver
import Mathlib.Data.List.Pairwise

/-! # The matrix behind the solver's links

A matrix has columns, named by their header nodes, and rows, which are lists of
nodes. Which columns have been covered determines what the links have to look
like: covering a column leads from one such state to the next, and uncovering it
leads back to exactly the state before. -/

namespace Ccnet.Sudoku

structure Matrix where
  root : Nat
  heads : List Nat
  rows : List (List Nat)
  col : Nat → Nat
  distinct : (root :: (heads ++ rows.flatten)).Nodup
  bounded : ∀ node ∈ root :: (heads ++ rows.flatten), node < kMaxNodes
  col_mem : ∀ row ∈ rows, ∀ node ∈ row, col node ∈ heads
  cols_distinct : ∀ row ∈ rows, (row.map col).Nodup

namespace Matrix

variable (matrix : Matrix)

/-- The rows that have no node in a covered column. -/
def active (covered : List Nat) : List (List Nat) :=
  matrix.rows.filter fun row => row.all fun node => matrix.col node ∉ covered

/-- The nodes of a column that are still linked when it is not covered. -/
def column (covered : List Nat) (c : Nat) : List Nat :=
  (matrix.active covered).flatten.filter fun node => matrix.col node = c

/-- The other nodes of a node's row, as `right` leads to them. -/
def others (node : Nat) : List Nat :=
  match matrix.rows.find? (node ∈ ·) with
  | some row => (row.dropWhile (· ≠ node)).tail ++ row.takeWhile (· ≠ node)
  | none => []

/-- The nodes that covering a column takes out of theirs. -/
def removals (covered : List Nat) (c : Nat) : List Nat :=
  (matrix.column covered c).flatMap matrix.others

variable {matrix} {covered : List Nat} {row front back : List Nat} {node other c d : Nat}

theorem mem_active : row ∈ matrix.active covered ↔
    row ∈ matrix.rows ∧ ∀ node ∈ row, matrix.col node ∉ covered := by
  simp [active]

theorem mem_column : node ∈ matrix.column covered c ↔
    (∃ row ∈ matrix.active covered, node ∈ row) ∧ matrix.col node = c := by
  simp only [column, List.mem_filter, List.mem_flatten, decide_eq_true_eq]

/-! ## Rows -/

theorem nodup_flatten : matrix.rows.flatten.Nodup :=
  (List.nodup_append.mp (List.nodup_cons.mp matrix.distinct).2).2.1

theorem row_nodup (member : row ∈ matrix.rows) : row.Nodup :=
  (List.nodup_flatten.mp nodup_flatten).1 row member

theorem rows_disjoint : matrix.rows.Pairwise List.Disjoint :=
  (List.nodup_flatten.mp nodup_flatten).2

/-- A node is in one row only. -/
theorem row_unique {left right : List Nat} (leftMember : left ∈ matrix.rows)
    (rightMember : right ∈ matrix.rows) (inLeft : node ∈ left) (inRight : node ∈ right) :
    left = right := by
  by_contra different
  have symmetric : Std.Symm (List.Disjoint (α := Nat)) := ⟨fun _ _ => List.disjoint_symm⟩
  exact rows_disjoint.forall leftMember rightMember different inLeft inRight

/-- A row has one node in a column. -/
theorem col_injective (member : row ∈ matrix.rows) (nodeMember : node ∈ row)
    (otherMember : other ∈ row) (same : matrix.col node = matrix.col other) :
    node = other :=
  List.inj_on_of_nodup_map (matrix.cols_distinct row member) nodeMember otherMember same

theorem others_eq (member : front ++ node :: back ∈ matrix.rows) :
    matrix.others node = back ++ front := by
  have found : matrix.rows.find? (node ∈ ·) = some (front ++ node :: back) := by
    cases result : matrix.rows.find? (node ∈ ·) with
    | none =>
        rw [List.find?_eq_none] at result
        exact absurd (result _ member) (by simp)
    | some row =>
        have inRow : node ∈ row := by simpa using List.find?_some result
        rw [row_unique (List.mem_of_find?_eq_some result) member inRow (by simp)]
  have absent : ∀ other ∈ front, decide (other ≠ node) = true := by
    intro other otherMember
    have nodup := row_nodup member
    rw [List.nodup_append] at nodup
    exact decide_eq_true (nodup.2.2 other otherMember node List.mem_cons_self)
  unfold others
  rw [found]
  simp only
  rw [List.dropWhile_append_of_pos absent, List.takeWhile_append_of_pos absent]
  simp

theorem mem_others (member : row ∈ matrix.rows) (nodeMember : node ∈ row) :
    other ∈ matrix.others node ↔ other ∈ row ∧ other ≠ node := by
  rcases List.append_of_mem nodeMember with ⟨front, back, rfl⟩
  have nodup := row_nodup member
  rw [others_eq member]
  simp only [List.nodup_append, List.nodup_cons, List.mem_cons, List.mem_append] at nodup ⊢
  grind

theorem others_nodup (member : row ∈ matrix.rows) (nodeMember : node ∈ row) :
    (matrix.others node).Nodup := by
  rcases List.append_of_mem nodeMember with ⟨front, back, rfl⟩
  have nodup := row_nodup member
  rw [others_eq member]
  simp only [List.nodup_append, List.nodup_cons, List.mem_cons] at nodup ⊢
  grind

/-! ## Columns -/

theorem active_sublist : (matrix.active covered).Sublist matrix.rows :=
  List.filter_sublist

theorem column_nodup : (matrix.column covered c).Nodup := by
  apply List.Nodup.filter
  rw [List.nodup_flatten]
  constructor
  · intro row member
    exact row_nodup (mem_active.mp member).1
  · exact rows_disjoint.sublist active_sublist

theorem mem_removals : other ∈ matrix.removals covered c ↔
    ∃ row ∈ matrix.active covered, (∃ node ∈ row, matrix.col node = c) ∧
      other ∈ row ∧ matrix.col other ≠ c := by
  simp only [removals, List.mem_flatMap, mem_column]
  constructor
  · rintro ⟨node, ⟨⟨row, member, inRow⟩, col⟩, inOthers⟩
    rw [mem_others (mem_active.mp member).1 inRow] at inOthers
    refine ⟨row, member, ⟨node, inRow, col⟩, inOthers.1, ?_⟩
    intro same
    apply inOthers.2
    exact col_injective (mem_active.mp member).1 inOthers.1 inRow (same.trans col.symm)
  · rintro ⟨row, member, ⟨node, inRow, col⟩, otherMember, different⟩
    refine ⟨node, ⟨⟨row, member, inRow⟩, col⟩, ?_⟩
    rw [mem_others (mem_active.mp member).1 inRow]
    refine ⟨otherMember, ?_⟩
    rintro rfl
    exact different col

theorem removals_nodup : (matrix.removals covered c).Nodup := by
  rw [removals, List.nodup_flatMap]
  constructor
  · intro node member
    rcases (mem_column.mp member).1 with ⟨row, rowMember, inRow⟩
    exact others_nodup (mem_active.mp rowMember).1 inRow
  · apply column_nodup.imp_of_mem
    intro left right leftMember rightMember different other inLeft inRight
    rcases mem_column.mp leftMember with ⟨⟨leftRow, leftActive, leftIn⟩, leftCol⟩
    rcases mem_column.mp rightMember with ⟨⟨rightRow, rightActive, rightIn⟩, rightCol⟩
    rw [mem_others (mem_active.mp leftActive).1 leftIn] at inLeft
    rw [mem_others (mem_active.mp rightActive).1 rightIn] at inRight
    have same := row_unique (mem_active.mp leftActive).1 (mem_active.mp rightActive).1
      inLeft.1 inRight.1
    subst same
    exact different (col_injective (mem_active.mp leftActive).1 leftIn rightIn
      (leftCol.trans rightCol.symm))

theorem filter_flatten {rows : List (List Nat)} {keep : List Nat → Bool}
    {inColumn stays : Nat → Bool}
    (agree : ∀ row ∈ rows, ∀ node ∈ row, inColumn node = true → stays node = keep row) :
    (rows.filter keep).flatten.filter inColumn =
      (rows.flatten.filter inColumn).filter stays := by
  induction rows with
  | nil => rfl
  | cons row rows induction =>
      have later := induction fun other member => agree other (List.mem_cons_of_mem _ member)
      have here : (row.filter inColumn).filter stays =
          if keep row then row.filter inColumn else [] := by
        split
        · rename_i kept
          rw [List.filter_eq_self]
          intro node member
          rw [List.mem_filter] at member
          rw [agree row List.mem_cons_self node member.1 member.2, kept]
        · rename_i dropped
          rw [List.filter_eq_nil_iff]
          intro node member
          rw [List.mem_filter] at member
          rwa [agree row List.mem_cons_self node member.1 member.2]
      rw [List.flatten_cons, List.filter_append, List.filter_append, here, ← later,
        List.filter_cons]
      split
      · rw [List.flatten_cons, List.filter_append]
      · rw [List.nil_append]

/-- What is left in another column when a column has been covered. -/
theorem column_cons (different : d ≠ c) :
    matrix.column (c :: covered) d =
      (matrix.column covered d).filter (· ∉ matrix.removals covered c) := by
  have active_cons : matrix.active (c :: covered) =
      (matrix.active covered).filter fun row => row.all fun node => matrix.col node ≠ c := by
    unfold active
    rw [List.filter_filter]
    apply List.filter_congr
    intro row _
    rw [Bool.eq_iff_iff]
    simp only [List.all_eq_true, Bool.and_eq_true, List.mem_cons, not_or,
      decide_eq_true_eq]
    grind
  unfold column
  rw [active_cons]
  apply filter_flatten
  intro row member node inRow col
  rw [Bool.eq_iff_iff]
  simp only [decide_eq_true_eq, mem_removals, List.all_eq_true] at col ⊢
  constructor
  · intro kept other otherMember same
    exact kept ⟨row, member, ⟨other, otherMember, same⟩, inRow, col ▸ different⟩
  · rintro free ⟨otherRow, otherActive, ⟨other, inOther, same⟩, inOtherRow, _⟩
    have sameRow := row_unique (mem_active.mp otherActive).1 (mem_active.mp member).1
      inOtherRow inRow
    subst sameRow
    exact free other inOther same

end Matrix

end Ccnet.Sudoku
