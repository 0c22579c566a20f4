import Ccnet.Foundation.ExactCover
import Ccnet.Sudoku.Cover

/-! # The search

`solve` goes through the choices of rows. A call that fails leaves the solver as
it was, and there is then no way to complete the choice made so far; a call that
succeeds writes an exact cover to the board. -/

namespace Ccnet.Sudoku

open SudokuSolver

/-! ## The stack is not looked at by `cover` and `uncover` -/

section Stack

variable {solver : SudokuSolver} {stack : List Nat} {c j : Nat}

def SudokuSolver.withStack (stack : List Nat) (solver : SudokuSolver) : SudokuSolver :=
  { solver with stack := stack }

theorem removeRows_withStack (solver : SudokuSolver) (c : Nat) :
    ((solver.withStack stack).forDown c fun solver row =>
      solver.forRight row fun solver j => .ok (solver.removeNode j)) =
      (solver.forDown c fun solver row =>
        solver.forRight row fun solver j => .ok (solver.removeNode j)).map (withStack stack) := by
  apply walk_map (withStack stack) (fun _ _ => rfl)
  intro solver row
  exact walk_map (withStack stack) (fun _ _ => rfl) (fun _ _ => rfl) _ _ _

theorem restoreRows_withStack (solver : SudokuSolver) (c : Nat) :
    ((solver.withStack stack).forUp c fun solver row =>
      solver.forLeft row fun solver j => .ok (solver.restoreNode j)) =
      (solver.forUp c fun solver row =>
        solver.forLeft row fun solver j => .ok (solver.restoreNode j)).map (withStack stack) := by
  apply walk_map (withStack stack) (fun _ _ => rfl)
  intro solver row
  exact walk_map (withStack stack) (fun _ _ => rfl) (fun _ _ => rfl) _ _ _

theorem cover_withStack (solver : SudokuSolver) (c : Nat) :
    (solver.withStack stack).cover c = (solver.cover c).map (withStack stack) :=
  removeRows_withStack { solver with horizontal := solver.horizontal.unlink c } c

theorem uncover_withStack (solver : SudokuSolver) (c : Nat) :
    (solver.withStack stack).uncover c = (solver.uncover c).map (withStack stack) := by
  unfold uncover
  rw [restoreRows_withStack]
  cases solver.forUp c _ with
  | error fault => rfl
  | ok restored => rfl

end Stack

variable {matrix : Matrix} {covered : List Nat} {solver start after : SudokuSolver}
  {c j row : Nat} {trail : List Nat}

theorem Represents.withStack (represents : Represents matrix covered solver)
    (stack : List Nat) : Represents matrix covered (solver.withStack stack) :=
  ⟨represents.root, represents.col, represents.headers, represents.rows,
    represents.columns, represents.sizes⟩

theorem Covers.withStack (covers : Covers matrix covered c solver after) (stack : List Nat) :
    Covers matrix covered c (solver.withStack stack) (after.withStack stack) where
  ran := by
    rw [cover_withStack, covers.ran]
    rfl
  represents := covers.represents.withStack stack
  undone := by
    rw [uncover_withStack, covers.undone]
    rfl
  kept := covers.kept
  frame := by
    have frame := covers.frame
    generalize after.horizontal = horizontal, after.vertical = vertical,
      after.size = size at frame
    subst frame
    rfl

/-! ## The columns of a row -/

/-- From `start`, in which `covered` is covered, the columns of the nodes of `trail`
have been covered too, the last one first in the list. -/
inductive Trail (matrix : Matrix) (covered : List Nat) (start : SudokuSolver) :
    List Nat → SudokuSolver → Prop
  | nil : Represents matrix covered start → Trail matrix covered start [] start
  | cons {trail : List Nat} {j : Nat} {solver after : SudokuSolver} :
      Trail matrix covered start trail solver →
      Covers matrix (trail.map matrix.col ++ covered) (matrix.col j) solver after →
      Trail matrix covered start (j :: trail) after

namespace Trail

theorem represents (walked : Trail matrix covered start trail solver) :
    Represents matrix (trail.map matrix.col ++ covered) solver := by
  cases walked with
  | nil represents => exact represents
  | cons _ covers => exact covers.represents

theorem frame (walked : Trail matrix covered start trail solver) :
    solver = { start with
      horizontal := solver.horizontal, vertical := solver.vertical, size := solver.size } := by
  induction walked with
  | nil => rfl
  | cons _ covers induction =>
      rw [covers.frame, induction]

theorem withStack (walked : Trail matrix covered start trail solver) (stack : List Nat) :
    Trail matrix covered (start.withStack stack) trail (solver.withStack stack) := by
  induction walked with
  | nil represents => exact .nil (represents.withStack stack)
  | cons _ covers induction => exact .cons induction (covers.withStack stack)

end Trail

/-- The columns of the other nodes of an active row can be covered. -/
theorem Represents.forRight_cover (represents : Represents matrix covered start)
    (member : row ∈ matrix.rows.flatten)
    (heads : ∀ j ∈ matrix.others row, matrix.col j ∈ matrix.heads ∧ matrix.col j ∉ covered)
    (distinct : ((matrix.others row).map matrix.col).Nodup) :
    ∃ after, (start.forRight row fun solver j => solver.cover (solver.col j)) = .ok after ∧
      Trail matrix covered start (matrix.others row).reverse after := by
  have walked : ∃ after,
      (start.forRight row fun solver j => solver.cover (solver.col j)) = .ok after ∧
      ∃ done, matrix.others row = done ++ [] ∧ Trail matrix covered start done.reverse after := by
    have ring := represents.rows row member
    unfold forRight
    rw [right, ring.next_head]
    apply walk_ok
      (fun rest solver => ∃ done, matrix.others row = done ++ rest ∧
        Trail matrix covered start done.reverse solver)
      _ ⟨[], rfl, .nil represents⟩ (Matrix.others_length member)
    rintro j rest solver ⟨done, split, walked⟩
    have inOthers : j ∈ matrix.others row := by
      rw [split]
      simp
    have uncovered : matrix.col j ∉ done.reverse.map matrix.col ++ covered := by
      rw [split, List.map_append, List.map_cons, List.nodup_append] at distinct
      rw [List.mem_append, List.map_reverse, List.mem_reverse, not_or]
      refine ⟨?_, (heads j inOthers).2⟩
      intro before
      exact distinct.2.2 _ before _ List.mem_cons_self rfl
    rcases walked.represents.cover (heads j inOthers).1 uncovered with ⟨after, covers⟩
    refine ⟨?_, after, ?_, ⟨done ++ [j], ?_, ?_⟩, ?_⟩
    · rintro rfl
      exact ring.head_not_mem inOthers
    · rw [walked.represents.col]
      exact covers.ran
    · rw [split, List.append_assoc, List.singleton_append]
    · rw [List.reverse_append]
      exact .cons walked covers
    · have ring := covers.represents.rows row member
      rw [split] at ring
      exact ring.next_eq
  rcases walked with ⟨after, ran, done, split, walked⟩
  rw [List.append_nil] at split
  rw [split]
  exact ⟨after, ran, walked⟩

/-- The loop that goes left undoes the one that goes right. -/
theorem Trail.forLeft_uncover
    (walked : Trail matrix covered start (matrix.others row).reverse after)
    (member : row ∈ matrix.rows.flatten) :
    (after.forLeft row fun solver j => solver.uncover (solver.col j)) = .ok start := by
  have first : after.left row = (matrix.others row).reverse.headD row :=
    (walked.represents.rows row member).flip.next_head
  have short : (matrix.others row).reverse.length < kMaxNodes := by
    rw [List.length_reverse]
    exact Matrix.others_length member
  have undone : ∃ final,
      (after.forLeft row fun solver j => solver.uncover (solver.col j)) = .ok final ∧
      (∃ done, (matrix.others row).reverse = done ++ []) ∧
      Trail matrix covered start [] final := by
    unfold forLeft
    rw [first]
    apply walk_ok
      (fun rest solver => (∃ done, (matrix.others row).reverse = done ++ rest) ∧
        Trail matrix covered start rest solver)
      _ ⟨⟨[], rfl⟩, walked⟩ short
    rintro j rest solver ⟨⟨done, reversed⟩, walked⟩
    cases walked with
    | cons before covers =>
        rename_i earlier
        have ring := (before.represents.rows row member).flip
        rw [reversed] at ring
        refine ⟨?_, earlier, ?_, ⟨⟨done ++ [j], ?_⟩, before⟩, ring.next_eq⟩
        · rintro rfl
          exact ring.head_not_mem (by simp)
        · rw [covers.represents.col]
          exact covers.undone
        · rw [reversed, List.append_assoc, List.singleton_append]
  rcases undone with ⟨final, ran, _, walked⟩
  cases walked
  exact ran

/-! ## The column to branch on -/

section Column

variable {heads front rest : List Nat} {fuel : Nat}

theorem findMinColumn_ok (ring : solver.horizontal.Ring solver.root heads)
    (split : heads = front ++ rest) (enough : rest.length < fuel) (member : c ∈ heads)
    (least : ∀ d ∈ front, solver.size c ≤ solver.size d) :
    ∃ d ∈ heads, solver.findMinColumn fuel (rest.headD solver.root) c (solver.size c) = .ok d ∧
      (solver.size d ≤ 1 ∨ ∀ other ∈ heads, solver.size d ≤ solver.size other) := by
  induction rest generalizing front c fuel with
  | nil =>
      rw [List.append_nil] at split
      cases fuel with
      | zero => exact absurd enough (Nat.not_lt_zero _)
      | succ fuel =>
          refine ⟨c, member, ?_, .inr ?_⟩
          · simp [findMinColumn]
          · rw [split]
            exact least
  | cons cc rest induction =>
      cases fuel with
      | zero => exact absurd enough (Nat.not_lt_zero _)
      | succ fuel =>
          have ccMember : cc ∈ heads := by
            rw [split]
            simp
          have next : solver.horizontal.next cc = rest.headD solver.root := by
            rw [split] at ring
            exact ring.next_eq
          have notRoot : cc ≠ solver.root := by
            rintro rfl
            exact ring.head_not_mem ccMember
          have later : heads = (front ++ [cc]) ++ rest := by
            rw [split, List.append_assoc, List.singleton_append]
          rw [List.headD_cons, findMinColumn, if_neg notRoot, next]
          split
          · split
            · rename_i small
              exact ⟨cc, ccMember, rfl, .inl small⟩
            · rename_i smaller _
              apply induction later (Nat.lt_of_succ_lt_succ enough) ccMember
              intro d dMember
              rcases List.mem_append.mp dMember with before | here
              · exact Int.le_of_lt (Int.lt_of_lt_of_le smaller (least d before))
              · cases List.mem_singleton.mp here
                exact Int.le_refl _
          · apply induction later (Nat.lt_of_succ_lt_succ enough) member
            intro d dMember
            rcases List.mem_append.mp dMember with before | here
            · exact least d before
            · rename_i notSmaller
              rw [List.mem_singleton.mp here]
              exact Int.not_lt.mp notSmaller

/-- The column that is chosen has at most one row or no more rows than any other. -/
theorem getMinColumn_ok (ring : solver.horizontal.Ring solver.root heads)
    (nonempty : heads ≠ []) (short : heads.length < kMaxNodes) :
    ∃ d ∈ heads, solver.getMinColumn = .ok d ∧
      (solver.size d ≤ 1 ∨ ∀ other ∈ heads, solver.size d ≤ solver.size other) := by
  cases heads with
  | nil => exact absurd rfl nonempty
  | cons first rest =>
      have start : solver.horizontal.next solver.root = first := ring.next_head
      have split : first :: rest = [first] ++ rest := rfl
      have next : solver.horizontal.next first = rest.headD solver.root :=
        ring.next_of_split List.singleton_append.symm
      simp only [getMinColumn, start, next]
      split
      · apply findMinColumn_ok ring split (Nat.lt_of_succ_lt short) List.mem_cons_self
        intro d member
        cases List.mem_singleton.mp member
        exact Int.le_refl _
      · rename_i small
        exact ⟨first, List.mem_cons_self, rfl, .inl (Int.not_lt.mp small)⟩

end Column

/-! ## Writing the chosen rows to the board -/

/-- Every row of the matrix stands for a value in a cell, which the names of its
nodes tell. -/
structure Labelled (matrix : Matrix) (name : Nat → Nat) (label : List Nat → Nat × Nat) :
    Prop where
  cell : ∀ row ∈ matrix.rows, ∃ node ∈ row, name node < 100
  value : ∀ row ∈ matrix.rows, ∃ node ∈ row, 100 ≤ name node
  cell_eq : ∀ row ∈ matrix.rows, ∀ node ∈ row, name node < 100 → name node = (label row).1
  value_eq : ∀ row ∈ matrix.rows, ∀ node ∈ row, 100 ≤ name node →
    name node % 10 = (label row).2

section Board

variable {label : List Nat → Nat × Nat} {chosen : List (List Nat)} {nodes : List Nat}
  {n fuel : Nat}

/-- What `readRow` has found when it has looked at the nodes `seen`. -/
def Found (seen : List Nat) (relevant : Nat → Prop) (answer : Nat) (found : Option Nat) : Prop :=
  found = some answer ∨ found = none ∧ ∀ node ∈ seen, ¬relevant node

theorem Found.of_mem {seen : List Nat} {relevant : Nat → Prop} {answer node : Nat}
    {found : Option Nat} (known : Found seen relevant answer found) (member : node ∈ seen)
    (isRelevant : relevant node) : found = some answer := by
  rcases known with answered | ⟨_, none⟩
  · exact answered
  · exact absurd isRelevant (none node member)

theorem Found.skip {seen : List Nat} {relevant : Nat → Prop} {answer node : Nat}
    {found : Option Nat} (known : Found seen relevant answer found)
    (irrelevant : ¬relevant node) : Found (seen ++ [node]) relevant answer found := by
  apply known.imp_right
  rintro ⟨isNone, none⟩
  refine ⟨isNone, ?_⟩
  intro other member
  rcases List.mem_append.mp member with before | here
  · exact none other before
  · rw [List.mem_singleton.mp here]
    exact irrelevant

theorem readRow_step {cell val : Option Nat} (searching : cell = none ∨ val = none) :
    solver.readRow (fuel + 1) n cell val =
      if solver.name n < 100 then
        solver.readRow fuel (solver.right n) (some (solver.name n)) val
      else
        solver.readRow fuel (solver.right n) cell (some (solver.name n % 10)) := by
  cases cell with
  | none =>
      rw [readRow]
      simp
  | some cell =>
      cases val with
      | none =>
          rw [readRow]
          simp
      | some val => simp at searching

theorem readRow_ok (labelled : Labelled matrix solver.name label)
    (member : nodes ∈ matrix.rows) {others seen rest : List Nat}
    (ring : solver.horizontal.Ring n others) (split : n :: others = seen ++ rest)
    (same : ∀ node, node ∈ n :: others ↔ node ∈ nodes) (enough : rest.length < fuel)
    {cell val : Option Nat}
    (cellFound : Found seen (solver.name · < 100) (label nodes).1 cell)
    (valFound : Found seen (100 ≤ solver.name ·) (label nodes).2 val) :
    solver.readRow fuel (rest.headD n) cell val = .ok (label nodes) := by
  induction rest generalizing seen cell val fuel with
  | nil =>
      rw [List.append_nil] at split
      rcases labelled.cell nodes member with ⟨cellNode, cellMember, isCell⟩
      rcases labelled.value nodes member with ⟨valNode, valMember, isVal⟩
      rw [← same, split] at cellMember valMember
      rw [cellFound.of_mem cellMember isCell, valFound.of_mem valMember isVal]
      cases fuel with
      | zero => exact absurd enough (Nat.not_lt_zero _)
      | succ fuel => rw [readRow]
  | cons node rest induction =>
      have inRow : node ∈ nodes := by
        rw [← same, split]
        simp
      have next : solver.right node = rest.headD n := ring.next_of_split split
      have later : n :: others = (seen ++ [node]) ++ rest := by
        rw [split, List.append_assoc, List.singleton_append]
      cases fuel with
      | zero => exact absurd enough (Nat.not_lt_zero _)
      | succ fuel =>
          have remaining := Nat.lt_of_succ_lt_succ enough
          by_cases searching : cell = none ∨ val = none
          · rw [readRow_step searching, List.headD_cons, next]
            split
            · rename_i isCell
              apply induction later remaining
              · exact .inl (congrArg some (labelled.cell_eq nodes member node inRow isCell))
              · exact valFound.skip (Nat.not_le.mpr isCell)
            · rename_i notCell
              apply induction later remaining
              · exact cellFound.skip notCell
              · exact .inl (congrArg some
                  (labelled.value_eq nodes member node inRow (Nat.not_lt.mp notCell)))
          · rw [not_or] at searching
            rw [cellFound.resolve_right fun missing => searching.1 missing.1,
              valFound.resolve_right fun missing => searching.2 missing.1, readRow]

/-- The board with a row of the matrix written to it. -/
def place (label : List Nat → Nat × Nat) (board : List Nat) (row : List Nat) : List Nat :=
  board.set (label row).1 (label row).2

theorem writeRow_ok (labelled : Labelled matrix solver.name label)
    (rows : ∀ node ∈ matrix.rows.flatten, solver.horizontal.Ring node (matrix.others node))
    (member : nodes ∈ matrix.rows) (inRow : n ∈ nodes) :
    solver.writeRow n = .ok { solver with inout := place label solver.inout nodes } := by
  have isNode : n ∈ matrix.rows.flatten := List.mem_flatten.mpr ⟨nodes, member, inRow⟩
  have same : ∀ node, node ∈ n :: matrix.others n ↔ node ∈ nodes := by
    intro node
    rw [List.mem_cons, Matrix.mem_others member inRow]
    grind
  have read : solver.readRow kMaxNodes n none none = .ok (label nodes) := by
    exact readRow_ok labelled member (rows n isNode) (List.nil_append _).symm same
      (Matrix.row_length isNode) (.inr ⟨rfl, by simp⟩) (.inr ⟨rfl, by simp⟩)
  rw [writeRow, read]
  rfl

end Board

/-! ## The search itself -/

/-- The columns that a row of the matrix occupies. -/
def Matrix.columnsOf (matrix : Matrix) (row : List Nat) : List Nat :=
  row.map matrix.col

/-- The columns that are left to cover. -/
def Matrix.remaining (matrix : Matrix) (covered : List Nat) : List Nat :=
  matrix.heads.filter (· ∉ covered)

/-- A call of `solve` finds the rows `chosen` on the stack and their columns covered. -/
structure Searching (matrix : Matrix) (label : List Nat → Nat × Nat)
    (chosen : List (List Nat)) (covered : List Nat) (solver : SudokuSolver) : Prop where
  represents : Represents matrix covered solver
  labelled : Labelled matrix solver.name label
  stack : List.Forall₂ (· ∈ ·) solver.stack chosen
  available : ∀ row ∈ chosen, row ∈ matrix.rows
  disjoint : chosen.Pairwise fun left right =>
    List.Disjoint (matrix.columnsOf left) (matrix.columnsOf right)
  covered_iff : ∀ c, c ∈ covered ↔ ∃ row ∈ chosen, c ∈ matrix.columnsOf row

/-- What a call of `solve` returns. -/
structure Searched (matrix : Matrix) (label : List Nat → Nat × Nat)
    (chosen : List (List Nat)) (solver : SudokuSolver) (found : Bool)
    (after : SudokuSolver) : Prop where
  failed : found = false → after = solver ∧
    ¬Completable matrix.columnsOf matrix.rows matrix.heads chosen
  succeeded : found = true → ∃ rest,
    ExactCover matrix.columnsOf matrix.rows matrix.heads (chosen ++ rest) ∧
      after.inout = (chosen ++ rest).foldl (place label) solver.inout

variable {label : List Nat → Nat × Nat} {chosen : List (List Nat)} {nodes : List Nat}
  {stack : List Nat} {depth : Nat}

theorem writeRows_ok (labelled : Labelled matrix solver.name label)
    (rows : ∀ node ∈ matrix.rows.flatten, solver.horizontal.Ring node (matrix.others node))
    (available : ∀ row ∈ chosen, row ∈ matrix.rows)
    (stacked : List.Forall₂ (· ∈ ·) stack chosen) :
    stack.foldlM writeRow solver =
      .ok { solver with inout := chosen.foldl (place label) solver.inout } := by
  induction stacked generalizing solver with
  | nil => rfl
  | cons inRow stacked induction =>
      rw [List.forall_mem_cons] at available
      rw [List.foldlM_cons, writeRow_ok labelled rows available.1 inRow, Checked.ok_bind]
      exact induction labelled rows available.2

namespace Searching

theorem left_root (searching : Searching matrix label chosen covered solver) :
    solver.left solver.root = solver.root ↔ matrix.remaining covered = [] := by
  have ring := searching.represents.headers.flip
  rw [searching.represents.root]
  have last : solver.left matrix.root = (matrix.remaining covered).reverse.headD matrix.root :=
    ring.next_head
  rw [last]
  constructor
  · intro same
    cases reversed : (matrix.remaining covered).reverse with
    | nil => simpa using reversed
    | cons first rest =>
        rw [reversed, List.headD_cons] at same
        subst same
        exact absurd (reversed ▸ List.mem_cons_self) ring.head_not_mem
  · intro empty
    rw [empty]
    rfl

/-- With every column covered the rows on the stack are an exact cover. -/
theorem leaf (searching : Searching matrix label chosen covered solver)
    (empty : matrix.remaining covered = []) :
    ∃ found after, solver.solve (depth + 1) = .ok (found, after) ∧
      Searched matrix label chosen solver found after := by
  have written := writeRows_ok searching.labelled searching.represents.rows
    searching.available searching.stack
  refine ⟨true, { solver with inout := chosen.foldl (place label) solver.inout }, ?_, ?_, ?_⟩
  · rw [solve, if_pos (searching.left_root.mpr empty), written]
    rfl
  · intro impossible
    cases impossible
  · intro _
    refine ⟨[], ⟨?_, ?_, ?_⟩, ?_⟩
    · simpa using searching.available
    · simpa using searching.disjoint
    · intro c isHead
      rw [List.append_nil]
      apply (searching.covered_iff c).mp
      rw [Matrix.remaining, List.filter_eq_nil_iff] at empty
      simpa using empty c isHead
    · rw [List.append_nil]

/-- The columns that are covered when the row of `node` has been chosen. -/
theorem mem_row_columns (member : nodes ∈ matrix.rows) (inRow : row ∈ nodes) :
    c ∈ matrix.columnsOf nodes ↔ c ∈ (matrix.others row).reverse.map matrix.col ∨
      c = matrix.col row := by
  simp only [Matrix.columnsOf, List.mem_map, List.mem_reverse, Matrix.mem_others member inRow]
  constructor
  · rintro ⟨node, inNodes, rfl⟩
    by_cases same : node = row
    · exact .inr (congrArg matrix.col same)
    · exact .inl ⟨node, ⟨inNodes, same⟩, rfl⟩
  · rintro (⟨node, ⟨inNodes, _⟩, rfl⟩ | rfl)
    · exact ⟨node, inNodes, rfl⟩
    · exact ⟨row, inRow, rfl⟩

theorem others_cols_nodup (member : nodes ∈ matrix.rows) (inRow : row ∈ nodes) :
    ((matrix.others row).map matrix.col).Nodup := by
  apply (Matrix.others_nodup member inRow).map_on
  intro left leftMember right rightMember same
  rw [Matrix.mem_others member inRow] at leftMember rightMember
  exact Matrix.col_injective member leftMember.1 rightMember.1 same

theorem remaining_lt (isHead : c ∈ matrix.heads) (uncovered : c ∉ covered)
    (more : List Nat) :
    (matrix.remaining (more ++ c :: covered)).length < (matrix.remaining covered).length := by
  have listed : c ∈ matrix.remaining covered := by
    simpa [Matrix.remaining, isHead] using uncovered
  have fewer : (matrix.remaining (more ++ c :: covered)).Sublist
      ((matrix.remaining covered).filter (· ≠ c)) := by
    rw [Matrix.remaining, Matrix.remaining, List.filter_filter]
    apply List.monotone_filter_right
    intro d
    simp only [List.mem_append, List.mem_cons, not_or, decide_eq_true_eq, Bool.and_eq_true]
    exact fun free => ⟨free.2.1, free.2.2⟩
  apply Nat.lt_of_le_of_lt fewer.length_le
  apply List.length_filter_lt_length_iff_exists.mpr
  exact ⟨c, listed, by simp⟩

/-- Choosing a row of the covered column `c` covers the columns of the row's other
nodes, and leads to a state that the next call can be made in. -/
theorem choose (searching : Searching matrix label chosen covered solver)
    {opened : SudokuSolver} (covers : Covers matrix covered c solver opened)
    (active : nodes ∈ matrix.active covered) (inRow : row ∈ nodes) (col : matrix.col row = c) :
    ∃ after, ((opened.withStack (solver.stack ++ [row])).forRight row fun solver j =>
        solver.cover (solver.col j)) = .ok after ∧
      Trail matrix (c :: covered) (opened.withStack (solver.stack ++ [row]))
        (matrix.others row).reverse after ∧
      Searching matrix label (chosen ++ [nodes])
        ((matrix.others row).reverse.map matrix.col ++ c :: covered) after := by
  rcases Matrix.mem_active.mp active with ⟨member, free⟩
  have isNode : row ∈ matrix.rows.flatten := List.mem_flatten.mpr ⟨nodes, member, inRow⟩
  have inColumn : row ∈ matrix.column covered c :=
    Matrix.mem_column.mpr ⟨⟨nodes, active, inRow⟩, col⟩
  have heads : ∀ j ∈ matrix.others row,
      matrix.col j ∈ matrix.heads ∧ matrix.col j ∉ c :: covered := by
    intro j inOthers
    have removal : j ∈ matrix.removals covered c :=
      List.mem_flatMap.mpr ⟨row, inColumn, inOthers⟩
    rcases Matrix.removal_column removal with ⟨isHead, uncovered, _⟩
    exact ⟨isHead, uncovered⟩
  rcases (covers.represents.withStack (solver.stack ++ [row])).forRight_cover isNode heads
    (others_cols_nodup member inRow) with ⟨after, ran, walked⟩
  refine ⟨after, ran, walked, walked.represents, ?_, ?_, ?_, ?_, ?_⟩
  · rw [walked.frame, SudokuSolver.withStack, covers.frame]
    exact searching.labelled
  · rw [walked.frame]
    exact List.rel_append searching.stack (.cons inRow .nil)
  · intro other otherMember
    rcases List.mem_append.mp otherMember with before | here
    · exact searching.available other before
    · rw [List.mem_singleton.mp here]
      exact member
  · rw [List.pairwise_append]
    refine ⟨searching.disjoint, List.pairwise_singleton _ _, ?_⟩
    intro other before last isLast d inOther inLast
    rw [List.mem_singleton.mp isLast] at inLast
    rcases List.mem_map.mp inLast with ⟨node, inNodes, rfl⟩
    exact free node inNodes ((searching.covered_iff _).mpr ⟨other, before, inOther⟩)
  · intro d
    simp only [List.mem_append, List.mem_cons, searching.covered_iff, List.not_mem_nil, or_false]
    constructor
    · rintro (inOthers | rfl | ⟨other, before, inOther⟩)
      · exact ⟨nodes, .inr rfl, (mem_row_columns member inRow).mpr (.inl inOthers)⟩
      · exact ⟨nodes, .inr rfl, (mem_row_columns member inRow).mpr (.inr col.symm)⟩
      · exact ⟨other, .inl before, inOther⟩
    · rintro ⟨other, before | rfl, inOther⟩
      · exact .inr (.inr ⟨other, before, inOther⟩)
      · rcases (mem_row_columns member inRow).mp inOther with inOthers | same
        · exact .inl inOthers
        · exact .inr (.inl (same.trans col))

/-- One round of the loop over the rows of the covered column `c`: the row is chosen, and
what was done for it can be undone. -/
theorem round (searching : Searching matrix label chosen covered solver)
    {opened : SudokuSolver} (covers : Covers matrix covered c solver opened)
    {front rest : List Nat} (split : matrix.column covered c = front ++ row :: rest) :
    row ≠ c ∧ opened.down row = rest.headD c ∧
    ∃ nodes after, nodes ∈ matrix.active covered ∧ row ∈ nodes ∧
      ({ opened with stack := opened.stack ++ [row] }.forRight row
        fun solver j => solver.cover (solver.col j)) = .ok after ∧
      Searching matrix label (chosen ++ [nodes])
        ((matrix.others row).reverse.map matrix.col ++ c :: covered) after ∧
      after.inout = solver.inout ∧
      ({ after with stack := after.stack.dropLast }.forLeft row
        fun solver j => solver.uncover (solver.col j)) = .ok opened := by
  have member : row ∈ matrix.column covered c := by
    rw [split]
    simp
  rcases Matrix.mem_column.mp member with ⟨⟨nodes, active, inRow⟩, col⟩
  have isNode : row ∈ matrix.rows.flatten := Matrix.column_subset member
  have kept := covers.kept
  refine ⟨?_, ?_, nodes, ?_⟩
  · rintro rfl
    exact kept.head_not_mem member
  · rw [split] at kept
    exact kept.next_eq
  · have sameStack : opened.stack = solver.stack := by rw [covers.frame]
    rcases searching.choose covers active inRow col with ⟨after, ran, walked, next⟩
    have popped : ({ after with stack := after.stack.dropLast } : SudokuSolver) =
        after.withStack solver.stack := by
      rw [walked.frame]
      simp [SudokuSolver.withStack]
    have back : (opened.withStack (solver.stack ++ [row])).withStack solver.stack = opened := by
      rw [← sameStack]
      rfl
    have undone := (walked.withStack solver.stack).forLeft_uncover isNode
    rw [back, ← popped] at undone
    have sameBoard : after.inout = solver.inout := by
      rw [walked.frame, SudokuSolver.withStack, covers.frame]
    rw [sameStack]
    exact ⟨after, active, inRow, ran, next, sameBoard, undone⟩

/-- The rows of the covered column are tried one after the other. -/
theorem tryRows_ok (searching : Searching matrix label chosen covered solver)
    {opened : SudokuSolver} (covers : Covers matrix covered c solver opened)
    (isHead : c ∈ matrix.heads) (uncovered : c ∉ covered)
    (bound : (matrix.remaining covered).length < depth + 1)
    (search : ∀ {chosen : List (List Nat)} {covered : List Nat} {solver : SudokuSolver},
      Searching matrix label chosen covered solver →
      (matrix.remaining covered).length < depth →
      ∃ found after, solver.solve depth = .ok (found, after) ∧
        Searched matrix label chosen solver found after)
    {fuel : Nat} {front rest : List Nat} (split : matrix.column covered c = front ++ rest)
    (enough : rest.length < fuel) :
    ∃ found after, tryRows (solve depth) c fuel (rest.headD c) opened = .ok (found, after) ∧
      (found = false → after = solver ∧ ∀ row ∈ rest, ∀ nodes ∈ matrix.active covered,
        row ∈ nodes → ¬Completable matrix.columnsOf matrix.rows matrix.heads
          (chosen ++ [nodes])) ∧
      (found = true → ∃ rest,
        ExactCover matrix.columnsOf matrix.rows matrix.heads (chosen ++ rest) ∧
          after.inout = (chosen ++ rest).foldl (place label) solver.inout) := by
  induction rest generalizing front fuel with
  | nil =>
      cases fuel with
      | zero => exact absurd enough (Nat.not_lt_zero _)
      | succ fuel =>
          refine ⟨false, solver, ?_, ?_, ?_⟩
          · rw [tryRows, List.headD_nil, if_pos rfl, covers.undone]
            rfl
          · intro _
            exact ⟨rfl, by simp⟩
          · intro impossible
            cases impossible
  | cons row rest induction =>
      cases fuel with
      | zero => exact absurd enough (Nat.not_lt_zero _)
      | succ fuel =>
          rcases searching.round covers split with
            ⟨notHead, following, nodes, after, active, inRow, ran, next, sameBoard, undone⟩
          have fewer := remaining_lt isHead uncovered ((matrix.others row).reverse.map matrix.col)
          rcases search next (by omega) with ⟨found, searched, solved, outcome⟩
          simp only [tryRows, List.headD_cons, if_neg notHead, ran, Checked.ok_bind, solved]
          cases found with
          | true =>
              refine ⟨true, searched, rfl, ?_, ?_⟩
              · intro impossible
                cases impossible
              · intro _
                rcases outcome.succeeded rfl with ⟨later, cover, written⟩
                rw [List.append_assoc, List.singleton_append] at cover written
                exact ⟨nodes :: later, cover, sameBoard ▸ written⟩
          | false =>
              rcases outcome.failed rfl with ⟨rfl, incomplete⟩
              have later : matrix.column covered c = (front ++ [row]) ++ rest := by
                rw [split, List.append_assoc, List.singleton_append]
              rcases induction later (Nat.lt_of_succ_lt_succ enough) with
                ⟨found, final, tried, failed, succeeded⟩
              refine ⟨found, final, ?_, ?_, succeeded⟩
              · simp only [undone, Checked.ok_bind, following, tried, Bool.false_eq_true,
                  if_false]
              · intro notFound
                refine ⟨(failed notFound).1, ?_⟩
                intro other otherMember otherNodes otherActive inOther
                rcases List.mem_cons.mp otherMember with rfl | inRest
                · rw [Matrix.row_unique (Matrix.mem_active.mp otherActive).1
                    (Matrix.mem_active.mp active).1 inOther inRow]
                  exact incomplete
                · exact (failed notFound).2 other inRest otherNodes otherActive inOther

end Searching

theorem remaining_length : (matrix.remaining covered).length < kMaxNodes := by
  apply matrix.length_lt
  · have listed : (matrix.remaining covered).Sublist (matrix.heads ++ matrix.rows.flatten) :=
      List.filter_sublist.trans (List.sublist_append_left _ _)
    exact List.Nodup.sublist (listed.cons_cons matrix.root) matrix.distinct
  · intro node member
    rcases List.mem_cons.mp member with rfl | listed
    · exact List.mem_cons_self
    · exact List.mem_cons_of_mem _ (List.mem_append_left _ (List.mem_of_mem_filter listed))

/-- While a column is left, `getMinColumn` returns one. -/
theorem Searching.picked (searching : Searching matrix label chosen covered solver)
    (notEmpty : matrix.remaining covered ≠ []) :
    ∃ c, (c ∈ matrix.heads ∧ c ∉ covered) ∧ solver.getMinColumn = .ok c ∧
      (solver.size c ≤ 1 ∨
        ∀ other ∈ matrix.heads, other ∉ covered → solver.size c ≤ solver.size other) := by
  have ring := searching.represents.headers
  rw [← searching.represents.root] at ring
  rcases getMinColumn_ok ring notEmpty remaining_length with ⟨c, listed, picked, least⟩
  rw [List.mem_filter, decide_eq_true_eq] at listed
  refine ⟨c, listed, picked, least.imp_right ?_⟩
  intro least other isHead uncovered
  exact least other (List.mem_filter.mpr ⟨isHead, decide_eq_true uncovered⟩)

/-- `solve` comes to an end, and what it returns is right. -/
theorem solve_ok (searching : Searching matrix label chosen covered solver)
    (bound : (matrix.remaining covered).length < depth) :
    ∃ found after, solver.solve depth = .ok (found, after) ∧
      Searched matrix label chosen solver found after := by
  induction depth generalizing chosen covered solver with
  | zero => exact absurd bound (Nat.not_lt_zero _)
  | succ depth induction =>
      by_cases empty : matrix.remaining covered = []
      · exact searching.leaf empty
      · rcases searching.picked empty with ⟨c, ⟨isHead, uncovered⟩, picked, _⟩
        rcases searching.represents.cover isHead uncovered with ⟨opened, covers⟩
        rcases searching.tryRows_ok covers isHead uncovered bound induction
          (List.nil_append _).symm (Matrix.column_length isHead) with
          ⟨found, after, tried, failed, succeeded⟩
        refine ⟨found, after, ?_, ?_, succeeded⟩
        · rw [solve, if_neg (mt searching.left_root.mp empty), picked, Checked.ok_bind,
            covers.ran, Checked.ok_bind, down, covers.kept.next_head]
          exact tried
        · intro notFound
          refine ⟨(failed notFound).1, ?_⟩
          have free : ∀ row ∈ chosen, c ∉ matrix.columnsOf row := by
            intro row member inRow
            exact uncovered ((searching.covered_iff c).mpr ⟨row, member, inRow⟩)
          rw [completable_iff isHead free]
          rintro ⟨nodes, member, occupies, disjoint, complete⟩
          rcases List.mem_map.mp occupies with ⟨row, inRow, col⟩
          have active : nodes ∈ matrix.active covered := by
            refine Matrix.mem_active.mpr ⟨member, ?_⟩
            intro node inNodes isCovered
            rcases (searching.covered_iff _).mp isCovered with ⟨other, inChosen, inOther⟩
            exact disjoint other inChosen inOther (List.mem_map_of_mem inNodes)
          have inColumn : row ∈ matrix.column covered c :=
            Matrix.mem_column.mpr ⟨⟨nodes, active, inRow⟩, col⟩
          exact (failed notFound).2 row inColumn nodes active inRow complete

end Ccnet.Sudoku
