import Ccnet.Sudoku.Grid
import Ccnet.Sudoku.Search

/-! # The constructor

The constructor fails none of its asserts, and the links that it builds represent
the exact cover instance of the board. -/

namespace Ccnet.Sudoku

open SudokuSolver

/-- What has been built so far: the headers `heads`, named `names`, and `rows`. -/
structure Built (board names heads : List Nat) (rows : List (List Nat))
    (solver : SudokuSolver) : Prop where
  board : solver.inout = board
  stack : solver.stack = []
  root : solver.root = 0
  nodes : 0 :: (heads ++ rows.flatten) = List.range solver.curNode
  headers : solver.horizontal.Ring 0 heads
  rings : ∀ first rest, first :: rest ∈ rows → solver.horizontal.Ring first rest
  columns : ∀ c ∈ heads, solver.vertical.Ring c (rows.flatten.filter (solver.col · = c))
  sizes : ∀ c ∈ heads, solver.size c = (rows.flatten.filter (solver.col · = c)).length
  named : heads.map solver.name = names
  found : ∀ c ∈ heads, solver.columns (solver.name c) = some c
  missing : ∀ n, n ∉ names → solver.columns n = none
  owned : ∀ node ∈ rows.flatten, solver.col node ∈ heads ∧
    solver.name (solver.col node) = solver.name node

namespace Built

variable {board names heads : List Nat} {rows : List (List Nat)} {solver : SudokuSolver}
  {node c n : Nat}

theorem fresh (built : Built board names heads rows solver) :
    solver.curNode ∉ 0 :: (heads ++ rows.flatten) := by
  rw [built.nodes, List.mem_range]
  exact Nat.lt_irrefl _

theorem distinct (built : Built board names heads rows solver) :
    (0 :: (heads ++ rows.flatten)).Nodup := by
  rw [built.nodes]
  exact List.nodup_range

theorem head_ne (built : Built board names heads rows solver) (member : c ∈ heads) :
    c ≠ solver.curNode := by
  rintro rfl
  exact built.fresh (List.mem_cons_of_mem _ (List.mem_append_left _ member))

theorem node_ne (built : Built board names heads rows solver)
    (member : node ∈ rows.flatten) : node ≠ solver.curNode := by
  rintro rfl
  exact built.fresh (List.mem_cons_of_mem _ (List.mem_append_right _ member))

theorem head_ne_node (built : Built board names heads rows solver) (isHead : c ∈ heads)
    (isNode : node ∈ rows.flatten) : c ≠ node :=
  (List.nodup_append.mp (List.nodup_cons.mp built.distinct).2).2.2 c isHead node isNode

theorem node_not_header (built : Built board names heads rows solver)
    (isNode : node ∈ rows.flatten) : node ∉ 0 :: heads := by
  have distinct := built.distinct
  rw [← List.cons_append, List.nodup_append] at distinct
  intro isHeader
  exact distinct.2.2 node isHeader node isNode rfl

theorem map_name (built : Built board names heads rows solver) {nodes : List Nat}
    (known : ∀ node ∈ nodes, node ∈ heads ++ rows.flatten) :
    nodes.map (Function.update solver.name solver.curNode n) = nodes.map solver.name := by
  apply List.map_congr_left
  intro node member
  apply Function.update_of_ne
  rintro rfl
  exact built.fresh (List.mem_cons_of_mem _ (known _ member))

/-- A node that is set up alone leaves the rings as they are. -/
theorem header_ring (built : Built board names heads rows solver) :
    (solver.horizontal.alone solver.curNode).Ring 0 heads := by
  apply built.headers.alone_absent
  intro member
  apply built.fresh
  rcases List.mem_cons.mp member with same | isHead
  · rw [same]
    exact List.mem_cons_self
  · exact List.mem_cons_of_mem _ (List.mem_append_left _ isHead)

theorem appendColumn_ok (built : Built board names heads [] solver)
    (inside : n < kMaxColumns) (unused : n ∉ names) (room : solver.curNode < kMaxNodes) :
    ∃ after, solver.appendColumn n = .ok after ∧
      Built board (names ++ [n]) (heads ++ [solver.curNode]) [] after := by
  have old : heads.map (Function.update solver.name solver.curNode n) = names :=
    (built.map_name fun _ => List.mem_append_left _).trans built.named
  refine ⟨{ (solver.newNode n solver.curNode).putLeft solver.root solver.curNode with
    columns := Function.update solver.columns n (some solver.curNode) }, ?_, ?_⟩
  · rw [appendColumn, checkIndex_of inside, Checked.ok_bind,
      Checked.check_bind_of (built.missing n unused), newColumn, Checked.check_bind_of room]
    rfl
  · refine ⟨built.board, built.stack, built.root, ?_, ?_, ?_, ?_, ?_, ?_, ?_, ?_, ?_⟩
    · have nodes := built.nodes
      simp only [List.flatten_nil, List.append_nil] at nodes ⊢
      simp only [putLeft, newNode]
      rw [List.range_succ, ← nodes, List.cons_append]
    · simp only [putLeft, newNode, built.root]
      apply built.header_ring.insertBefore
      have absent := built.fresh
      simpa using absent
    · simp
    · simp only [List.flatten_nil, List.filter_nil, List.forall_mem_append,
        List.forall_mem_singleton]
      constructor
      · intro c member
        apply (built.columns c member).alone_absent
        simpa using (built.head_ne member).symm
      · exact Links.Ring.alone solver.vertical solver.curNode
    · simp only [List.flatten_nil, List.filter_nil, List.forall_mem_append,
        List.forall_mem_singleton]
      constructor
      · intro c member
        exact (Function.update_of_ne (built.head_ne member) _ _).trans (built.sizes c member)
      · exact Function.update_self _ _ _
    · simp only [putLeft, newNode]
      rw [List.map_append, old, List.map_singleton, Function.update_self]
    · simp only [putLeft, newNode, List.forall_mem_append, List.forall_mem_singleton]
      constructor
      · intro c member
        have different : solver.name c ≠ n := by
          rintro rfl
          exact unused (built.named ▸ List.mem_map_of_mem member)
        rw [Function.update_of_ne (built.head_ne member), Function.update_of_ne different]
        exact built.found c member
      · rw [Function.update_self, Function.update_self]
    · intro other absent
      rw [List.mem_append, List.mem_singleton, not_or] at absent
      exact (Function.update_of_ne absent.2 _ _).trans (built.missing other absent.1)
    · simp

theorem filter_update {col : Nat → Nat} {nodes : List Nat} {d : Nat} (fresh : node ∉ nodes) :
    (nodes ++ [node]).filter (Function.update col node c · = d) =
      nodes.filter (col · = d) ++ if c = d then [node] else [] := by
  have old : nodes.filter (Function.update col node c · = d) = nodes.filter (col · = d) := by
    apply List.filter_congr
    intro other member
    have different : other ≠ node := by
      rintro rfl
      exact fresh member
    rw [Function.update_of_ne different]
  rw [List.filter_append, old, List.filter_singleton, Function.update_self]
  simp

/-- The vertical links after a node has been set up and put at the end of `c`. -/
theorem column_ring (built : Built board names heads rows solver) (isHead : c ∈ heads)
    {d : Nat} (member : d ∈ heads) :
    ((solver.vertical.alone solver.curNode).insertBefore c solver.curNode).Ring d
      (rows.flatten.filter (solver.col · = d) ++ if c = d then [solver.curNode] else []) := by
  have alone : ∀ head ∈ heads, solver.curNode ∉ head :: rows.flatten.filter (solver.col · = head) ∧
      (solver.vertical.alone solver.curNode).Ring head
        (rows.flatten.filter (solver.col · = head)) := by
    intro head isHead
    have absent : solver.curNode ∉ head :: rows.flatten.filter (solver.col · = head) := by
      rw [List.mem_cons, not_or]
      refine ⟨(built.head_ne isHead).symm, ?_⟩
      intro inColumn
      exact built.node_ne (List.mem_of_mem_filter inColumn) rfl
    exact ⟨absent, (built.columns head isHead).alone_absent absent⟩
  split
  · rename_i same
    subst same
    exact (alone c isHead).2.insertBefore (alone c isHead).1
  · rename_i different
    rw [List.append_nil]
    apply (alone d member).2.insertBefore_absent (alone c isHead).2.next_prev_head
      (built.head_ne isHead) (alone d member).1
    rw [List.mem_cons, not_or]
    refine ⟨different, ?_⟩
    intro inColumn
    exact built.head_ne_node isHead (List.mem_of_mem_filter inColumn) rfl

theorem newRow_ok (built : Built board names heads rows solver) (known : n ∈ names)
    (inside : n < kMaxColumns) (room : solver.curNode < kMaxNodes) :
    ∃ after, solver.newRow n = .ok (solver.curNode, after) ∧
      Built board names heads (rows ++ [[solver.curNode]]) after ∧
      after.curNode = solver.curNode + 1 ∧
      after.name = Function.update solver.name solver.curNode n := by
  rw [← built.named] at known
  rcases List.mem_map.mp known with ⟨c, isHead, rfl⟩
  have flatten : (rows ++ [[solver.curNode]]).flatten = rows.flatten ++ [solver.curNode] := by
    simp
  have fresh : solver.curNode ∉ rows.flatten := fun member => built.node_ne member rfl
  have col : ((solver.newNode (solver.name c) c).putUp c solver.curNode).col =
      Function.update solver.col solver.curNode c := Function.update_idem _ _ _
  refine ⟨(solver.newNode (solver.name c) c).putUp c solver.curNode, ?_, ?_, rfl, rfl⟩
  · rw [newRow, checkIndex_of inside, Checked.ok_bind, built.found c isHead]
    simp only
    rw [Checked.check_bind_of room]
    rfl
  · refine ⟨built.board, built.stack, built.root, ?_, built.header_ring, ?_, ?_, ?_, ?_, ?_,
      built.missing, ?_⟩
    · rw [flatten, ← List.append_assoc, ← List.cons_append, built.nodes]
      exact List.range_succ.symm
    · intro first rest member
      rcases List.mem_append.mp member with old | new
      · apply (built.rings first rest old).alone_absent
        intro inRow
        exact built.node_ne (List.mem_flatten.mpr ⟨_, old, inRow⟩) rfl
      · cases List.mem_singleton.mp new
        exact Links.Ring.alone _ _
    · intro d member
      rw [flatten, col, filter_update fresh]
      exact built.column_ring isHead member
    · intro d member
      rw [flatten, col, filter_update fresh]
      simp only [putUp, newNode]
      by_cases same : c = d
      · subst same
        rw [if_pos rfl, Function.update_self, Function.update_of_ne (built.head_ne isHead),
          built.sizes c isHead]
        simp
      · rw [if_neg same, Function.update_of_ne (Ne.symm same),
          Function.update_of_ne (built.head_ne member), built.sizes d member, List.append_nil]
    · exact (built.map_name fun _ => List.mem_append_left _).trans built.named
    · intro d member
      simp only [putUp, newNode]
      rw [Function.update_of_ne (built.head_ne member)]
      exact built.found d member
    · intro node member
      rw [col]
      simp only [putUp, newNode]
      rw [flatten] at member
      rcases List.mem_append.mp member with old | new
      · have owned := built.owned node old
        rw [Function.update_of_ne (built.node_ne old), Function.update_of_ne
          (built.head_ne owned.1), Function.update_of_ne (built.node_ne old)]
        exact owned
      · rw [List.mem_singleton.mp new, Function.update_self, Function.update_of_ne
          (built.head_ne isHead), Function.update_self]
        exact ⟨isHead, rfl⟩

/-- Two rows become one. -/
theorem putLeft_ok {first : Nat} {rest : List Nat} {more : List (List Nat)}
    (built : Built board names heads (rows ++ (first :: rest) :: [node] :: more) solver) :
    Built board names heads (rows ++ (first :: (rest ++ [node])) :: more)
      (solver.putLeft first node) := by
  have flatten : (rows ++ (first :: (rest ++ [node])) :: more).flatten =
      (rows ++ (first :: rest) :: [node] :: more).flatten := by
    simp
  have inFirst : first :: rest ∈ rows ++ (first :: rest) :: [node] :: more := by simp
  have inNode : [node] ∈ rows ++ (first :: rest) :: [node] :: more := by simp
  have firstNode := built.node_not_header
    (List.mem_flatten.mpr ⟨_, inFirst, List.mem_cons_self⟩)
  have lastNode := built.node_not_header
    (List.mem_flatten.mpr ⟨_, inNode, List.mem_cons_self⟩)
  have ring := built.rings first rest inFirst
  have apart := (List.nodup_flatten.mp
    (List.nodup_append.mp (List.nodup_cons.mp built.distinct).2).2.1).2
  rw [List.pairwise_append, List.pairwise_cons, List.pairwise_cons] at apart
  rcases apart with ⟨_, ⟨fromFirst, fromNode, _⟩, toRows⟩
  have absent : node ∉ first :: rest := fun member =>
    fromFirst [node] List.mem_cons_self member List.mem_cons_self
  have different : first ≠ node := fun same => absent (same ▸ List.mem_cons_self)
  have others : ∀ row ∈ rows ++ more, first ∉ row ∧ node ∉ row := by
    intro row member
    rcases List.mem_append.mp member with before | after
    · refine ⟨fun inRow => ?_, fun inRow => ?_⟩
      · exact toRows row before (first :: rest) List.mem_cons_self inRow List.mem_cons_self
      · exact toRows row before [node] (by simp) inRow List.mem_cons_self
    · refine ⟨fun inRow => ?_, fun inRow => ?_⟩
      · exact fromFirst row (List.mem_cons_of_mem _ after) List.mem_cons_self inRow
      · exact fromNode row after List.mem_cons_self inRow
  refine ⟨built.board, built.stack, built.root, ?_, ?_, ?_, ?_, ?_, built.named, built.found,
    built.missing, ?_⟩
  · rw [flatten]
    exact built.nodes
  · exact built.headers.insertBefore_absent ring.next_prev_head different lastNode firstNode
  · intro head tail member
    by_cases merged : head :: tail = first :: (rest ++ [node])
    · cases merged
      exact ring.insertBefore absent
    · have other : head :: tail ∈ rows ++ more := by
        simpa [merged] using member
      have old : head :: tail ∈ rows ++ (first :: rest) :: [node] :: more := by
        rcases List.mem_append.mp other with before | after
        · exact List.mem_append_left _ before
        · exact List.mem_append_right _ (List.mem_cons_of_mem _ (List.mem_cons_of_mem _ after))
      exact (built.rings head tail old).insertBefore_absent ring.next_prev_head different
        (others _ other).2 (others _ other).1
  · rw [flatten]
    exact built.columns
  · rw [flatten]
    exact built.sizes
  · rw [flatten]
    exact built.owned

/-- A row of four nodes is added. -/
theorem appendRow_ok (built : Built board names heads rows solver) {i v : Nat}
    (known : ∀ name ∈ constraints (i, v), name ∈ names)
    (inside : ∀ name ∈ names, name < kMaxColumns) (room : solver.curNode + 4 ≤ kMaxNodes) :
    ∃ after nodes, solver.appendRow i v = .ok after ∧
      Built board names heads (rows ++ [nodes]) after ∧
      (rows ++ [nodes]).map (·.map after.name) =
        rows.map (·.map solver.name) ++ [constraints (i, v)] := by
  have unlike : ∀ node ∈ rows.flatten, node < solver.curNode := by
    intro node member
    rw [← List.mem_range, ← built.nodes]
    exact List.mem_cons_of_mem _ (List.mem_append_right _ member)
  simp only [constraints, Region.all, List.map_cons, List.map_nil, List.forall_mem_cons] at known
  rcases known with ⟨cell, row, col, box, _⟩
  rcases built.newRow_ok cell (inside _ cell) (by omega) with ⟨first, ran, built, cur, name⟩
  rcases built.newRow_ok row (inside _ row) (by omega) with ⟨second, ranRow, built, curRow, nameRow⟩
  rcases built.newRow_ok col (inside _ col) (by omega) with ⟨third, ranCol, built, curCol, nameCol⟩
  rcases built.newRow_ok box (inside _ box) (by omega) with ⟨fourth, ranBox, built, _, nameBox⟩
  have separate : Built board names heads (rows ++ [solver.curNode] :: [first.curNode] ::
      [[second.curNode], [third.curNode]]) fourth := by
    simpa using built
  have names : fourth.name = Function.update (Function.update (Function.update
      (Function.update solver.name solver.curNode i) (solver.curNode + 1)
        (getRowCol (rowOf i) v)) (solver.curNode + 2) (getColCol (colOf i) v))
          (solver.curNode + 3) (getBoxCol (boxOf i) v) := by
    rw [nameBox, nameCol, nameRow, name, curCol, curRow, cur]
    rfl
  refine ⟨_, _, ?_, separate.putLeft_ok.putLeft_ok.putLeft_ok, ?_⟩
  · simp only [Region.column, Region.of] at ranRow ranCol ranBox
    simp only [appendRow, ran, ranRow, ranCol, ranBox, Checked.ok_bind]
    rfl
  · rw [List.map_append]
    congr 1
    · apply List.map_congr_left
      intro row member
      apply List.map_congr_left
      intro node inRow
      have older := unlike node (List.mem_flatten.mpr ⟨row, member, inRow⟩)
      simp only [putLeft, names]
      rw [Function.update_of_ne (by omega), Function.update_of_ne (by omega),
        Function.update_of_ne (by omega), Function.update_of_ne (by omega)]
    · simp [putLeft, names, cur, curRow, curCol, Function.update, constraints, Region.all,
        Region.column, Region.of]

end Built

/-! ## The loops -/

section Loops

variable {board names heads : List Nat} {solver : SudokuSolver} {n : Nat}

theorem flatMap_if {items : List α} {keep : α → Bool} {make : α → β} :
    items.flatMap (fun item => if keep item then [make item] else []) =
      (items.filter keep).map make := by
  induction items with
  | nil => rfl
  | cons item items induction =>
      rw [List.flatMap_cons, induction, List.filter_cons]
      split <;> simp

theorem Built.length_eq {rows : List (List Nat)} (built : Built board names heads rows solver) :
    solver.curNode = 1 + names.length + rows.flatten.length := by
  have count := congrArg List.length built.nodes
  rw [List.length_range, List.length_cons, List.length_append] at count
  rw [← built.named, List.length_map]
  omega

/-- The columns named so far are headers, and there are no rows yet. -/
def HasColumns (board names : List Nat) (solver : SudokuSolver) : Prop :=
  ∃ heads, Built board names heads [] solver

theorem HasColumns.appendColumnIf (built : HasColumns board names solver) {due : Bool}
    (fits : names ++ (if due then [n] else []) <+: columnNames board) :
    ∃ after, solver.appendColumnIf due n = .ok after ∧
      HasColumns board (names ++ if due then [n] else []) after := by
  cases due with
  | false =>
      refine ⟨solver, rfl, ?_⟩
      simpa using built
  | true =>
      rcases built with ⟨heads, built⟩
      have nodup : (names ++ [n]).Nodup := List.Nodup.sublist fits.sublist columnNames_nodup
      have unused : n ∉ names := by
        intro member
        exact (List.nodup_append.mp nodup).2.2 n member n List.mem_cons_self rfl
      have room : solver.curNode < kMaxNodes := by
        have few := fits.length_le.trans columnNames_length
        have count := built.length_eq
        simp only [if_true, List.length_append, List.length_singleton, List.flatten_nil,
          List.length_nil] at few count
        unfold kMaxNodes
        omega
      have inside : n < kMaxColumns := columnNames_lt (fits.subset (by simp))
      rcases built.appendColumn_ok inside unused room with ⟨after, ran, next⟩
      exact ⟨after, ran, _, next⟩

theorem HasColumns.inout (built : HasColumns board names solver) : solver.inout = board := by
  rcases built with ⟨heads, built⟩
  exact built.board

theorem appendCellColumns_ok (built : HasColumns board [] solver) :
    ∃ after, solver.appendCellColumns = .ok after ∧
      HasColumns board (cellColumns board) after := by
  have cells : cellColumns board = (List.range kCells).flatMap fun cell =>
      if decide (board.getD cell 0 = 0) then [cell] else [] := by
    rw [flatMap_if, List.map_id', cellColumns]
  rw [cells, ← List.nil_append (List.flatMap _ _)]
  unfold appendCellColumns
  apply Checked.foldlM_emit (columnNames board) (HasColumns board) _ built
  · rw [List.nil_append, ← cells]
    exact List.prefix_append _ _
  · intro cell _ out state emitted fits
    rw [emitted.inout]
    exact emitted.appendColumnIf fits

theorem appendDigitColumns_ok (built : HasColumns board (cellColumns board) solver) :
    ∃ after, solver.appendDigitColumns (markGivens board) = .ok after ∧
      HasColumns board (columnNames board) after := by
  unfold appendDigitColumns
  apply Checked.foldlM_emit (columnNames board) (HasColumns board) _ built List.prefix_rfl
  intro index _ out state emitted fits
  apply Checked.foldlM_emit (columnNames board) (HasColumns board) _ emitted fits
  intro val _ out state emitted fits
  have columns : digitColumns (markGivens board) index val =
      (if !(markGivens board).rows index val then [getRowCol index val] else []) ++
      ((if !(markGivens board).cols index val then [getColCol index val] else []) ++
      (if !(markGivens board).boxes index val then [getBoxCol index val] else [])) := by
    simp only [digitColumns, Region.all, List.flatMap_cons, List.flatMap_nil, List.append_nil]
    rfl
  rw [columns, ← List.append_assoc, ← List.append_assoc] at fits
  rcases emitted.appendColumnIf ((List.prefix_append _ _).trans
    ((List.prefix_append _ _).trans fits)) with ⟨rowState, rowRan, rowEmitted⟩
  rcases rowEmitted.appendColumnIf ((List.prefix_append _ _).trans fits) with
    ⟨colState, colRan, colEmitted⟩
  rcases colEmitted.appendColumnIf fits with ⟨boxState, boxRan, boxEmitted⟩
  refine ⟨boxState, ?_, ?_⟩
  · rw [rowRan, Checked.ok_bind, colRan, Checked.ok_bind, boxRan]
  · rw [columns, ← List.append_assoc, ← List.append_assoc]
    exact boxEmitted

/-- Every column is there, and the rows for the given candidates. -/
def HasRows (board : List Nat) (listed : List (Nat × Nat)) (solver : SudokuSolver) : Prop :=
  ∃ heads rows, Built board (columnNames board) heads rows solver ∧
    rows.map (·.map solver.name) = listed.map constraints

theorem Built.count {rows : List (List Nat)} {listed : List (Nat × Nat)}
    (built : Built board (columnNames board) heads rows solver)
    (labelled : rows.map (·.map solver.name) = listed.map constraints) :
    solver.curNode = 1 + (columnNames board).length + listed.length * 4 := by
  have lengths := congrArg (fun lists => (List.map List.length lists).sum) labelled
  simp only [List.map_map, Function.comp_def, List.length_map] at lengths
  rw [built.length_eq, List.length_flatten, lengths]
  simp [constraints, Region.all]

theorem HasRows.appendRow {listed : List (Nat × Nat)} {i v : Nat}
    (built : HasRows board listed solver) (fits : listed ++ [(i, v)] <+: candidates board) :
    ∃ after, solver.appendRow i v = .ok after ∧ HasRows board (listed ++ [(i, v)]) after := by
  rcases built with ⟨heads, rows, built, labelled⟩
  have known := constraints_subset (fits.subset (by simp : (i, v) ∈ listed ++ [(i, v)]))
  have room : solver.curNode + 4 ≤ kMaxNodes := by
    have few := fits.length_le.trans candidates_length
    have columns := @columnNames_length board
    have count := built.count labelled
    rw [List.length_append, List.length_singleton] at few
    unfold kMaxNodes
    omega
  rcases built.appendRow_ok known (fun _ => columnNames_lt) room with
    ⟨after, nodes, ran, next, names⟩
  refine ⟨after, ran, heads, rows ++ [nodes], next, ?_⟩
  rw [names, labelled, List.map_append, List.map_singleton]

/-- One round of the loop over the cells. -/
theorem HasRows.appendCell {listed : List (Nat × Nat)} {cell : Nat}
    (built : HasRows board listed solver)
    (fits : listed ++ cellCandidates board cell <+: candidates board) :
    ∃ after, (if solver.inout.getD cell 0 = 0 then
        (List.range' 1 9).foldlM (fun solver v =>
          if (markGivens board).absent cell v then solver.appendRow cell v else .ok solver) solver
      else
        .ok solver) = .ok after ∧ HasRows board (listed ++ cellCandidates board cell) after := by
  have same : solver.inout = board := by
    rcases built with ⟨_, _, built, _⟩
    exact built.board
  rw [same]
  unfold cellCandidates at fits ⊢
  split
  · rename_i empty
    rw [if_pos empty, ← flatMap_if] at fits
    rw [← flatMap_if]
    apply Checked.foldlM_emit (candidates board) (HasRows board) _ built fits
    intro val _ out state emitted fits
    split
    · rename_i absent
      rw [if_pos absent] at fits
      exact emitted.appendRow fits
    · exact ⟨state, rfl, by simpa using emitted⟩
  · exact ⟨solver, rfl, by simpa using built⟩

theorem appendRows_ok (built : HasColumns board (columnNames board) solver) :
    ∃ after, solver.appendRows (markGivens board) = .ok after ∧
      HasRows board (candidates board) after := by
  have start : HasRows board [] solver := by
    rcases built with ⟨heads, built⟩
    exact ⟨heads, [], built, rfl⟩
  -- stated apart, since the kernel would run the loop to compare the two lists
  have cells : [] ++ (List.range kCells).flatMap (cellCandidates board) = candidates board :=
    List.nil_append _
  rw [← cells]
  unfold appendRows
  apply Checked.foldlM_emit (candidates board) (HasRows board) _ start
  · rw [cells]
  · intro cell _ out state emitted fits
    exact emitted.appendCell fits

theorem create_ok (board : List Nat) :
    ∃ solver, create board = .ok solver ∧ HasRows board (candidates board) solver := by
  have rooted : Built board [] [] [] { (blank board).newNode 0 0 with root := 0 } := by
    refine ⟨rfl, rfl, rfl, rfl, Links.Ring.alone _ _, ?_, ?_, ?_, rfl, ?_, ?_, ?_⟩
    all_goals simp [newNode, blank]
  rcases appendCellColumns_ok ⟨_, rooted⟩ with ⟨cells, cellsRan, hasCells⟩
  rcases appendDigitColumns_ok hasCells with ⟨columns, columnsRan, hasColumns⟩
  rcases appendRows_ok hasColumns with ⟨solver, rowsRan, hasRows⟩
  refine ⟨solver, ?_, hasRows⟩
  have room : (blank board).curNode < kMaxNodes := by
    simp [blank, kMaxNodes]
  have first : (blank board).newColumn 0 = .ok (0, (blank board).newNode 0 0) := by
    rw [newColumn, Checked.check_bind_of room]
    rfl
  rw [create, first]
  simp only [Checked.ok_bind]
  rw [cellsRan, Checked.ok_bind, columnsRan, Checked.ok_bind, rowsRan]

end Loops

/-! ## The matrix -/

/-- The cell and the value that the names of a row's nodes tell. -/
def decode (names : List Nat) : Nat × Nat := (names.headD 0, names.getLastD 0 % 10)

theorem decode_constraints {cell val : Nat} (digit : val ≤ 9) :
    decode (constraints (cell, val)) = (cell, val) := by
  have last : (constraints (cell, val)).getLastD 0 = Region.box.column (boxOf cell) val := rfl
  rw [decode, last, Region.column_mod digit]
  rfl

theorem decode_candidates {board : List Nat} :
    ((candidates board).map constraints).map decode = candidates board := by
  have same : ((candidates board).map constraints).map decode = (candidates board).map id := by
    rw [List.map_map]
    apply List.map_congr_left
    rintro ⟨cell, val⟩ candidate
    exact decode_constraints (mem_candidates.mp candidate).2.2.2.1
  rw [same, List.map_id]

/-- The links represent the exact cover instance of the board. -/
structure Encodes (board : List Nat) (matrix : Matrix) (label : List Nat → Nat × Nat)
    (solver : SudokuSolver) : Prop where
  searching : Searching matrix label [] [] solver
  inout : solver.inout = board
  items : matrix.rows.map label = candidates board
  columns : matrix.heads.map solver.name = columnNames board
  occupied : ∀ row ∈ matrix.rows,
    constraints (label row) = (matrix.columnsOf row).map solver.name

section Encoding

variable {board heads : List Nat} {rows : List (List Nat)} {solver : SudokuSolver}
  {row : List Nat}

theorem Built.row_name (built : Built board (columnNames board) heads rows solver)
    (member : row ∈ rows) : (row.map solver.col).map solver.name = row.map solver.name := by
  rw [List.map_map]
  apply List.map_congr_left
  intro node inRow
  exact (built.owned node (List.mem_flatten.mpr ⟨row, member, inRow⟩)).2

theorem row_candidate
    (labelled : rows.map (·.map solver.name) = (candidates board).map constraints)
    (member : row ∈ rows) :
    ∃ cell val, (cell, val) ∈ candidates board ∧ row.map solver.name = constraints (cell, val) := by
  have listed : row.map solver.name ∈ (candidates board).map constraints := by
    rw [← labelled]
    exact List.mem_map_of_mem member
  rcases List.mem_map.mp listed with ⟨⟨cell, val⟩, candidate, names⟩
  exact ⟨cell, val, candidate, names.symm⟩

theorem Built.curNode_le (built : Built board (columnNames board) heads rows solver)
    (labelled : rows.map (·.map solver.name) = (candidates board).map constraints) :
    solver.curNode ≤ kMaxNodes := by
  have few := @candidates_length board
  have columns := @columnNames_length board
  have count := built.count labelled
  unfold kMaxNodes
  omega

def Built.matrix (built : Built board (columnNames board) heads rows solver)
    (labelled : rows.map (·.map solver.name) = (candidates board).map constraints) :
    Matrix where
  root := 0
  heads := heads
  rows := rows
  col := solver.col
  distinct := built.distinct
  bounded := by
    intro node member
    rw [built.nodes, List.mem_range] at member
    exact Nat.lt_of_lt_of_le member (built.curNode_le labelled)
  col_mem := by
    intro row member node inRow
    exact (built.owned node (List.mem_flatten.mpr ⟨row, member, inRow⟩)).1
  cols_distinct := by
    intro row member
    rcases row_candidate labelled member with ⟨cell, val, candidate, names⟩
    rcases mem_candidates.mp candidate with ⟨inBoard, _, _, digit, _⟩
    apply List.Nodup.of_map solver.name
    rw [built.row_name member, names]
    exact constraints_nodup inBoard digit

theorem Built.represents (built : Built board (columnNames board) heads rows solver)
    (labelled : rows.map (·.map solver.name) = (candidates board).map constraints) :
    Represents (built.matrix labelled) [] solver := by
  have column : ∀ c, (built.matrix labelled).column [] c =
      rows.flatten.filter (solver.col · = c) := by
    intro c
    have active : (built.matrix labelled).active [] = rows := by
      simp [Matrix.active, Built.matrix]
    rw [Matrix.column, active]
    rfl
  refine ⟨built.root, rfl, ?_, ?_, ?_, ?_⟩
  · have all : heads.filter (· ∉ []) = heads := by simp
    exact all.symm ▸ built.headers
  · intro node member
    rcases List.mem_flatten.mp member with ⟨row, rowMember, inRow⟩
    rcases List.append_of_mem inRow with ⟨front, back, rfl⟩
    rw [Matrix.others_eq rowMember]
    cases front with
    | nil =>
        rw [List.append_nil]
        exact built.rings node back rowMember
    | cons first front => exact (built.rings first _ rowMember).rotate
  · intro c member _
    rw [column]
    exact built.columns c member
  · intro c member _
    rw [column]
    exact built.sizes c member

theorem row_label
    (labelled : rows.map (·.map solver.name) = (candidates board).map constraints)
    (member : row ∈ rows) :
    ∃ cell val, cell < kCells ∧ val ≤ 9 ∧ decode (row.map solver.name) = (cell, val) ∧
      row.map solver.name = constraints (cell, val) := by
  rcases row_candidate labelled member with ⟨cell, val, candidate, names⟩
  rcases mem_candidates.mp candidate with ⟨inBoard, _, _, digit, _⟩
  refine ⟨cell, val, inBoard, digit, ?_, names⟩
  rw [names, decode_constraints digit]

theorem Built.labelled (built : Built board (columnNames board) heads rows solver)
    (labelled : rows.map (·.map solver.name) = (candidates board).map constraints) :
    Labelled (built.matrix labelled) solver.name fun row => decode (row.map solver.name) := by
  refine ⟨?_, ?_, ?_, ?_⟩
  · intro row member
    rcases row_label labelled member with ⟨cell, val, inBoard, _, _, names⟩
    have listed : cell ∈ row.map solver.name := by
      rw [names, mem_constraints]
      exact .inl rfl
    rcases List.mem_map.mp listed with ⟨node, inRow, name⟩
    unfold kCells at inBoard
    exact ⟨node, inRow, by omega⟩
  · intro row member
    rcases row_label labelled member with ⟨cell, val, _, _, _, names⟩
    have listed : Region.row.column (rowOf cell) val ∈ row.map solver.name := by
      rw [names, mem_constraints]
      exact .inr ⟨.row, rfl⟩
    rcases List.mem_map.mp listed with ⟨node, inRow, name⟩
    exact ⟨node, inRow, name ▸ Region.column_ge⟩
  · intro row member node inRow small
    rcases row_label labelled member with ⟨cell, val, _, _, decoded, names⟩
    have listed : solver.name node ∈ constraints (cell, val) := by
      rw [← names]
      exact List.mem_map_of_mem inRow
    rw [decoded]
    rcases mem_constraints.mp listed with same | ⟨region, same⟩
    · exact same
    · have large := @Region.column_ge region (region.of cell) val
      omega
  · intro row member node inRow large
    rcases row_label labelled member with ⟨cell, val, inBoard, digit, decoded, names⟩
    have listed : solver.name node ∈ constraints (cell, val) := by
      rw [← names]
      exact List.mem_map_of_mem inRow
    rw [decoded]
    rcases mem_constraints.mp listed with same | ⟨region, same⟩
    · unfold kCells at inBoard
      omega
    · rw [same]
      exact Region.column_mod digit

/-- The constructor succeeds on every board. -/
theorem create_encodes (board : List Nat) :
    ∃ solver matrix label, create board = .ok solver ∧ Encodes board matrix label solver := by
  rcases create_ok board with ⟨solver, ran, heads, rows, built, labelled⟩
  refine ⟨solver, built.matrix labelled, fun row => decode (row.map solver.name), ran,
    ⟨built.represents labelled, built.labelled labelled, ?_, ?_, ?_, ?_⟩, built.board, ?_,
    built.named, ?_⟩
  · rw [built.stack]
    exact .nil
  · simp
  · exact List.Pairwise.nil
  · simp
  · have decoded : rows.map (fun row => decode (row.map solver.name)) =
        ((candidates board).map constraints).map decode := by
      rw [← labelled, List.map_map]
      rfl
    exact decoded.trans decode_candidates
  · intro row member
    rcases row_label labelled member with ⟨cell, val, _, _, decoded, names⟩
    rw [decoded, ← names]
    exact (built.row_name member).symm

end Encoding

end Ccnet.Sudoku
