import Ccnet.Foundation.Ring

namespace Ccnet.Sudoku

/-! The solver of `net/sudoku/sudoku.cc`, which looks for an exact cover by
dancing links. -/

def kCells : Nat := 81

def kMaxNodes : Nat := 1 + 81 * 4 + 9 * 9 * 9 * 4

/-- The length of `columns_`. -/
def kMaxColumns : Nat := 400

def kRow : Nat := 100

def kCol : Nat := 200

def kBox : Nat := 300

/-- A node is its position in `nodes_`. `horizontal` holds the fields `right` and
`left`, `vertical` the fields `down` and `up`. -/
structure SudokuSolver where
  horizontal : Links Nat
  vertical : Links Nat
  col : Nat → Nat
  name : Nat → Nat
  size : Nat → Int
  curNode : Nat
  root : Nat
  columns : Nat → Option Nat
  stack : List Nat
  inout : List Nat

namespace SudokuSolver

/-! ## Building the matrix -/

def getRowCol (row val : Nat) : Nat := kRow + row * 10 + val

def getColCol (col val : Nat) : Nat := kCol + col * 10 + val

def getBoxCol (box val : Nat) : Nat := kBox + box * 10 + val

/-- What `new_column` and `new_row` have in common: a node that is linked to
itself only, with the other fields zero. -/
def newNode (solver : SudokuSolver) (name col : Nat) : SudokuSolver :=
  let node := solver.curNode
  { solver with
    horizontal := solver.horizontal.alone node
    vertical := solver.vertical.alone node
    col := Function.update solver.col node col
    name := Function.update solver.name node name
    size := Function.update solver.size node 0
    curNode := node + 1 }

def newColumn (solver : SudokuSolver) (n : Nat) : Checked (Nat × SudokuSolver) := do
  check (solver.curNode < kMaxNodes)
  return (solver.curNode, solver.newNode n solver.curNode)

def putLeft (solver : SudokuSolver) (old nnew : Nat) : SudokuSolver :=
  { solver with horizontal := solver.horizontal.insertBefore old nnew }

def putUp (solver : SudokuSolver) (old nnew : Nat) : SudokuSolver :=
  { solver with
    vertical := solver.vertical.insertBefore old nnew
    size := Function.update solver.size old (solver.size old + 1)
    col := Function.update solver.col nnew old }

def appendColumn (solver : SudokuSolver) (n : Nat) : Checked SudokuSolver := do
  checkIndex n kMaxColumns
  check (solver.columns n = none)
  let (c, added) ← solver.newColumn n
  let linked := added.putLeft added.root c
  return { linked with columns := Function.update linked.columns n (some c) }

def newRow (solver : SudokuSolver) (col : Nat) : Checked (Nat × SudokuSolver) := do
  checkIndex col kMaxColumns
  match solver.columns col with
  | none => .error .assertion
  | some column =>
      check (solver.curNode < kMaxNodes)
      return (solver.curNode, (solver.newNode col column).putUp column solver.curNode)

def rowOf (cell : Nat) : Nat := cell / 9

def colOf (cell : Nat) : Nat := cell % 9

def boxOf (cell : Nat) : Nat := rowOf cell / 3 * 3 + colOf cell / 3

/-- The arrays `rows`, `cols` and `boxes`. -/
structure Givens where
  rows : Nat → Nat → Bool
  cols : Nat → Nat → Bool
  boxes : Nat → Nat → Bool

/-- `flags[index][val] = true` -/
def mark (flags : Nat → Nat → Bool) (index val : Nat) : Nat → Nat → Bool :=
  Function.update flags index (Function.update (flags index) val true)

def markGivens (inout : List Nat) : Givens :=
  (List.range kCells).foldl (fun givens i =>
    let val := inout.getD i 0
    { rows := mark givens.rows (rowOf i) val
      cols := mark givens.cols (colOf i) val
      boxes := mark givens.boxes (boxOf i) val })
    ⟨fun _ _ => false, fun _ _ => false, fun _ _ => false⟩

def appendColumnIf (solver : SudokuSolver) (due : Bool) (n : Nat) :
    Checked SudokuSolver :=
  if due then solver.appendColumn n else .ok solver

def appendCellColumns (solver : SudokuSolver) : Checked SudokuSolver :=
  (List.range kCells).foldlM (fun solver i =>
    solver.appendColumnIf (solver.inout.getD i 0 = 0) i) solver

def appendDigitColumns (solver : SudokuSolver) (givens : Givens) : Checked SudokuSolver :=
  (List.range 9).foldlM (fun solver i =>
    (List.range' 1 9).foldlM (fun solver v => do
      let solver ← solver.appendColumnIf (!givens.rows i v) (getRowCol i v)
      let solver ← solver.appendColumnIf (!givens.cols i v) (getColCol i v)
      solver.appendColumnIf (!givens.boxes i v) (getBoxCol i v)) solver) solver

/-- The row of the matrix for a value in a cell. -/
def appendRow (solver : SudokuSolver) (i v : Nat) : Checked SudokuSolver := do
  let (n0, solver) ← solver.newRow i
  let (nr, solver) ← solver.newRow (getRowCol (rowOf i) v)
  let (nc, solver) ← solver.newRow (getColCol (colOf i) v)
  let (nb, solver) ← solver.newRow (getBoxCol (boxOf i) v)
  return ((solver.putLeft n0 nr).putLeft n0 nc).putLeft n0 nb

/-- The value is not among the givens that the cell sees. -/
def Givens.absent (givens : Givens) (i v : Nat) : Bool :=
  !(givens.rows (rowOf i) v || givens.cols (colOf i) v || givens.boxes (boxOf i) v)

def appendRows (solver : SudokuSolver) (givens : Givens) : Checked SudokuSolver :=
  (List.range kCells).foldlM (fun solver i =>
    if solver.inout.getD i 0 = 0 then
      (List.range' 1 9).foldlM (fun solver v =>
        if givens.absent i v then solver.appendRow i v else .ok solver) solver
    else
      .ok solver) solver

/-- The object before the constructor's body runs. -/
def blank (inout : List Nat) : SudokuSolver where
  horizontal := ⟨fun _ => 0, fun _ => 0⟩
  vertical := ⟨fun _ => 0, fun _ => 0⟩
  col _ := 0
  name _ := 0
  size _ := 0
  curNode := 0
  root := 0
  columns _ := none
  stack := []
  inout := inout

def create (inout : List Nat) : Checked SudokuSolver := do
  let (root, solver) ← (blank inout).newColumn 0
  let rooted : SudokuSolver := { solver with root := root }
  let givens := markGivens inout
  let cells ← rooted.appendCellColumns
  let columns ← cells.appendDigitColumns givens
  columns.appendRows givens

/-! ## Searching

Every loop over a ring is given as many rounds as there are nodes. -/

/-- The loop of `get_min_column`, from the column `cc` on. -/
def findMinColumn (solver : SudokuSolver) :
    Nat → Nat → Nat → Int → Checked Nat
  | 0, _, _, _ => .error .outOfFuel
  | fuel + 1, cc, c, minSize =>
      if cc = solver.root then
        .ok c
      else if minSize > solver.size cc then
        if solver.size cc ≤ 1 then
          .ok cc
        else
          solver.findMinColumn fuel (solver.horizontal.next cc) cc (solver.size cc)
      else
        solver.findMinColumn fuel (solver.horizontal.next cc) c minSize

def getMinColumn (solver : SudokuSolver) : Checked Nat :=
  let c := solver.horizontal.next solver.root
  let minSize := solver.size c
  if minSize > 1 then
    solver.findMinColumn kMaxNodes (solver.horizontal.next c) c minSize
  else
    .ok c

/-- `j` is taken out of its column. -/
def removeNode (solver : SudokuSolver) (j : Nat) : SudokuSolver :=
  { solver with
    vertical := solver.vertical.unlink j
    size := Function.update solver.size (solver.col j) (solver.size (solver.col j) - 1) }

def restoreNode (solver : SudokuSolver) (j : Nat) : SudokuSolver :=
  { solver with
    vertical := solver.vertical.relink j
    size := Function.update solver.size (solver.col j) (solver.size (solver.col j) + 1) }

def right (solver : SudokuSolver) (node : Nat) : Nat := solver.horizontal.next node

def left (solver : SudokuSolver) (node : Nat) : Nat := solver.horizontal.prev node

def down (solver : SudokuSolver) (node : Nat) : Nat := solver.vertical.next node

def up (solver : SudokuSolver) (node : Nat) : Nat := solver.vertical.prev node

/-- `for (Node* j = row->right; j != row; j = j->right)` -/
def forRight (solver : SudokuSolver) (row : Nat)
    (body : SudokuSolver → Nat → Checked SudokuSolver) : Checked SudokuSolver :=
  walk right row body kMaxNodes (solver.right row) solver

def forLeft (solver : SudokuSolver) (row : Nat)
    (body : SudokuSolver → Nat → Checked SudokuSolver) : Checked SudokuSolver :=
  walk left row body kMaxNodes (solver.left row) solver

def forDown (solver : SudokuSolver) (c : Nat)
    (body : SudokuSolver → Nat → Checked SudokuSolver) : Checked SudokuSolver :=
  walk down c body kMaxNodes (solver.down c) solver

def forUp (solver : SudokuSolver) (c : Nat)
    (body : SudokuSolver → Nat → Checked SudokuSolver) : Checked SudokuSolver :=
  walk up c body kMaxNodes (solver.up c) solver

def cover (solver : SudokuSolver) (c : Nat) : Checked SudokuSolver :=
  { solver with horizontal := solver.horizontal.unlink c }.forDown c
    fun solver row => solver.forRight row fun solver j => .ok (solver.removeNode j)

def uncover (solver : SudokuSolver) (c : Nat) : Checked SudokuSolver := do
  let restored ← solver.forUp c
    fun solver row => solver.forLeft row fun solver j => .ok (solver.restoreNode j)
  return { restored with horizontal := restored.horizontal.relink c }

/-- The loop that finds the cell and the value of a chosen row. -/
def readRow (solver : SudokuSolver) :
    Nat → Nat → Option Nat → Option Nat → Checked (Nat × Nat)
  | 0, _, _, _ => .error .outOfFuel
  | fuel + 1, n, cell, val =>
      match cell, val with
      | some cell, some val => .ok (cell, val)
      | cell, val =>
          if solver.name n < 100 then
            solver.readRow fuel (solver.right n) (some (solver.name n)) val
          else
            solver.readRow fuel (solver.right n) cell (some (solver.name n % 10))

/-- Writes a chosen row to the board. -/
def writeRow (solver : SudokuSolver) (n : Nat) : Checked SudokuSolver := do
  let (cell, val) ← solver.readRow kMaxNodes n none none
  return { solver with inout := solver.inout.set cell val }

/-- The rows of a covered column, from `row` on. -/
def tryRows (search : SudokuSolver → Checked (Bool × SudokuSolver)) (col : Nat) :
    Nat → Nat → SudokuSolver → Checked (Bool × SudokuSolver)
  | 0, _, _ => .error .outOfFuel
  | fuel + 1, row, solver =>
      if row = col then do
        let uncovered ← solver.uncover col
        return (false, uncovered)
      else do
        let pushed : SudokuSolver := { solver with stack := solver.stack ++ [row] }
        let chosen ← pushed.forRight row fun solver j => solver.cover (solver.col j)
        let (found, searched) ← search chosen
        if found then
          return (true, searched)
        else
          let popped : SudokuSolver := { searched with stack := searched.stack.dropLast }
          let undone ← popped.forLeft row fun solver j => solver.uncover (solver.col j)
          tryRows search col fuel (undone.down row) undone

def solve : Nat → SudokuSolver → Checked (Bool × SudokuSolver)
  | 0, _ => .error .outOfFuel
  | depth + 1, solver =>
      if solver.left solver.root = solver.root then do
        let written ← solver.stack.foldlM writeRow solver
        return (true, written)
      else do
        let col ← solver.getMinColumn
        let covered ← solver.cover col
        tryRows (solve depth) col kMaxNodes (covered.down col) covered

end SudokuSolver

/-! ## Strings -/

def zero : UInt8 := 48

def kNoSolution : List UInt8 := "NoSolution".toList.map fun character =>
  UInt8.ofNat character.toNat

/-- The search goes at most as deep as there are nodes. -/
def solveBoard (board : List Nat) : Checked (List UInt8) := do
  let solver ← SudokuSolver.create board
  let (found, solved) ← solver.solve kMaxNodes
  if found then
    return solved.inout.map fun value => UInt8.ofNat (value + zero.toNat)
  else
    return kNoSolution

def solveSudoku (puzzle : List UInt8) : Checked (List UInt8) := do
  check (puzzle.length = kCells)
  let board : List Int := puzzle.map fun character => (character.toNat : Int) - zero.toNat
  if board.all fun value => 0 ≤ value ∧ value ≤ 9 then
    solveBoard (board.map Int.toNat)
  else
    return kNoSolution

end Ccnet.Sudoku
