import RationalSimplex.Linear.Expression
import RationalSimplex.RatMatrix.Pivot

/-!
# Simplex tableaux

A tableau is a matrix of constraint rows with the objective row below them; its
last column holds the right-hand sides.  Every constraint row has a basic
variable.  Tableaux that a user enters may have any variables in these lists, so
variables are integers and every access is checked.
-/

namespace RationalSimplex

/-- A constraint row and a column, on which a tableau may be pivoted. -/
abbrev Pivot := Nat × Nat

/-- A matrix with the bookkeeping of the simplex method. -/
structure Tableau where
  matrix : RatMatrix
  objective : Objective
  /-- The basic variable of every constraint row. -/
  basis : List Int
  /-- The variables of the program, whose values make up a plan. -/
  start : List Int
  artificial : List Int
  iteration : Int
deriving DecidableEq

/-- A tableau as it stood at one moment. -/
structure Snapshot where
  rows : List (List Rat)
  basis : List Int
  artificial : List Int
  iteration : Int
deriving DecidableEq

/-- An operation that stopped half-way: why it stopped, and the tableau that it
left. -/
structure Interruption where
  fault : Fault
  left : Tableau

/-- The value that a snapshot shows in its last corner. -/
def Snapshot.value (snapshot : Snapshot) : Except Fault Rat :=
  match snapshot.rows.getLast? with
  | none => .error (.index .coefficient)
  | some row =>
      match row.getLast? with
      | none => .error (.index .coefficient)
      | some number => .ok number

namespace Tableau

/-- The tableau of its parts, with one basic variable for every constraint
row. -/
def make (matrix : RatMatrix) (objective : Objective)
    (basis start artificial : List Int) (iteration : Int) :
    Except EngineFault Tableau :=
  if (basis.length : Int) = (matrix.height : Int) - 1 then
    .ok ⟨matrix, objective, basis, start, artificial, iteration⟩
  else
    .error (.basisSize basis.length ((matrix.height : Int) - 1))

/-- The same tableau, once its parts are found to fit together. -/
def recheck (tableau : Tableau) : Except EngineFault Tableau :=
  make tableau.matrix tableau.objective tableau.basis tableau.start
    tableau.artificial tableau.iteration

/-- The number of constraint rows. -/
def constraintCount (tableau : Tableau) : Nat :=
  tableau.matrix.height - 1

/-- The number of columns of variables. -/
def columnCount (tableau : Tableau) : Nat :=
  tableau.matrix.width - 1

/-- The constraint rows and the columns of variables; one less than none when
there are no rows. -/
def shape (tableau : Tableau) : Int × Int :=
  ((tableau.matrix.height : Int) - 1, (tableau.matrix.width : Int) - 1)

/-- The right-hand side of a row. -/
def rhs (tableau : Tableau) (row : Int) : Except Fault Rat :=
  tableau.matrix.get row ((tableau.matrix.width : Int) - 1)

/-- The entry of the objective row in a column. -/
def reducedCost (tableau : Tableau) (column : Int) : Except Fault Rat :=
  tableau.matrix.get ((tableau.matrix.height : Int) - 1) column

/-- The last entry of the objective row. -/
def value (tableau : Tableau) : Except Fault Rat :=
  tableau.matrix.get ((tableau.matrix.height : Int) - 1)
    ((tableau.matrix.width : Int) - 1)

/-- The first row in which a variable is basic. -/
def rowOf? (tableau : Tableau) (index : Int) : Option Nat :=
  tableau.basis.findIdx? (· == index)

/-- The value of a variable: the right-hand side of its row, or zero. -/
def variableValue (tableau : Tableau) (index : Int) : Except Fault Rat :=
  match tableau.rowOf? index with
  | some row => tableau.rhs row
  | none => .ok 0

/-- The values of the variables of the program. -/
def plan (tableau : Tableau) : Except Fault (List Rat) :=
  tableau.start.mapM tableau.variableValue

/-- The tableau as it stands. -/
def snapshot (tableau : Tableau) : Snapshot :=
  ⟨tableau.matrix.rows, tableau.basis, tableau.artificial, tableau.iteration⟩

/-- Whether a row passes the ratio test against the ratio of the pivot row. -/
def allowsRatio (tableau : Tableau) (column : Int) (ratio : Rat) (row : Nat) :
    Except Fault Bool := do
  let entry ← tableau.matrix.get row column
  if 0 < entry then
    let rhs ← tableau.rhs row
    let own ← (divide rhs entry).mapError .number
    return decide (¬ own < ratio)
  else
    return true

/-- Whether a pivot keeps the tableau feasible and does not lower its value: the
column has a negative reduced cost, the entry is positive, and no other row has
a smaller ratio. -/
def admits (tableau : Tableau) (row column : Int) : Except Fault Bool := do
  let cost ← tableau.reducedCost column
  if cost < 0 then
    let entry ← tableau.matrix.get row column
    if 0 < entry then
      let rhs ← tableau.rhs row
      let ratio ← (divide rhs entry).mapError .number
      (List.range tableau.constraintCount).allM
        (tableau.allowsRatio column ratio)
    else
      return false
  else
    return false

/-- Whether the reduced cost of a column is negative. -/
def improves (tableau : Tableau) (column : Nat) : Except Fault Bool := do
  let cost ← tableau.reducedCost column
  return decide (cost < 0)

/-- The columns of variables with a negative reduced cost. -/
def improvingColumns (tableau : Tableau) : Except Fault (List Nat) :=
  (List.range tableau.columnCount).filterM tableau.improves

/-- All admissible pivots, row by row. -/
def admissiblePivots (tableau : Tableau) : Except Fault (List Pivot) := do
  let columns ← tableau.improvingColumns
  let pairs := (List.range tableau.constraintCount).flatMap fun row =>
    columns.map fun column => (row, column)
  pairs.filterM fun pair => tableau.admits pair.1 pair.2

/-- Pivot on an entry that is not zero: the variable of the column becomes basic
in the row.  The matrix has changed already when the row turns out to have no
basic variable. -/
def pivot (tableau : Tableau) (row column : Int) :
    Except Interruption Tableau :=
  let resolved : Except Fault (Nat × Nat) := do
    let place ← tableau.matrix.entryIndex row column
    let _ ← (invert (tableau.matrix.entry place.1 place.2)).mapError .number
    return place
  match resolved with
  | .error fault => .error ⟨fault, tableau⟩
  | .ok (rowIndex, columnIndex) =>
      let matrix := tableau.matrix.eliminate row rowIndex columnIndex
      match resolveIndex? tableau.basis.length row with
      | none => .error ⟨.index .assignment, { tableau with matrix := matrix }⟩
      | some place => .ok { tableau with
          matrix := matrix
          basis := tableau.basis.set place column
          iteration := tableau.iteration + 1 }

/-- The number of a variable after a column has been dropped. -/
def renumber (dropped index : Int) : Int :=
  if dropped < index then index - 1 else index

/-- Drop a column and renumber the basic and artificial variables behind it. -/
def eraseColumn (tableau : Tableau) (column : Int) : Except Fault Tableau := do
  let matrix ← tableau.matrix.eraseColumnAt column
  return { tableau with
    matrix := matrix
    basis := tableau.basis.map (renumber column)
    artificial :=
      (tableau.artificial.filter (· ≠ column)).map (renumber column) }

/-- Drop a row and its basic variable.  The row is gone already when it turns
out to have none. -/
def eraseRow (tableau : Tableau) (row : Int) : Except Interruption Tableau :=
  match tableau.matrix.eraseRowAt row with
  | .error fault => .error ⟨fault, tableau⟩
  | .ok matrix =>
      match resolveIndex? tableau.basis.length row with
      | none => .error ⟨.index .assignment, { tableau with matrix := matrix }⟩
      | some place => .ok { tableau with
          matrix := matrix
          basis := tableau.basis.eraseIdx place }

/-- Put a number, given as a value, into the matrix. -/
def set (tableau : Tableau) (row column : Int) (value : Value) :
    Except Fault Tableau := do
  let matrix ← tableau.matrix.set row column value
  return { tableau with matrix := matrix }

end Tableau

end RationalSimplex
