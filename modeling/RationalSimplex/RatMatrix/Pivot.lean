import RationalSimplex.RatMatrix.Basic
import RationalSimplex.Value.Elementwise

/-!
# Scaling rows and pivoting

A row is multiplied by a value.  A number multiplies every entry; a list or an
array is matched with the row entry by entry, and the products have to make up a
row again.

A pivot scales one row so that a chosen entry becomes one, and subtracts
multiples of it from the other rows so that the rest of the column becomes zero.
The rows are changed one after the other; the closed forms say at once what
becomes of every row.
-/

namespace RationalSimplex.RatMatrix

/-! ## Factors of rows -/

/-- Replace a row by another one of the same length. -/
def replaceRow (matrix : RatMatrix) (row : Nat) (numbers : List Rat) :
    RatMatrix :=
  matrix.mapRows
    (fun index old =>
      if index = row ∧ numbers.length = old.length then numbers else old)
    fun index old width => by
      split
      · next same => simp [same.2, width]
      · exact width

/-- The axes without leading ones of length one, of which the last one stays. -/
def assignedAxes : List Nat → List Nat
  | 1 :: axis :: axes => assignedAxes (axis :: axes)
  | axes => axes

/-- The products of a row with the entries of a factor. -/
def products (row : List Rat) (factor : Value) : Except Fault (List Rat) := do
  let grid ← factor.toGrid
  let products ← (Grid.row row).combine
    (fun number entry => Value.calculate .multiply (.fraction number) entry)
    grid
  let axes := assignedAxes products.axes
  if axes = [row.length] then
    return products.entries
  else
    throw (.array (.unassignable axes [row.length]))

/-- Multiply the row at a position by a factor. -/
def scaleRowAt (matrix : RatMatrix) (row : Int) (factor : Value) :
    Except Fault RatMatrix := do
  let index ← matrix.rowIndex row
  match factor.operand? with
  | some number => return matrix.scaleRow index number
  | none =>
      let numbers ← products (matrix.rows.getD index []) factor
      return matrix.replaceRow index numbers

/-! ## Pivots -/

/-- Clear the entry of a row in the pivot column.  The row that the pivot
position names is left alone, and so is a row whose entry is zero already. -/
def clearRow (position : Int) (row column : Nat) (matrix : RatMatrix)
    (target : Nat) : RatMatrix :=
  if (target : Int) = position ∨ matrix.entry target column = 0 then
    matrix
  else
    matrix.subtractRow target row (matrix.entry target column)

/-- Pivot on an entry: scale its row, then clear the others from the first to
the last one.  The position is the one that the row was found by; it counts from
the end when it is negative, and then names none of the rows that are
cleared. -/
def eliminate (matrix : RatMatrix) (position : Int) (row column : Nat) :
    RatMatrix :=
  (List.range matrix.height).foldl (clearRow position row column)
    (matrix.scaleRow row (1 / matrix.entry row column))

/-- The pivot on an entry, in closed form: every new entry is a function of old
ones. -/
def pivot (matrix : RatMatrix) (row column : Nat) : RatMatrix :=
  let inverse := 1 / matrix.entry row column
  let scaled := (matrix.rows.getD row []).map (· * inverse)
  matrix.mapRows
    (fun index numbers =>
      if index = row then numbers.map (· * inverse)
      else subtractScaled numbers scaled (numbers.getD column 0))
    fun index numbers width => by
      split <;> simp [width]

/-- The pivot on a row that was counted from the end.  Such a row is not
recognised among the rows that it is subtracted from: it is cleared when its
turn comes, and later rows keep their entries. -/
def pivotFromEnd (matrix : RatMatrix) (row column : Nat) : RatMatrix :=
  let inverse := 1 / matrix.entry row column
  let scaled := (matrix.rows.getD row []).map (· * inverse)
  matrix.mapRows
    (fun index numbers =>
      if index = row then numbers.map fun _ => 0
      else if index < row then
        subtractScaled numbers scaled (numbers.getD column 0)
      else numbers)
    fun index numbers width => by
      split
      · simp [width]
      · split <;> simp [width]

end RationalSimplex.RatMatrix
