import RationalSimplex.Index
import RationalSimplex.Numeral
import RationalSimplex.Value.Arithmetic

/-!
# Rational matrices

A matrix is a list of rows of the same width; the width stays known when all
rows are gone.  Reading and writing take positions, which count from the end
when they are negative, and refuse those outside the matrix.
-/

namespace RationalSimplex

/-- Rows of rational numbers of one width. -/
structure RatMatrix where
  width : Nat
  rows : List (List Rat)
  uniform : ∀ row ∈ rows, row.length = width
deriving DecidableEq

namespace RatMatrix

/-- The number of rows. -/
def height (matrix : RatMatrix) : Nat :=
  matrix.rows.length

/-- The entry at a row and a column; zero outside the matrix. -/
def entry (matrix : RatMatrix) (row column : Nat) : Rat :=
  (matrix.rows.getD row []).getD column 0

/-- The matrix of a list of rows, with at least one row and one column. -/
def ofRows (rows : List (List Rat)) : Except EngineFault RatMatrix :=
  match rows with
  | [] => .error .emptyMatrix
  | first :: rest =>
      if first.isEmpty then
        .error .emptyMatrix
      else if even : ∀ row ∈ first :: rest, row.length = first.length then
        .ok ⟨first.length, first :: rest, even⟩
      else
        .error .unevenRows

/-- The members of a value that has to be a collection. -/
def membersOf (source : Value) : Except Fault (List Value) :=
  match source.members? with
  | none => .error (.operand (.notIterable source.kind))
  | some members => .ok members

/-- The matrix whose rows are read from a collection of collections. -/
def ofValue (source : Value) : Except Fault RatMatrix := do
  let rows ← membersOf source
  let numbers ← rows.mapM fun row => do
    let members ← membersOf row
    (Value.toRats members).mapError .number
  (ofRows numbers).mapError .engine

/-- The row that a position means. -/
def rowIndex (matrix : RatMatrix) (row : Int) : Except Fault Nat :=
  match resolveIndex? matrix.height row with
  | some index => .ok index
  | none =>
      .error (.index
        ((IndexFault.unfit? row).getD (.beyond row .row matrix.height)))

/-- Why two positions mean no entry: what fits no word is found before the sizes
are looked at. -/
def misplaced (matrix : RatMatrix) (row column : Int) : IndexFault :=
  let noRow := (resolveIndex? matrix.height row).isNone
  let noColumn := (resolveIndex? matrix.width column).isNone
  let unfitRow := if noRow then IndexFault.unfit? row else none
  let unfitColumn := if noColumn then IndexFault.unfit? column else none
  (unfitRow.or unfitColumn).getD
    (if noRow then .beyond row .row matrix.height
      else .beyond column .column matrix.width)

/-- The row and the column that two positions mean. -/
def entryIndex (matrix : RatMatrix) (row column : Int) :
    Except Fault (Nat × Nat) :=
  match resolveIndex? matrix.height row, resolveIndex? matrix.width column with
  | some row, some column => .ok (row, column)
  | _, _ => .error (.index (matrix.misplaced row column))

/-- The entry at two positions. -/
def get (matrix : RatMatrix) (row column : Int) : Except Fault Rat :=
  match matrix.entryIndex row column with
  | .ok place => .ok (matrix.entry place.1 place.2)
  | .error fault => .error fault

/-- The row at a position. -/
def row (matrix : RatMatrix) (position : Int) : Except Fault (List Rat) := do
  let index ← matrix.rowIndex position
  return matrix.rows.getD index []

/-- Change every row by a function of its index that keeps the length. -/
def mapRows (matrix : RatMatrix) (change : Nat → List Rat → List Rat)
    (keeps : ∀ index row,
      row.length = matrix.width → (change index row).length = matrix.width) :
    RatMatrix where
  width := matrix.width
  rows := matrix.rows.mapIdx change
  uniform := by
    intro row member
    obtain ⟨index, lt, rfl⟩ := List.mem_mapIdx.mp member
    exact keeps index _ (matrix.uniform _ (List.getElem_mem lt))

/-- Put a number at a row and a column. -/
def setEntry (matrix : RatMatrix) (row column : Nat) (number : Rat) :
    RatMatrix :=
  matrix.mapRows (fun index numbers =>
      if index = row then numbers.set column number else numbers)
    fun index numbers width => by
      split <;> simp [width]

/-- Multiply a row by a number. -/
def scaleRow (matrix : RatMatrix) (row : Nat) (factor : Rat) : RatMatrix :=
  matrix.mapRows (fun index numbers =>
      if index = row then numbers.map (· * factor) else numbers)
    fun index numbers width => by
      split <;> simp [width]

/-- The first row less a multiple of the second, as far as the first reaches. -/
def subtractScaled : List Rat → List Rat → Rat → List Rat
  | left :: lefts, right :: rights, factor =>
      (left - right * factor) :: subtractScaled lefts rights factor
  | lefts, _, _ => lefts

@[simp]
theorem length_subtractScaled (lefts rights : List Rat) (factor : Rat) :
    (subtractScaled lefts rights factor).length = lefts.length := by
  fun_induction subtractScaled lefts rights factor <;> simp_all

/-- Subtract a multiple of the source row from the target row. -/
def subtractRow (matrix : RatMatrix) (target source : Nat) (factor : Rat) :
    RatMatrix :=
  matrix.mapRows
    (fun index numbers =>
      if index = target then
        subtractScaled numbers (matrix.rows.getD source []) factor
      else numbers)
    fun index numbers width => by
      split <;> simp [width]

/-- Exchange two rows. -/
def exchangeRows (matrix : RatMatrix) (first second : Nat) : RatMatrix where
  width := matrix.width
  rows := matrix.rows.mapIdx fun index numbers =>
    if index = first then matrix.rows.getD second numbers
    else if index = second then matrix.rows.getD first numbers
    else numbers
  uniform := by
    intro row member
    obtain ⟨index, lt, rfl⟩ := List.mem_mapIdx.mp member
    have own := matrix.uniform _ (List.getElem_mem lt)
    have other (position : Nat) :
        (matrix.rows.getD position matrix.rows[index]).length =
          matrix.width := by
      by_cases inside : position < matrix.rows.length
      · simp [inside, matrix.uniform]
      · simp [inside, own]
    split
    · exact other second
    · split
      · exact other first
      · exact own

/-- Drop a column, if there is one of that index. -/
def eraseColumn (matrix : RatMatrix) (column : Nat) : RatMatrix where
  width := if column < matrix.width then matrix.width - 1 else matrix.width
  rows := matrix.rows.map (·.eraseIdx column)
  uniform := by
    intro row member
    obtain ⟨source, sourceMember, rfl⟩ := List.mem_map.mp member
    rw [List.length_eraseIdx, matrix.uniform source sourceMember]

/-- Drop a row. -/
def eraseRow (matrix : RatMatrix) (row : Nat) : RatMatrix where
  width := matrix.width
  rows := matrix.rows.eraseIdx row
  uniform := fun numbers member =>
    matrix.uniform numbers (List.mem_of_mem_eraseIdx member)

/-- Put a function of the column into every place of a row. -/
def fillRow (matrix : RatMatrix) (row : Nat) (number : Nat → Rat) : RatMatrix :=
  matrix.mapRows
    (fun index numbers =>
      if index = row then (List.range numbers.length).map number else numbers)
    fun index numbers width => by
      split <;> simp [width]

/-- Put a number, given as a value, at two positions. -/
def set (matrix : RatMatrix) (row column : Int) (value : Value) :
    Except Fault RatMatrix := do
  let number ← value.toRat.mapError .number
  let place ← matrix.entryIndex row column
  return matrix.setEntry place.1 place.2 number

/-- Subtract a multiple of the row at one position from the row at another;
nothing is looked up when the factor is zero. -/
def subtractRowAt (matrix : RatMatrix) (target source : Int) (factor : Rat) :
    Except Fault RatMatrix :=
  if factor = 0 then
    .ok matrix
  else do
    let target ← matrix.rowIndex target
    let source ← matrix.rowIndex source
    return matrix.subtractRow target source factor

/-- Subtract a multiple whose factor is a value, which has to be a fraction. -/
def subtractRowBy (matrix : RatMatrix) (target source : Int) (factor : Value) :
    Except Fault RatMatrix :=
  match factor with
  | .fraction number => matrix.subtractRowAt target source number
  | other => .error (.operand (.missingAttribute other.kind "is_zero"))

/-- The positions of two rows that are looked up together.  Both may be large
enough to be words without a sign, and then count from the end. -/
def pairedPositions (first second : Int) : Except Fault (Int × Int) :=
  if FitsWord first ∧ FitsWord second then
    .ok (first, second)
  else if FitsUnsigned first ∧ FitsUnsigned second then
    .ok (first - 18446744073709551616, second - 18446744073709551616)
  else
    .error (.index .noWord)

/-- Exchange the rows at two positions; the second is looked up first. -/
def exchangeRowsAt (matrix : RatMatrix) (first second : Int) :
    Except Fault RatMatrix := do
  let positions ← pairedPositions first second
  let second ← matrix.rowIndex positions.2
  let first ← matrix.rowIndex positions.1
  return matrix.exchangeRows first second

/-- Drop the column at a position. -/
def eraseColumnAt (matrix : RatMatrix) (column : Int) :
    Except Fault RatMatrix :=
  match resolveIndex? matrix.width column with
  | some index => .ok (matrix.eraseColumn index)
  | none => .error (.index (.beyond column .column matrix.width))

/-- Drop the row at a position. -/
def eraseRowAt (matrix : RatMatrix) (row : Int) : Except Fault RatMatrix :=
  match resolveIndex? matrix.height row with
  | some index => .ok (matrix.eraseRow index)
  | none => .error (.index (.beyond row .row matrix.height))

/-- The text of the matrix: numbers separated by blanks and rows by
semicolons. -/
def text (matrix : RatMatrix) : String :=
  "Matrix([" ++ "; ".intercalate (matrix.rows.map (fractionTexts " ")) ++ "])"

end RatMatrix

end RationalSimplex
