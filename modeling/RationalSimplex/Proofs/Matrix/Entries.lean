import Mathlib.Algebra.Field.Rat
import Mathlib.Data.List.GetD
import Mathlib.Tactic.Ring
import RationalSimplex.RatMatrix.Pivot

/-!
# Entries after row operations

Every operation on matrices is described by the entries of its result.  Entries
outside a matrix count as zero, so that most of these equations need no bounds.
-/

namespace RationalSimplex

@[simp]
theorem resolveIndex?_natCast {size index : Nat} (inside : index < size) :
    resolveIndex? size (index : Int) = some index := by
  simp [resolveIndex?, inside]

theorem getD_eraseIdx (numbers : List Rat) (dropped place : Nat) :
    (numbers.eraseIdx dropped).getD place 0 =
      numbers.getD (if place < dropped then place else place + 1) 0 := by
  simp only [List.getD_eq_getElem?_getD, List.getElem?_eraseIdx]
  split <;> rfl

theorem getD_map_mul (numbers : List Rat) (factor : Rat) (place : Nat) :
    (numbers.map (· * factor)).getD place 0 =
      numbers.getD place 0 * factor := by
  have mapped := List.getD_map numbers (0 : Rat) (n := place) (· * factor)
  rwa [zero_mul] at mapped

namespace RatMatrix

theorem ofRows_eq_ok {rows : List (List Rat)} {width : Nat}
    (nonempty : rows ≠ []) (positive : 0 < width)
    (even : ∀ row ∈ rows, row.length = width) :
    ∃ matrix, ofRows rows = .ok matrix ∧ matrix.width = width ∧
      matrix.rows = rows := by
  obtain ⟨first, rest, rfl⟩ := List.exists_cons_of_ne_nil nonempty
  have firstWidth : first.length = width := even first List.mem_cons_self
  have some : first.isEmpty = false := by
    rw [List.isEmpty_eq_false_iff]
    exact List.ne_nil_of_length_pos (by omega)
  have same : ∀ row ∈ first :: rest, row.length = first.length := by
    rw [firstWidth]
    exact even
  refine ⟨⟨first.length, first :: rest, same⟩, ?_, firstWidth, rfl⟩
  simp only [ofRows, some, Bool.false_eq_true, if_false]
  exact dif_pos same

theorem getD_subtractScaled {lefts rights : List Rat}
    (fits : rights.length ≤ lefts.length) (factor : Rat) (place : Nat) :
    (subtractScaled lefts rights factor).getD place 0 =
      lefts.getD place 0 - rights.getD place 0 * factor := by
  induction lefts generalizing rights place with
  | nil =>
      obtain rfl : rights = [] := by simpa using fits
      simp [subtractScaled]
  | cons left lefts induction =>
      cases rights with
      | nil => simp [subtractScaled]
      | cons right rights =>
          cases place with
          | zero => simp [subtractScaled]
          | succ place =>
              have shorter : rights.length ≤ lefts.length := by simpa using fits
              simpa [subtractScaled] using induction shorter place

section Rows

variable (matrix : RatMatrix)

theorem getD_rows_length_le (row : Nat) :
    (matrix.rows.getD row []).length ≤ matrix.width := by
  by_cases inside : row < matrix.rows.length
  · simp [inside, matrix.uniform]
  · simp [inside]

theorem getD_rows_length {row : Nat} (inside : row < matrix.height) :
    (matrix.rows.getD row []).length = matrix.width := by
  have member : row < matrix.rows.length := inside
  simp [member, matrix.uniform]

theorem entry_of_height_le {row : Nat} (outside : matrix.height ≤ row)
    (column : Nat) : matrix.entry row column = 0 := by
  have absent : matrix.rows.length ≤ row := outside
  simp [entry, absent]

theorem entry_of_width_le (row : Nat) {column : Nat}
    (outside : matrix.width ≤ column) : matrix.entry row column = 0 := by
  have short := Nat.le_trans (matrix.getD_rows_length_le row) outside
  simp only [entry, List.getD_eq_getElem?_getD] at short ⊢
  rw [List.getElem?_eq_none short]
  rfl

@[simp]
theorem entryIndex_eq_ok {row column : Nat} (rowInside : row < matrix.height)
    (columnInside : column < matrix.width) :
    matrix.entryIndex row column = .ok (row, column) := by
  unfold entryIndex
  rw [resolveIndex?_natCast rowInside, resolveIndex?_natCast columnInside]

theorem get_eq_ok {row column : Nat} (rowInside : row < matrix.height)
    (columnInside : column < matrix.width) :
    matrix.get row column = .ok (matrix.entry row column) := by
  unfold get
  rw [matrix.entryIndex_eq_ok rowInside columnInside]

@[simp] theorem row_eq_ok {row : Nat} (inside : row < matrix.height) :
    matrix.row row = .ok (matrix.rows.getD row []) := by
  unfold RatMatrix.row rowIndex
  rw [resolveIndex?_natCast inside]
  rfl

variable (change : Nat → List Rat → List Rat)
  (keeps : ∀ index row, row.length = matrix.width →
    (change index row).length = matrix.width)

@[simp] theorem height_mapRows :
    (matrix.mapRows change keeps).height = matrix.height := by
  simp [height, mapRows]

@[simp] theorem width_mapRows :
    (matrix.mapRows change keeps).width = matrix.width :=
  rfl

theorem entry_mapRows {row : Nat} (inside : row < matrix.height)
    (column : Nat) :
    (matrix.mapRows change keeps).entry row column =
      (change row (matrix.rows.getD row [])).getD column 0 := by
  have member : row < matrix.rows.length := inside
  simp [entry, mapRows, member]

/-- What is zero outside the matrix needs to be shown of its rows only. -/
theorem entry_mapRows_eq {row column : Nat} {number : Rat}
    (inside : row < matrix.height →
      (change row (matrix.rows.getD row [])).getD column 0 = number)
    (outside : matrix.height ≤ row → number = 0) :
    (matrix.mapRows change keeps).entry row column = number := by
  rcases Nat.lt_or_ge row matrix.height with before | behind
  · rw [entry_mapRows _ _ _ before]
    exact inside before
  · rw [outside behind]
    apply entry_of_height_le
    rwa [height_mapRows]

end Rows

section Equality

variable {matrix other : RatMatrix}

/-- Rows of the same width are equal when their entries are. -/
theorem getD_rows_eq (same : matrix.width = other.width) {row otherRow : Nat}
    (inside : row < matrix.height) (otherInside : otherRow < other.height)
    (equal : ∀ column < matrix.width,
      matrix.entry row column = other.entry otherRow column) :
    matrix.rows.getD row [] = other.rows.getD otherRow [] := by
  have length := matrix.getD_rows_length inside
  have otherLength := other.getD_rows_length otherInside
  apply List.ext_getElem
  · rw [length, otherLength, same]
  · intro column before otherBefore
    have entries := equal column (by omega)
    unfold entry at entries
    rwa [List.getD_eq_getElem _ _ before,
      List.getD_eq_getElem _ _ otherBefore] at entries

/-- Matrices of the same size are equal when their entries are. -/
theorem eq_of_entry_eq (same : matrix.width = other.width)
    (height : matrix.height = other.height)
    (equal : ∀ row < matrix.height, ∀ column < matrix.width,
      matrix.entry row column = other.entry row column) : matrix = other := by
  have rows : matrix.rows = other.rows := by
    apply List.ext_getElem height
    intro row inside otherInside
    have numbers := getD_rows_eq same inside otherInside (equal row inside)
    rwa [List.getD_eq_getElem _ _ inside,
      List.getD_eq_getElem _ _ otherInside] at numbers
  cases matrix
  cases other
  congr

end Equality

section Operations

variable (matrix : RatMatrix)

@[simp] theorem height_pivot (row column : Nat) :
    (matrix.pivot row column).height = matrix.height := by
  simp [pivot]

@[simp] theorem width_pivot (row column : Nat) :
    (matrix.pivot row column).width = matrix.width := by
  simp [pivot]

/-- A row less the multiple of the scaled pivot row that clears its entry. -/
theorem getD_subtractScaled_scaled (row column : Nat) {index : Nat}
    (inside : index < matrix.height) (place : Nat) :
    (subtractScaled (matrix.rows.getD index [])
        ((matrix.rows.getD row []).map (· * (1 / matrix.entry row column)))
        ((matrix.rows.getD index []).getD column 0)).getD place 0 =
      matrix.entry index place -
        matrix.entry index column * matrix.entry row place /
          matrix.entry row column := by
  rw [getD_subtractScaled, getD_map_mul]
  · simp only [entry]
    ring
  · rw [List.length_map, matrix.getD_rows_length inside]
    exact matrix.getD_rows_length_le row

@[simp] theorem entry_pivot (row column index place : Nat) :
    (matrix.pivot row column).entry index place =
      if index = row then matrix.entry row place / matrix.entry row column
      else matrix.entry index place -
        matrix.entry index column * matrix.entry row place /
          matrix.entry row column := by
  unfold pivot
  refine entry_mapRows_eq _ _ _ ?_ ?_
  · intro inside
    split
    · next same =>
        subst same
        rw [getD_map_mul, mul_one_div]
        rfl
    · exact matrix.getD_subtractScaled_scaled row column inside place
  · intro outside
    split
    · next same => simp [← same, matrix.entry_of_height_le outside]
    · simp [matrix.entry_of_height_le outside]

@[simp] theorem height_subtractRow (target source : Nat) (factor : Rat) :
    (matrix.subtractRow target source factor).height = matrix.height := by
  simp [subtractRow]

@[simp] theorem width_subtractRow (target source : Nat) (factor : Rat) :
    (matrix.subtractRow target source factor).width = matrix.width := by
  simp [subtractRow]

@[simp]
theorem entry_subtractRow {target : Nat} (inside : target < matrix.height)
    (source : Nat) (factor : Rat) (index place : Nat) :
    (matrix.subtractRow target source factor).entry index place =
      if index = target then
        matrix.entry target place - factor * matrix.entry source place
      else matrix.entry index place := by
  unfold subtractRow
  refine entry_mapRows_eq _ _ _ ?_ ?_
  · intro _
    split
    · next same =>
        subst same
        rw [getD_subtractScaled, mul_comm]
        · rfl
        · rw [matrix.getD_rows_length inside]
          exact matrix.getD_rows_length_le source
    · rfl
  · intro outside
    rw [if_neg (by omega), matrix.entry_of_height_le outside]

@[simp] theorem height_fillRow (row : Nat) (number : Nat → Rat) :
    (matrix.fillRow row number).height = matrix.height := by
  simp [fillRow]

@[simp] theorem width_fillRow (row : Nat) (number : Nat → Rat) :
    (matrix.fillRow row number).width = matrix.width := by
  simp [fillRow]

@[simp] theorem entry_fillRow {row : Nat} (inside : row < matrix.height)
    (number : Nat → Rat) {index place : Nat} (placed : place < matrix.width) :
    (matrix.fillRow row number).entry index place =
      if index = row then number place else matrix.entry index place := by
  unfold fillRow
  refine entry_mapRows_eq _ _ _ ?_ ?_
  · intro indexInside
    split
    · simp only [matrix.getD_rows_length indexInside]
      simp [placed]
    · rfl
  · intro outside
    rw [if_neg (by omega), matrix.entry_of_height_le outside]

@[simp] theorem height_eraseRow {row : Nat} (inside : row < matrix.height) :
    (matrix.eraseRow row).height = matrix.height - 1 := by
  have member : row < matrix.rows.length := inside
  simp [height, eraseRow, List.length_eraseIdx, member]

@[simp] theorem width_eraseRow (row : Nat) :
    (matrix.eraseRow row).width = matrix.width :=
  rfl

@[simp] theorem entry_eraseRow (row index place : Nat) :
    (matrix.eraseRow row).entry index place =
      matrix.entry (if index < row then index else index + 1) place := by
  simp only [entry, eraseRow, List.getD_eq_getElem?_getD,
    List.getElem?_eraseIdx]
  split <;> rfl

@[simp] theorem height_eraseColumn (column : Nat) :
    (matrix.eraseColumn column).height = matrix.height := by
  simp [height, eraseColumn]

@[simp]
theorem width_eraseColumn {column : Nat} (inside : column < matrix.width) :
    (matrix.eraseColumn column).width = matrix.width - 1 := by
  simp [eraseColumn, inside]

@[simp] theorem entry_eraseColumn (column index place : Nat) :
    (matrix.eraseColumn column).entry index place =
      matrix.entry index (if place < column then place else place + 1) := by
  rcases Nat.lt_or_ge index matrix.height with inside | outside
  · have member : index < matrix.rows.length := inside
    simp only [entry, eraseColumn, List.getD_eq_getElem?_getD,
      List.getElem?_map, List.getElem?_eq_getElem member, Option.map_some,
      Option.getD_some]
    simpa using getD_eraseIdx matrix.rows[index] column place
  · have outsideResult : (matrix.eraseColumn column).height ≤ index := by
      simpa using outside
    rw [entry_of_height_le _ outsideResult, matrix.entry_of_height_le outside]

end Operations

end RatMatrix

end RationalSimplex
