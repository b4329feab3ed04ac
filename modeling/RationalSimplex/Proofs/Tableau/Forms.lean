import RationalSimplex.Proofs.Matrix.Residual
import RationalSimplex.Proofs.Success
import RationalSimplex.Tableau.Basic

/-!
# Forms of tableaux

A tableau is in basic form when the column of every basic variable is a unit
vector with the reduced cost zero.  The basic solution then gives every basic
variable the right-hand side of its row, and every other variable zero.  This
module says what the forms are and what the readings of a tableau yield; the
later ones show which operations keep a form.
-/

namespace RationalSimplex

namespace Tableau

/-- The entry at a row and a column.  The objective row comes after the
constraint rows, and the right-hand sides after the columns of variables. -/
def entry (tableau : Tableau) (row column : Nat) : Rat :=
  tableau.matrix.entry row column

/-- There is an objective row and a column of right-hand sides, and every
constraint row has a basic variable. -/
structure Shaped (tableau : Tableau) : Prop where
  height_eq : tableau.matrix.height = tableau.constraintCount + 1
  width_eq : tableau.matrix.width = tableau.columnCount + 1
  basis_length : tableau.basis.length = tableau.constraintCount

/-- The column is a unit vector over the constraint rows. -/
def IsUnit (tableau : Tableau) (row column : Nat) : Prop :=
  ∀ other < tableau.constraintCount,
    tableau.entry other column = if other = row then 1 else 0

/-- The basic variables are columns, and the column of each is the unit vector
of its row. -/
structure UnitBasis (tableau : Tableau) : Prop extends Shaped tableau where
  unit : ∀ row < tableau.constraintCount, ∃ column < tableau.columnCount,
    tableau.basis[row]? = some (column : Int) ∧ tableau.IsUnit row column

/-- Besides, every basic variable has the reduced cost zero. -/
structure BasicForm (tableau : Tableau) : Prop extends UnitBasis tableau where
  cost : ∀ {row column : Nat}, tableau.basis[row]? = some (column : Int) →
    tableau.entry tableau.constraintCount column = 0

/-- The right-hand side of a row. -/
def level (tableau : Tableau) (row : Nat) : Rat :=
  tableau.entry row tableau.columnCount

/-- No right-hand side is negative. -/
def Feasible (tableau : Tableau) : Prop :=
  ∀ row < tableau.constraintCount, 0 ≤ tableau.level row

/-- An assignment of the variables satisfies the equations of the constraint
rows. -/
def Solves (tableau : Tableau) (values : Nat → Rat) : Prop :=
  ∀ row < tableau.constraintCount, tableau.matrix.residual values row = 0

/-- The objective that the last row expresses: its right-hand side less the
reduced costs times the variables. -/
def objectiveAt (tableau : Tableau) (values : Nat → Rat) : Rat :=
  tableau.matrix.residual values tableau.constraintCount

/-- The value of a variable when the basic variable of every row has a given
level and all other variables are zero. -/
def basicValue (tableau : Tableau) (levels : Nat → Rat) (index : Int) : Rat :=
  match tableau.rowOf? index with
  | some row => levels row
  | none => 0

/-- The basic variables have the right-hand sides of their rows as values. -/
def basicSolution (tableau : Tableau) (column : Nat) : Rat :=
  tableau.basicValue tableau.level column

theorem residual_eq (tableau : Tableau) (values : Nat → Rat) (row : Nat) :
    tableau.matrix.residual values row =
      tableau.level row - ∑ column ∈ Finset.range tableau.columnCount,
        tableau.entry row column * values column :=
  rfl

variable {tableau : Tableau}

/-! ## Readings -/

theorem Shaped.lt_height (shaped : tableau.Shaped) {row : Nat}
    (inside : row ≤ tableau.constraintCount) : row < tableau.matrix.height := by
  rw [shaped.height_eq]
  exact Nat.lt_succ_of_le inside

theorem Shaped.lt_width (shaped : tableau.Shaped) {column : Nat}
    (inside : column ≤ tableau.columnCount) :
    column < tableau.matrix.width := by
  rw [shaped.width_eq]
  exact Nat.lt_succ_of_le inside

theorem Shaped.width_pos (shaped : tableau.Shaped) :
    0 < tableau.matrix.width :=
  shaped.lt_width (Nat.zero_le _)

theorem Shaped.lt_basis_length (shaped : tableau.Shaped) {row : Nat}
    (inside : row < tableau.constraintCount) : row < tableau.basis.length := by
  rw [shaped.basis_length]
  exact inside

/-- The objective row is the last one. -/
@[simp] theorem Shaped.height_sub_one (shaped : tableau.Shaped) :
    (tableau.matrix.height : Int) - 1 = tableau.constraintCount := by
  rw [shaped.height_eq]
  omega

/-- The right-hand sides are in the last column. -/
@[simp] theorem Shaped.width_sub_one (shaped : tableau.Shaped) :
    (tableau.matrix.width : Int) - 1 = tableau.columnCount := by
  rw [shaped.width_eq]
  omega

@[simp] theorem Shaped.get_eq_ok (shaped : tableau.Shaped) {row column : Nat}
    (rowInside : row ≤ tableau.constraintCount)
    (columnInside : column ≤ tableau.columnCount) :
    tableau.matrix.get row column = .ok (tableau.entry row column) :=
  tableau.matrix.get_eq_ok (shaped.lt_height rowInside)
    (shaped.lt_width columnInside)

@[simp] theorem Shaped.rhs_eq_ok (shaped : tableau.Shaped) {row : Nat}
    (inside : row < tableau.constraintCount) :
    tableau.rhs row = .ok (tableau.level row) := by
  unfold rhs
  rw [shaped.width_sub_one]
  exact shaped.get_eq_ok inside.le le_rfl

@[simp]
theorem Shaped.reducedCost_eq_ok (shaped : tableau.Shaped) {column : Nat}
    (inside : column < tableau.columnCount) :
    tableau.reducedCost column =
      .ok (tableau.entry tableau.constraintCount column) := by
  unfold reducedCost
  rw [shaped.height_sub_one]
  exact shaped.get_eq_ok le_rfl inside.le

@[simp] theorem Shaped.value_eq_ok (shaped : tableau.Shaped) :
    tableau.value = .ok (tableau.level tableau.constraintCount) := by
  unfold value
  rw [shaped.height_sub_one, shaped.width_sub_one]
  exact shaped.get_eq_ok le_rfl le_rfl

theorem rowOf?_eq_some {index : Int} {row : Nat}
    (found : tableau.rowOf? index = some row) :
    tableau.basis[row]? = some index := by
  obtain ⟨inside, equal, _⟩ := List.findIdx?_eq_some_iff_getElem.mp found
  rw [List.getElem?_eq_getElem inside]
  simpa using equal

theorem rowOf?_eq_none {index : Int} :
    tableau.rowOf? index = none ↔ index ∉ tableau.basis := by
  unfold rowOf?
  rw [List.findIdx?_eq_none_iff]
  constructor
  · intro different member
    simpa using different index member
  · intro absent other member
    have unequal : other ≠ index := by
      rintro rfl
      exact absent member
    simpa using unequal

theorem Shaped.row_lt (shaped : tableau.Shaped) {row : Nat} {index : Int}
    (basic : tableau.basis[row]? = some index) :
    row < tableau.constraintCount := by
  obtain ⟨inside, _⟩ := List.getElem?_eq_some_iff.mp basic
  rw [← shaped.basis_length]
  exact inside

@[simp]
theorem Shaped.variableValue_eq_ok (shaped : tableau.Shaped) (index : Int) :
    tableau.variableValue index =
      .ok (tableau.basicValue tableau.level index) := by
  unfold variableValue basicValue
  cases found : tableau.rowOf? index with
  | none => rfl
  | some row => exact shaped.rhs_eq_ok (shaped.row_lt (rowOf?_eq_some found))

/-- The plan lists the values of the variables of the program in the basic
solution. -/
@[simp] theorem Shaped.plan_eq_ok (shaped : tableau.Shaped) :
    tableau.plan =
      .ok (tableau.start.map (tableau.basicValue tableau.level)) :=
  mapM_eq_ok fun index _ => shaped.variableValue_eq_ok index

@[simp] theorem Shaped.snapshot_value_eq_ok (shaped : tableau.Shaped) :
    tableau.snapshot.value = .ok (tableau.level tableau.constraintCount) := by
  have height : tableau.matrix.rows.length = tableau.constraintCount + 1 :=
    shaped.height_eq
  have lastInside : tableau.constraintCount < tableau.matrix.rows.length := by
    omega
  have lastRow : tableau.matrix.rows.getLast? =
      some tableau.matrix.rows[tableau.constraintCount] := by
    rw [List.getLast?_eq_getElem?, height, Nat.add_sub_cancel,
      List.getElem?_eq_getElem lastInside]
  have width : tableau.matrix.rows[tableau.constraintCount].length =
      tableau.columnCount + 1 := by
    rw [tableau.matrix.uniform _ (List.getElem_mem lastInside),
      shaped.width_eq]
  have lastNumber :
      tableau.matrix.rows[tableau.constraintCount].getLast? =
        some (tableau.level tableau.constraintCount) := by
    rw [List.getLast?_eq_getElem?, width, Nat.add_sub_cancel]
    simp [level, entry, RatMatrix.entry, lastInside, width]
  unfold Snapshot.value snapshot
  simp only [lastRow, lastNumber]

/-! ## Unit columns -/

theorem UnitBasis.of_basic (form : tableau.UnitBasis) {row column : Nat}
    (basic : tableau.basis[row]? = some (column : Int)) :
    column < tableau.columnCount ∧ tableau.IsUnit row column := by
  obtain ⟨other, inside, otherBasic, isUnit⟩ :=
    form.unit row (form.row_lt basic)
  have same : (other : Int) = column := by
    rw [otherBasic] at basic
    simpa using basic
  obtain rfl : other = column := by exact_mod_cast same
  exact ⟨inside, isUnit⟩

/-- No variable is basic in two rows. -/
theorem UnitBasis.row_unique (form : tableau.UnitBasis) {row other : Nat}
    {index : Int} (basic : tableau.basis[row]? = some index)
    (otherBasic : tableau.basis[other]? = some index) : row = other := by
  have inside := form.row_lt basic
  obtain ⟨column, _, columnBasic, isUnit⟩ := form.unit row inside
  obtain rfl : (column : Int) = index := by
    rw [columnBasic] at basic
    simpa using basic
  have otherUnit := (form.of_basic otherBasic).2
  have one : tableau.entry row column = 1 := by
    rw [isUnit row inside, if_pos rfl]
  by_contra different
  have zero : tableau.entry row column = 0 := by
    rw [otherUnit row inside, if_neg different]
  exact one_ne_zero (one.symm.trans zero)

/-- Rows are told apart by their basic variables. -/
theorem UnitBasis.row_eq_iff (form : tableau.UnitBasis) {row other : Nat}
    {index otherIndex : Int} (basic : tableau.basis[row]? = some index)
    (otherBasic : tableau.basis[other]? = some otherIndex) :
    row = other ↔ index = otherIndex := by
  constructor
  · rintro rfl
    rw [basic] at otherBasic
    exact Option.some.inj otherBasic
  · rintro rfl
    exact form.row_unique basic otherBasic

theorem UnitBasis.rowOf?_eq_some_iff (form : tableau.UnitBasis) {row : Nat}
    {index : Int} :
    tableau.rowOf? index = some row ↔ tableau.basis[row]? = some index := by
  constructor
  · exact rowOf?_eq_some
  · intro basic
    cases found : tableau.rowOf? index with
    | none =>
        exact absurd (List.mem_of_getElem? basic) (rowOf?_eq_none.mp found)
    | some other =>
        rw [form.row_unique (rowOf?_eq_some found) basic]

end Tableau

end RationalSimplex
