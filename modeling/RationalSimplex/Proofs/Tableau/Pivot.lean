import Mathlib.Algebra.Order.Field.Basic
import Mathlib.Algebra.Order.Ring.Rat
import RationalSimplex.Proofs.Matrix.Elimination
import RationalSimplex.Proofs.Tableau.Forms

/-!
# Pivots

A pivot on an entry that is not zero changes a tableau into an equivalent one:
the constraint rows have the same solutions, and the last row expresses the
same objective on them.  It keeps the basic form, and by the ratio test it
keeps the right-hand sides nonnegative.
-/

namespace RationalSimplex.Tableau

/-- The tableau after a pivot. -/
def pivoted (tableau : Tableau) (row column : Nat) : Tableau :=
  { tableau with
    matrix := tableau.matrix.pivot row column
    basis := tableau.basis.set row column
    iteration := tableau.iteration + 1 }

/-- The two tableaux are about the same variables, their constraint rows have
the same solutions, and their last rows express the same objective there. -/
structure Equivalent (tableau source : Tableau) : Prop where
  constraintCount_eq : tableau.constraintCount = source.constraintCount
  columnCount_eq : tableau.columnCount = source.columnCount
  start_eq : tableau.start = source.start
  artificial_eq : tableau.artificial = source.artificial
  objective_eq : tableau.objective = source.objective
  solves_iff : ∀ values, tableau.Solves values ↔ source.Solves values
  objectiveAt_eq : ∀ values, source.Solves values →
    tableau.objectiveAt values = source.objectiveAt values

theorem Equivalent.refl (tableau : Tableau) : tableau.Equivalent tableau where
  constraintCount_eq := rfl
  columnCount_eq := rfl
  start_eq := rfl
  artificial_eq := rfl
  objective_eq := rfl
  solves_iff := fun _ => Iff.rfl
  objectiveAt_eq := fun _ _ => rfl

theorem Equivalent.trans {last middle first : Tableau}
    (later : last.Equivalent middle) (earlier : middle.Equivalent first) :
    last.Equivalent first where
  constraintCount_eq :=
    later.constraintCount_eq.trans earlier.constraintCount_eq
  columnCount_eq := later.columnCount_eq.trans earlier.columnCount_eq
  start_eq := later.start_eq.trans earlier.start_eq
  artificial_eq := later.artificial_eq.trans earlier.artificial_eq
  objective_eq := later.objective_eq.trans earlier.objective_eq
  solves_iff := fun values =>
    (later.solves_iff values).trans (earlier.solves_iff values)
  objectiveAt_eq := fun values solves =>
    (later.objectiveAt_eq values ((earlier.solves_iff values).mpr solves)).trans
      (earlier.objectiveAt_eq values solves)

variable {tableau : Tableau} {row column : Nat}

@[simp] theorem height_pivoted :
    (tableau.pivoted row column).matrix.height = tableau.matrix.height := by
  simp [pivoted]

@[simp] theorem width_pivoted :
    (tableau.pivoted row column).matrix.width = tableau.matrix.width := by
  simp [pivoted]

@[simp] theorem length_basis_pivoted :
    (tableau.pivoted row column).basis.length = tableau.basis.length := by
  simp [pivoted]

@[simp] theorem constraintCount_pivoted :
    (tableau.pivoted row column).constraintCount = tableau.constraintCount := by
  simp [constraintCount]

@[simp] theorem columnCount_pivoted :
    (tableau.pivoted row column).columnCount = tableau.columnCount := by
  simp [columnCount]

@[simp] theorem start_pivoted :
    (tableau.pivoted row column).start = tableau.start :=
  rfl

@[simp] theorem artificial_pivoted :
    (tableau.pivoted row column).artificial = tableau.artificial :=
  rfl

@[simp] theorem objective_pivoted :
    (tableau.pivoted row column).objective = tableau.objective :=
  rfl

@[simp] theorem iteration_pivoted :
    (tableau.pivoted row column).iteration = tableau.iteration + 1 :=
  rfl

@[simp] theorem entry_pivoted (index place : Nat) :
    (tableau.pivoted row column).entry index place =
      if index = row then tableau.entry row place / tableau.entry row column
      else tableau.entry index place -
        tableau.entry index column * tableau.entry row place /
          tableau.entry row column :=
  tableau.matrix.entry_pivot row column index place

@[simp] theorem level_pivoted (index : Nat) :
    (tableau.pivoted row column).level index =
      if index = row then tableau.level row / tableau.entry row column
      else tableau.level index -
        tableau.entry index column * tableau.level row /
          tableau.entry row column := by
  simp [level]

/-- A pivot leaves a column alone that is zero in the pivot row. -/
theorem entry_pivoted_of_zero {place : Nat}
    (zero : tableau.entry row place = 0) (index : Nat) :
    (tableau.pivoted row column).entry index place =
      tableau.entry index place := by
  rw [entry_pivoted, zero]
  split
  · next same => rw [same, zero, zero_div]
  · rw [mul_zero, zero_div, sub_zero]

/-- The column of the pivot becomes a unit vector over all rows. -/
theorem entry_pivoted_self (nonzero : tableau.entry row column ≠ 0)
    (index : Nat) :
    (tableau.pivoted row column).entry index column =
      if index = row then 1 else 0 := by
  rw [entry_pivoted]
  split
  · exact div_self nonzero
  · rw [mul_div_assoc, div_self nonzero, mul_one, sub_self]

/-- A pivot in a row with the right-hand side zero changes no right-hand
side. -/
theorem level_pivoted_of_zero (zero : tableau.level row = 0) (index : Nat) :
    (tableau.pivoted row column).level index = tableau.level index := by
  unfold level
  rw [columnCount_pivoted]
  exact entry_pivoted_of_zero zero index

theorem isUnit_pivoted (nonzero : tableau.entry row column ≠ 0) :
    (tableau.pivoted row column).IsUnit row column :=
  fun other _ => entry_pivoted_self nonzero other

/-- The unit vector of another row is zero in the pivot row. -/
theorem IsUnit.entry_eq_zero {other place : Nat}
    (isUnit : tableau.IsUnit other place)
    (rowInside : row < tableau.constraintCount) (different : other ≠ row) :
    tableau.entry row place = 0 := by
  rw [isUnit row rowInside, if_neg fun equal => different equal.symm]

theorem IsUnit.pivoted {other place : Nat}
    (isUnit : tableau.IsUnit other place)
    (rowInside : row < tableau.constraintCount) (different : other ≠ row) :
    (tableau.pivoted row column).IsUnit other place := by
  intro index inside
  rw [entry_pivoted_of_zero (isUnit.entry_eq_zero rowInside different)]
  exact isUnit index (by simpa using inside)

/-- The variable of the column is basic in the row. -/
@[simp] theorem Shaped.basis_pivoted (shaped : tableau.Shaped)
    (rowInside : row < tableau.constraintCount) (index : Nat) :
    (tableau.pivoted row column).basis[index]? =
      if index = row then some (column : Int) else tableau.basis[index]? := by
  have changed : (tableau.pivoted row column).basis[index]? =
      (tableau.basis.set row (column : Int))[index]? :=
    rfl
  rw [changed]
  split
  · next same =>
      rw [same, List.getElem?_set_self (shaped.lt_basis_length rowInside)]
  · next different =>
      rw [List.getElem?_set_ne fun equal => different equal.symm]

@[simp] theorem Shaped.pivot_eq_ok (shaped : tableau.Shaped)
    (rowInside : row < tableau.constraintCount)
    (columnInside : column < tableau.columnCount)
    (nonzero : tableau.entry row column ≠ 0) :
    tableau.pivot row column = .ok (tableau.pivoted row column) := by
  have basic := shaped.lt_basis_length rowInside
  have place := tableau.matrix.entryIndex_eq_ok
    (shaped.lt_height rowInside.le) (shaped.lt_width columnInside.le)
  have inverse : invert (tableau.matrix.entry row column) =
      .ok (1 / tableau.matrix.entry row column) :=
    if_neg nonzero
  unfold Tableau.pivot
  simp [place, inverse, basic, pivoted]

/-- A pivot on a zero is refused before any row is changed. -/
theorem Shaped.pivot_eq_error (shaped : tableau.Shaped)
    (rowInside : row < tableau.constraintCount)
    (columnInside : column < tableau.columnCount)
    (zero : tableau.entry row column = 0) :
    tableau.pivot row column = .error ⟨.number .zeroInverse, tableau⟩ := by
  have place := tableau.matrix.entryIndex_eq_ok
    (shaped.lt_height rowInside.le) (shaped.lt_width columnInside.le)
  have inverse : invert (tableau.matrix.entry row column) =
      .error .zeroInverse :=
    if_pos zero
  unfold Tableau.pivot
  simp [place, inverse]

theorem Shaped.pivoted (shaped : tableau.Shaped) :
    (tableau.pivoted row column).Shaped where
  height_eq := by simp [shaped.height_eq]
  width_eq := by simp [shaped.width_eq]
  basis_length := by simp [shaped.basis_length]

/-! ## Solutions -/

@[simp] theorem Shaped.residual_pivoted (shaped : tableau.Shaped)
    (values : Nat → Rat) (index : Nat) :
    (tableau.pivoted row column).matrix.residual values index =
      if index = row then
        tableau.matrix.residual values row / tableau.entry row column
      else
        tableau.matrix.residual values index -
          tableau.entry index column * tableau.matrix.residual values row /
            tableau.entry row column := by
  exact RatMatrix.residual_pivot shaped.width_pos row column values index

@[simp] theorem Shaped.solves_pivoted_iff (shaped : tableau.Shaped)
    (rowInside : row < tableau.constraintCount)
    (nonzero : tableau.entry row column ≠ 0) (values : Nat → Rat) :
    (tableau.pivoted row column).Solves values ↔ tableau.Solves values := by
  constructor
  · intro solves
    have pivotRow : tableau.matrix.residual values row = 0 := by
      have equation := solves row (by simpa using rowInside)
      rw [shaped.residual_pivoted, if_pos rfl] at equation
      exact (div_eq_zero_iff.mp equation).resolve_right nonzero
    intro index inside
    have equation := solves index (by simpa using inside)
    rw [shaped.residual_pivoted] at equation
    split at equation
    · next same =>
        rw [same]
        exact pivotRow
    · simpa [pivotRow] using equation
  · intro solves index inside
    have own : tableau.matrix.residual values index = 0 :=
      solves index (by simpa using inside)
    simp [shaped, solves row rowInside, own]

theorem Shaped.equivalent_pivoted (shaped : tableau.Shaped)
    (rowInside : row < tableau.constraintCount)
    (nonzero : tableau.entry row column ≠ 0) :
    (tableau.pivoted row column).Equivalent tableau where
  constraintCount_eq := constraintCount_pivoted
  columnCount_eq := columnCount_pivoted
  start_eq := start_pivoted
  artificial_eq := artificial_pivoted
  objective_eq := objective_pivoted
  solves_iff := shaped.solves_pivoted_iff rowInside nonzero
  objectiveAt_eq := by
    intro values solves
    have different : tableau.constraintCount ≠ row := by omega
    simp [objectiveAt, shaped, different, solves row rowInside]

/-! ## Forms -/

theorem UnitBasis.pivoted (form : tableau.UnitBasis)
    (rowInside : row < tableau.constraintCount)
    (columnInside : column < tableau.columnCount)
    (nonzero : tableau.entry row column ≠ 0) :
    (tableau.pivoted row column).UnitBasis where
  toShaped := form.toShaped.pivoted
  unit := by
    intro index inside
    by_cases same : index = row
    · refine ⟨column, by simpa using columnInside, ?_, ?_⟩
      · simp [form.toShaped, rowInside, same]
      · rw [same]
        exact isUnit_pivoted nonzero
    · obtain ⟨own, ownInside, ownBasic, ownUnit⟩ :=
        form.unit index (by simpa using inside)
      refine ⟨own, by simpa using ownInside, ?_, ?_⟩
      · simpa [form.toShaped, rowInside, same] using ownBasic
      · exact ownUnit.pivoted rowInside same

theorem BasicForm.pivoted (form : tableau.BasicForm)
    (rowInside : row < tableau.constraintCount)
    (columnInside : column < tableau.columnCount)
    (nonzero : tableau.entry row column ≠ 0) :
    (tableau.pivoted row column).BasicForm where
  toUnitBasis := form.toUnitBasis.pivoted rowInside columnInside nonzero
  cost := by
    intro index place basic
    have different : tableau.constraintCount ≠ row := by omega
    rw [form.basis_pivoted rowInside] at basic
    rw [constraintCount_pivoted]
    by_cases same : index = row
    · rw [if_pos same] at basic
      obtain rfl : column = place := by exact_mod_cast Option.some.inj basic
      rw [entry_pivoted_self nonzero, if_neg different]
    · rw [if_neg same] at basic
      have isUnit := (form.of_basic basic).2
      rw [entry_pivoted_of_zero (isUnit.entry_eq_zero rowInside same)]
      exact form.cost basic

/-! ## Right-hand sides -/

/-- A pivot that passes the ratio test leaves no negative right-hand side. -/
theorem Feasible.pivoted (feasible : tableau.Feasible)
    (rowInside : row < tableau.constraintCount)
    (positive : 0 < tableau.entry row column)
    (ratio : ∀ other < tableau.constraintCount,
      0 < tableau.entry other column →
        tableau.level row / tableau.entry row column ≤
          tableau.level other / tableau.entry other column) :
    (tableau.pivoted row column).Feasible := by
  intro index pivotedInside
  have inside : index < tableau.constraintCount := by
    simpa using pivotedInside
  have quotient : 0 ≤ tableau.level row / tableau.entry row column :=
    div_nonneg (feasible row rowInside) positive.le
  rw [level_pivoted]
  split
  · exact quotient
  · rw [mul_div_assoc, sub_nonneg]
    rcases lt_or_ge 0 (tableau.entry index column) with above | below
    · calc
        tableau.entry index column *
            (tableau.level row / tableau.entry row column) ≤
          tableau.entry index column *
            (tableau.level index / tableau.entry index column) :=
          mul_le_mul_of_nonneg_left (ratio index inside above) above.le
        _ = tableau.level index := mul_div_cancel₀ _ above.ne'
    · exact (mul_nonpos_of_nonpos_of_nonneg below quotient).trans
        (feasible index inside)

end RationalSimplex.Tableau
