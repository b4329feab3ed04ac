import RationalSimplex.Fault.Message
import RationalSimplex.Proofs.Tableau.RatioTest

/-!
# A pivot is one step of Gauss-Jordan elimination

The tableau need not be in basic form.  All new entries are expressed by old
ones, so that the order in which the rows were changed is no longer seen.  The
constraint rows keep their solutions, on which the last row still expresses the
same objective.
-/

namespace RationalSimplex.Tableau

/-- What the tableau before a step of Gauss-Jordan elimination says about the
one after it.  The two are about the same variables, their constraint rows have
the same solutions, and the value less the reduced costs times the variables is
the same for each of these. -/
structure IsEliminated (next tableau : Tableau) (row column : Nat) : Prop
    extends Shaped next, Equivalent next tableau where
  /-- The pivot row is divided by the pivot entry. -/
  pivotRow : ∀ place ≤ tableau.columnCount,
    next.entry row place = tableau.entry row place / tableau.entry row column
  /-- Every other row, also the objective row, loses a multiple of the pivot
  row. -/
  otherRow : ∀ other ≤ tableau.constraintCount, other ≠ row →
    ∀ place ≤ tableau.columnCount,
      next.entry other place = tableau.entry other place -
        tableau.entry other column * tableau.entry row place /
          tableau.entry row column
  /-- The column of the pivot is the unit vector of the row. -/
  entering : next.IsUnit row column ∧
    next.entry next.constraintCount column = 0
  /-- The unit vectors of other rows stay what they are. -/
  staying : ∀ other < tableau.constraintCount, other ≠ row →
    ∀ place < tableau.columnCount, tableau.IsUnit other place →
      tableau.entry tableau.constraintCount place = 0 →
        next.IsUnit other place ∧ next.entry next.constraintCount place = 0
  basis_eq : next.basis = tableau.basis.set row column
  iteration_eq : next.iteration = tableau.iteration + 1

variable {tableau : Tableau} {row column : Nat}

theorem Shaped.isEliminated_pivoted (shaped : tableau.Shaped)
    (rowInside : row < tableau.constraintCount)
    (nonzero : tableau.entry row column ≠ 0) :
    (tableau.pivoted row column).IsEliminated tableau row column where
  toShaped := shaped.pivoted
  toEquivalent := shaped.equivalent_pivoted rowInside nonzero
  pivotRow := by
    intro place _
    simp
  otherRow := by
    intro other _ different place _
    simp [different]
  entering := by
    have different : tableau.constraintCount ≠ row := by omega
    refine ⟨isUnit_pivoted nonzero, ?_⟩
    rw [constraintCount_pivoted, entry_pivoted_self nonzero, if_neg different]
  staying := by
    intro other _ different place _ isUnit cost
    have zero := isUnit.entry_eq_zero rowInside different
    refine ⟨isUnit.pivoted rowInside different, ?_⟩
    rw [constraintCount_pivoted, entry_pivoted_of_zero zero]
    exact cost
  basis_eq := rfl
  iteration_eq := rfl

/-- A pivot on an entry that is not zero is a step of Gauss-Jordan elimination.
On a zero it is refused as a division by zero, and the tableau stays as it
is. -/
theorem pivot_eliminates (checked : tableau.recheck = .ok tableau)
    (rowInside : row < tableau.constraintCount)
    (columnInside : column < tableau.columnCount) :
    (tableau.entry row column ≠ 0 →
      ∃ next, tableau.pivot row column = .ok next ∧
        next.IsEliminated tableau row column) ∧
    (tableau.entry row column = 0 →
      ∃ fault, tableau.pivot row column = .error ⟨fault, tableau⟩ ∧
        fault.kind = .divisionByZero) := by
  have wide : 0 < tableau.matrix.width := by
    unfold columnCount at columnInside
    omega
  have shaped := shaped_of_recheck checked wide
  constructor
  · intro nonzero
    exact ⟨tableau.pivoted row column,
      shaped.pivot_eq_ok rowInside columnInside nonzero,
      shaped.isEliminated_pivoted rowInside nonzero⟩
  · intro zero
    exact ⟨.number .zeroInverse,
      shaped.pivot_eq_error rowInside columnInside zero, rfl⟩

/-- A variable is basic in two rows, and its column is no unit vector; only the
second column is one. -/
def unprepared : Tableau where
  matrix := {
    width := 5
    rows := [[2, 0, 1, -1, 4], [3, 1, 0, 1 / 2, 6], [0, 0, 5, 2, -1],
      [-1, 0, 7, 0, 3]]
    uniform := by decide +kernel }
  objective := ⟨⟨[1, 1]⟩, true⟩
  basis := [2, 1, 2]
  start := [0, 1]
  artificial := [2]
  iteration := 4

/-- A pivot on the third row changes the first two rows and leaves the objective
row alone, which has a zero in the column of the pivot. -/
theorem pivot_eliminates_unprepared :
    (∃ next, unprepared.pivot 2 3 = .ok next ∧ next.basis = [2, 1, 3] ∧
      next.level 0 = 7 / 2 ∧ next.level 1 = 25 / 4 ∧ next.level 3 = 3 ∧
        next.IsUnit 2 3 ∧ next.IsUnit 1 1) ∧
    ∃ fault, unprepared.pivot 2 0 = .error ⟨fault, unprepared⟩ ∧
      fault.kind = .divisionByZero := by
  have checked : unprepared.recheck = .ok unprepared := rfl
  have rowInside : 2 < unprepared.constraintCount := by decide +kernel
  have inside : 3 < unprepared.columnCount := by decide +kernel
  have zeroInside : 0 < unprepared.columnCount := by decide +kernel
  have refused := (pivot_eliminates checked rowInside zeroInside).2
    (by decide +kernel)
  obtain ⟨next, carried, eliminated⟩ :=
    (pivot_eliminates checked rowInside inside).1 (by decide +kernel)
  have columns : next.columnCount = 4 := eliminated.columnCount_eq
  have unit : unprepared.IsUnit 1 1 := by
    unfold IsUnit
    decide +kernel
  have first := eliminated.otherRow 0 (by decide +kernel) (by decide) 4
    (by decide +kernel)
  have second := eliminated.otherRow 1 (by decide +kernel) (by decide) 4
    (by decide +kernel)
  have last := eliminated.otherRow 3 (by decide +kernel) (by decide) 4
    (by decide +kernel)
  have stays := eliminated.staying 1 (by decide +kernel) (by decide) 1
    (by decide +kernel) unit (by decide +kernel)
  refine ⟨⟨next, carried, eliminated.basis_eq, ?_, ?_, ?_,
    eliminated.entering.1, stays.1⟩, refused⟩
  · unfold level
    rw [columns, first]
    decide +kernel
  · unfold level
    rw [columns, second]
    decide +kernel
  · unfold level
    rw [columns, last]
    decide +kernel

end RationalSimplex.Tableau
