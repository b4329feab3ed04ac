import Mathlib.Data.Finset.Range
import RationalSimplex.Proofs.Linear.Dot
import RationalSimplex.Proofs.Tableau.Pivot
import RationalSimplex.Simplex.Solve

/-!
# Objective rows

A change of the objective row alone keeps the solutions, the right-hand sides
of the constraints and their unit columns.  Subtracting multiples of constraint
rows keeps the objective that the row expresses on the solutions as well, and
entering an objective makes the row express it.
-/

namespace RationalSimplex

namespace Tableau

/-- The tableaux differ in their objective rows only. -/
structure SameConstraints (tableau source : Tableau) : Prop where
  height_eq : tableau.matrix.height = source.matrix.height
  width_eq : tableau.matrix.width = source.matrix.width
  basis_eq : tableau.basis = source.basis
  start_eq : tableau.start = source.start
  artificial_eq : tableau.artificial = source.artificial
  objective_eq : tableau.objective = source.objective
  entry_eq : ∀ row < source.constraintCount, ∀ column,
    tableau.entry row column = source.entry row column

namespace SameConstraints

variable {tableau source : Tableau}

theorem refl (tableau : Tableau) : tableau.SameConstraints tableau where
  height_eq := rfl
  width_eq := rfl
  basis_eq := rfl
  start_eq := rfl
  artificial_eq := rfl
  objective_eq := rfl
  entry_eq := fun _ _ _ => rfl

theorem constraintCount_eq (same : tableau.SameConstraints source) :
    tableau.constraintCount = source.constraintCount := by
  unfold constraintCount
  rw [same.height_eq]

theorem columnCount_eq (same : tableau.SameConstraints source) :
    tableau.columnCount = source.columnCount := by
  unfold columnCount
  rw [same.width_eq]

theorem trans {last middle first : Tableau}
    (later : last.SameConstraints middle)
    (earlier : middle.SameConstraints first) :
    last.SameConstraints first where
  height_eq := later.height_eq.trans earlier.height_eq
  width_eq := later.width_eq.trans earlier.width_eq
  basis_eq := later.basis_eq.trans earlier.basis_eq
  start_eq := later.start_eq.trans earlier.start_eq
  artificial_eq := later.artificial_eq.trans earlier.artificial_eq
  objective_eq := later.objective_eq.trans earlier.objective_eq
  entry_eq := by
    intro row inside column
    have middleInside : row < middle.constraintCount := by
      rw [earlier.constraintCount_eq]
      exact inside
    rw [later.entry_eq row middleInside, earlier.entry_eq row inside]

theorem level_eq (same : tableau.SameConstraints source) {row : Nat}
    (inside : row < source.constraintCount) :
    tableau.level row = source.level row := by
  unfold level
  rw [same.columnCount_eq, same.entry_eq row inside]

theorem residual_eq (same : tableau.SameConstraints source)
    (values : Nat → Rat) {row : Nat} (inside : row < source.constraintCount) :
    tableau.matrix.residual values row = source.matrix.residual values row := by
  rw [Tableau.residual_eq, Tableau.residual_eq, same.level_eq inside,
    same.columnCount_eq]
  congr 1
  apply Finset.sum_congr rfl
  intro column _
  rw [same.entry_eq row inside]

theorem solves_iff (same : tableau.SameConstraints source)
    (values : Nat → Rat) : tableau.Solves values ↔ source.Solves values := by
  unfold Solves
  rw [same.constraintCount_eq]
  constructor
  · intro solves row inside
    rw [← same.residual_eq values inside]
    exact solves row inside
  · intro solves row inside
    rw [same.residual_eq values inside]
    exact solves row inside

theorem feasible (same : tableau.SameConstraints source)
    (feasible : source.Feasible) : tableau.Feasible := by
  intro row inside
  rw [same.constraintCount_eq] at inside
  rw [same.level_eq inside]
  exact feasible row inside

theorem shaped (same : tableau.SameConstraints source)
    (shaped : source.Shaped) : tableau.Shaped where
  height_eq := by
    rw [same.height_eq, same.constraintCount_eq, shaped.height_eq]
  width_eq := by
    rw [same.width_eq, same.columnCount_eq, shaped.width_eq]
  basis_length := by
    rw [same.basis_eq, same.constraintCount_eq, shaped.basis_length]

theorem unitBasis (same : tableau.SameConstraints source)
    (form : source.UnitBasis) : tableau.UnitBasis where
  toShaped := same.shaped form.toShaped
  unit := by
    intro row inside
    rw [same.constraintCount_eq] at inside
    obtain ⟨column, columnInside, basic, isUnit⟩ := form.unit row inside
    refine ⟨column, ?_, ?_, ?_⟩
    · rw [same.columnCount_eq]
      exact columnInside
    · rw [same.basis_eq]
      exact basic
    · intro other otherInside
      rw [same.constraintCount_eq] at otherInside
      rw [same.entry_eq other otherInside]
      exact isUnit other otherInside

end SameConstraints

/-- Besides, the objective rows express the same objective. -/
structure Repriced (tableau source : Tableau) : Prop
    extends SameConstraints tableau source where
  objectiveAt_eq : ∀ values, source.Solves values →
    tableau.objectiveAt values = source.objectiveAt values

namespace Repriced

theorem refl (tableau : Tableau) : tableau.Repriced tableau where
  toSameConstraints := .refl tableau
  objectiveAt_eq := fun _ _ => rfl

theorem trans {last middle first : Tableau} (later : last.Repriced middle)
    (earlier : middle.Repriced first) : last.Repriced first where
  toSameConstraints :=
    later.toSameConstraints.trans earlier.toSameConstraints
  objectiveAt_eq := by
    intro values solves
    rw [later.objectiveAt_eq values ((earlier.solves_iff values).mpr solves),
      earlier.objectiveAt_eq values solves]

theorem equivalent {tableau source : Tableau}
    (repriced : tableau.Repriced source) : tableau.Equivalent source where
  constraintCount_eq := repriced.constraintCount_eq
  columnCount_eq := repriced.columnCount_eq
  start_eq := repriced.start_eq
  artificial_eq := repriced.artificial_eq
  objective_eq := repriced.objective_eq
  solves_iff := repriced.solves_iff
  objectiveAt_eq := repriced.objectiveAt_eq

end Repriced

@[simp]
theorem Shaped.rowIndex_eq_ok {tableau : Tableau} (shaped : tableau.Shaped)
    {row : Nat} (inside : row ≤ tableau.constraintCount) :
    tableau.matrix.rowIndex row = .ok row := by
  unfold RatMatrix.rowIndex
  rw [resolveIndex?_natCast (shaped.lt_height inside)]

/-! ## Subtracting a row -/

/-- The tableau with a multiple of a row subtracted from the objective row. -/
def pricedOut (tableau : Tableau) (row : Nat) (factor : Rat) : Tableau :=
  { tableau with
    matrix := tableau.matrix.subtractRow tableau.constraintCount row factor }

section PricedOut

variable {tableau : Tableau} {row : Nat} {factor : Rat}

@[simp] theorem height_pricedOut :
    (tableau.pricedOut row factor).matrix.height = tableau.matrix.height := by
  simp [pricedOut]

@[simp] theorem width_pricedOut :
    (tableau.pricedOut row factor).matrix.width = tableau.matrix.width := by
  simp [pricedOut]

@[simp] theorem constraintCount_pricedOut :
    (tableau.pricedOut row factor).constraintCount =
      tableau.constraintCount := by
  simp [constraintCount]

@[simp] theorem Shaped.priceOut_eq_ok (shaped : tableau.Shaped)
    (inside : row < tableau.constraintCount) (nonzero : factor ≠ 0) :
    tableau.priceOut row factor = .ok (tableau.pricedOut row factor) := by
  unfold priceOut RatMatrix.subtractRowAt
  rw [shaped.height_sub_one, if_neg nonzero, shaped.rowIndex_eq_ok le_rfl,
    shaped.rowIndex_eq_ok inside.le]
  rfl

@[simp]
theorem Shaped.entry_pricedOut (shaped : tableau.Shaped) (index column : Nat) :
    (tableau.pricedOut row factor).entry index column =
      if index = tableau.constraintCount then
        tableau.entry tableau.constraintCount column -
          factor * tableau.entry row column
      else tableau.entry index column := by
  exact RatMatrix.entry_subtractRow _ (shaped.lt_height le_rfl) ..

theorem Shaped.repriced_pricedOut (shaped : tableau.Shaped)
    (inside : row < tableau.constraintCount) :
    (tableau.pricedOut row factor).Repriced tableau where
  height_eq := height_pricedOut
  width_eq := width_pricedOut
  basis_eq := rfl
  start_eq := rfl
  artificial_eq := rfl
  objective_eq := rfl
  entry_eq := by
    intro index indexInside column
    simp [shaped, indexInside.ne]
  objectiveAt_eq := by
    intro values solves
    have subtracted : (tableau.pricedOut row factor).matrix.residual values
        tableau.constraintCount =
          tableau.matrix.residual values tableau.constraintCount -
            factor * tableau.matrix.residual values row := by
      have residual := RatMatrix.residual_subtractRow shaped.width_pos
        (shaped.lt_height le_rfl) row factor values tableau.constraintCount
      rwa [if_pos rfl] at residual
    simp [objectiveAt, subtracted, solves row inside]

/-- Of the basic variables, only that of the subtracted row gets another
reduced cost. -/
theorem UnitBasis.cost_pricedOut (form : tableau.UnitBasis)
    (inside : row < tableau.constraintCount) {other column : Nat}
    (basic : tableau.basis[other]? = some (column : Int)) :
    (tableau.pricedOut row factor).entry tableau.constraintCount column =
      tableau.entry tableau.constraintCount column -
        if row = other then factor else 0 := by
  simp [form.toShaped, (form.of_basic basic).2 row inside]

end PricedOut

/-! ## Entering an objective -/

/-- The tableau with the negated coefficients of its objective in the last
row. -/
def entered (tableau : Tableau) : Tableau :=
  { tableau with
    matrix := tableau.matrix.fillRow tableau.constraintCount fun column =>
      -(tableau.objective.expression.coefficients.getD column 0) }

section Entered

variable {tableau : Tableau}

@[simp] theorem height_entered :
    tableau.entered.matrix.height = tableau.matrix.height := by
  simp [entered]

@[simp] theorem width_entered :
    tableau.entered.matrix.width = tableau.matrix.width := by
  simp [entered]

@[simp] theorem Shaped.enterObjective_eq_ok (shaped : tableau.Shaped) :
    tableau.enterObjective = .ok tableau.entered := by
  unfold enterObjective
  rw [if_neg shaped.width_pos.ne', shaped.height_sub_one,
    shaped.rowIndex_eq_ok le_rfl]
  rfl

@[simp]
theorem Shaped.entry_entered (shaped : tableau.Shaped) {index column : Nat}
    (inside : column ≤ tableau.columnCount) :
    tableau.entered.entry index column =
      if index = tableau.constraintCount then
        -(tableau.objective.expression.coefficients.getD column 0)
      else tableau.entry index column := by
  exact RatMatrix.entry_fillRow _ (shaped.lt_height le_rfl) _
    (shaped.lt_width inside)

theorem Shaped.sameConstraints_entered (shaped : tableau.Shaped) :
    tableau.entered.SameConstraints tableau where
  height_eq := height_entered
  width_eq := width_entered
  basis_eq := rfl
  start_eq := rfl
  artificial_eq := rfl
  objective_eq := rfl
  entry_eq := by
    intro row inside column
    rcases Nat.lt_or_ge tableau.columnCount column with outside | inWidth
    · have wide : tableau.matrix.width ≤ column := by
        rw [shaped.width_eq]
        omega
      have enteredWide : tableau.entered.matrix.width ≤ column := by
        simpa using wide
      exact (RatMatrix.entry_of_width_le _ _ enteredWide).trans
        (RatMatrix.entry_of_width_le _ _ wide).symm
    · simp [shaped, inWidth, inside.ne]

/-- An objective over no more variables than there are columns is expressed by
the row that it is entered into. -/
theorem Shaped.objectiveAt_entered (shaped : tableau.Shaped)
    (fits : tableau.objective.expression.width ≤ tableau.columnCount)
    (values : Nat → Rat) :
    tableau.entered.objectiveAt values =
      dot tableau.objective.expression.coefficients
        ((List.range tableau.columnCount).map values) := by
  have same := shaped.sameConstraints_entered
  have last : tableau.entered.level tableau.constraintCount = 0 := by
    unfold level
    rw [same.columnCount_eq, shaped.entry_entered le_rfl, if_pos rfl,
      List.getD_eq_default _ _ fits, neg_zero]
  have costs : ∑ column ∈ Finset.range tableau.columnCount,
      tableau.entered.entry tableau.constraintCount column * values column =
        -∑ column ∈ Finset.range tableau.columnCount,
          tableau.objective.expression.coefficients.getD column 0 *
            values column := by
    rw [← Finset.sum_neg_distrib]
    apply Finset.sum_congr rfl
    intro column member
    simp [shaped, (Finset.mem_range.mp member).le]
  unfold objectiveAt
  rw [same.constraintCount_eq, residual_eq, same.columnCount_eq, last, costs,
    dot_map_range fits]
  ring

end Entered

end Tableau

end RationalSimplex
