import Mathlib.Tactic.Linarith
import RationalSimplex.Proofs.Tableau.Forms

/-!
# Basic solutions and rays

The basic solution of a tableau satisfies its equations, and its objective is
the value of the tableau.  Raising one variable from zero and lowering the
basic variables by its column keeps the equations satisfied and changes the
objective in proportion to the reduced cost.
-/

namespace RationalSimplex.Tableau

variable {tableau : Tableau}

/-- The basic solution moved along the column of a variable, which gets the
given amount. -/
def raised (tableau : Tableau) (entering : Nat) (amount : Rat) (column : Nat) :
    Rat :=
  tableau.basicValue
      (fun row => tableau.level row - amount * tableau.entry row entering)
      column +
    if column = entering then amount else 0

theorem basicValue_nonneg {levels : Nat → Rat} (shaped : tableau.Shaped)
    (nonnegative : ∀ row < tableau.constraintCount, 0 ≤ levels row)
    (index : Int) : 0 ≤ tableau.basicValue levels index := by
  unfold basicValue
  cases found : tableau.rowOf? index with
  | none => exact le_refl 0
  | some row => exact nonnegative row (shaped.row_lt (rowOf?_eq_some found))

theorem UnitBasis.basicValue_of_basic (form : tableau.UnitBasis)
    {row : Nat} {index : Int} (basic : tableau.basis[row]? = some index)
    (levels : Nat → Rat) : tableau.basicValue levels index = levels row := by
  unfold basicValue
  rw [form.rowOf?_eq_some_iff.mpr basic]

/-- Only the basic variable of a row contributes to the equation of the row. -/
theorem UnitBasis.sum_basicValue (form : tableau.UnitBasis)
    (levels : Nat → Rat) {row : Nat} (inside : row < tableau.constraintCount) :
    ∑ column ∈ Finset.range tableau.columnCount,
      tableau.entry row column * tableau.basicValue levels column =
        levels row := by
  obtain ⟨own, ownInside, ownBasic, ownUnit⟩ := form.unit row inside
  rw [Finset.sum_eq_single own]
  · rw [ownUnit row inside, if_pos rfl, one_mul,
      form.basicValue_of_basic ownBasic]
  · intro column _ different
    unfold basicValue
    cases found : tableau.rowOf? (column : Int) with
    | none => exact mul_zero _
    | some other =>
        have basic := rowOf?_eq_some found
        have otherRow : row ≠ other := by
          rintro rfl
          rw [ownBasic] at basic
          have same : (own : Int) = column := by simpa using basic
          exact different (by exact_mod_cast same.symm)
        rw [(form.of_basic basic).2 row inside, if_neg otherRow, zero_mul]
  · intro outside
    exact absurd (Finset.mem_range.mpr ownInside) outside

/-- A variable has the reduced cost zero, or it is not basic and has the value
zero. -/
theorem BasicForm.cost_mul_basicValue (form : tableau.BasicForm)
    (levels : Nat → Rat) (column : Nat) :
    tableau.entry tableau.constraintCount column *
      tableau.basicValue levels column = 0 := by
  unfold basicValue
  cases found : tableau.rowOf? (column : Int) with
  | none => exact mul_zero _
  | some row => rw [form.cost (rowOf?_eq_some found), zero_mul]

theorem BasicForm.sum_cost_basicValue (form : tableau.BasicForm)
    (levels : Nat → Rat) :
    ∑ column ∈ Finset.range tableau.columnCount,
      tableau.entry tableau.constraintCount column *
        tableau.basicValue levels column = 0 :=
  Finset.sum_eq_zero fun column _ => form.cost_mul_basicValue levels column

/-! ## The basic solution -/

theorem UnitBasis.solves_basicSolution (form : tableau.UnitBasis) :
    tableau.Solves tableau.basicSolution := by
  intro row inside
  rw [residual_eq]
  unfold basicSolution
  rw [form.sum_basicValue tableau.level inside, sub_self]

theorem BasicForm.objectiveAt_basicSolution (form : tableau.BasicForm) :
    tableau.objectiveAt tableau.basicSolution =
      tableau.level tableau.constraintCount := by
  unfold objectiveAt basicSolution
  rw [residual_eq, form.sum_cost_basicValue, sub_zero]

theorem Feasible.basicSolution_nonneg (feasible : tableau.Feasible)
    (shaped : tableau.Shaped) (column : Nat) :
    0 ≤ tableau.basicSolution column :=
  basicValue_nonneg shaped feasible column

/-! ## Raising a variable -/

theorem sum_mul_raised (tableau : Tableau) {entering size : Nat}
    (inside : entering < size) (amount : Rat) (numbers : Nat → Rat) :
    ∑ column ∈ Finset.range size,
      numbers column * tableau.raised entering amount column =
        ∑ column ∈ Finset.range size,
          numbers column * tableau.basicValue
            (fun row =>
              tableau.level row - amount * tableau.entry row entering)
            column +
          numbers entering * amount := by
  unfold raised
  simp only [mul_add, Finset.sum_add_distrib, mul_ite, mul_zero,
    Finset.sum_ite_eq', Finset.mem_range, inside, if_true]

theorem UnitBasis.solves_raised (form : tableau.UnitBasis) {entering : Nat}
    (inside : entering < tableau.columnCount) (amount : Rat) :
    tableau.Solves (tableau.raised entering amount) := by
  intro row rowInside
  rw [residual_eq, tableau.sum_mul_raised inside,
    form.sum_basicValue _ rowInside]
  ring

theorem BasicForm.objectiveAt_raised (form : tableau.BasicForm)
    {entering : Nat} (inside : entering < tableau.columnCount) (amount : Rat) :
    tableau.objectiveAt (tableau.raised entering amount) =
      tableau.level tableau.constraintCount -
        amount * tableau.entry tableau.constraintCount entering := by
  unfold objectiveAt
  rw [residual_eq, tableau.sum_mul_raised inside, form.sum_cost_basicValue]
  ring

/-- A column without positive entries allows its variable to be raised without
bound. -/
theorem Feasible.raised_nonneg (feasible : tableau.Feasible)
    (shaped : tableau.Shaped) {entering : Nat}
    (nonpositive : ∀ row < tableau.constraintCount,
      tableau.entry row entering ≤ 0)
    {amount : Rat} (nonnegative : 0 ≤ amount) (column : Nat) :
    0 ≤ tableau.raised entering amount column := by
  have basic : 0 ≤ tableau.basicValue
      (fun row => tableau.level row - amount * tableau.entry row entering)
      column := by
    apply basicValue_nonneg shaped
    intro row inside
    have lowered := mul_nonpos_of_nonneg_of_nonpos nonnegative
      (nonpositive row inside)
    have level := feasible row inside
    linarith
  unfold raised
  split
  · exact add_nonneg basic nonnegative
  · rw [add_zero]
    exact basic

/-! ## Rays -/

/-- The direction in which the basic solution moves when a variable is
raised. -/
def ray (tableau : Tableau) (entering column : Nat) : Rat :=
  if column = entering then 1
  else tableau.basicValue (fun row => -tableau.entry row entering) column

theorem ray_nonneg (shaped : tableau.Shaped) {entering : Nat}
    (nonpositive : ∀ row < tableau.constraintCount,
      tableau.entry row entering ≤ 0) (column : Nat) :
    0 ≤ tableau.ray entering column := by
  unfold ray
  split
  · exact zero_le_one
  · apply basicValue_nonneg shaped
    intro row inside
    exact neg_nonneg.mpr (nonpositive row inside)

/-- The ray leads from the basic solution to the solution in which the variable
is one. -/
theorem BasicForm.ray_eq (form : tableau.BasicForm) {entering : Nat}
    (negative : tableau.entry tableau.constraintCount entering < 0)
    (column : Nat) :
    tableau.ray entering column =
      tableau.raised entering 1 column - tableau.basicSolution column := by
  unfold ray raised basicSolution basicValue
  cases found : tableau.rowOf? (column : Int) with
  | none =>
      split
      · ring
      · ring
  | some row =>
      have different : column ≠ entering := by
        rintro rfl
        exact negative.ne (form.cost (rowOf?_eq_some found))
      rw [if_neg different, if_neg different]
      ring

end RationalSimplex.Tableau
