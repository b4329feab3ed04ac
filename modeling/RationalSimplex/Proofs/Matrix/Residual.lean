import Mathlib.Algebra.BigOperators.Group.Finset.Basic
import Mathlib.Algebra.BigOperators.Ring.Finset
import RationalSimplex.Proofs.Matrix.Entries

/-!
# Residuals of rows

The last entry of a row is the right-hand side of a linear equation whose
coefficients are the other entries.  The residual of a row at an assignment of
the variables is what the right-hand side exceeds the left-hand side by.  It is
linear in the row, so that row operations act on residuals as they act on
rows.
-/

namespace RationalSimplex

/-- The assignment with one more variable, which gets the value zero at the
given place. -/
def insertZero (column : Nat) (values : Nat → Rat) (place : Nat) : Rat :=
  if place < column then values place
  else if place = column then 0
  else values (place - 1)

namespace RatMatrix

/-- The right-hand side of a row less its left-hand side. -/
def residual (matrix : RatMatrix) (values : Nat → Rat) (row : Nat) : Rat :=
  matrix.entry row (matrix.width - 1) -
    ∑ column ∈ Finset.range (matrix.width - 1),
      matrix.entry row column * values column

/-- A row that is a combination of two rows has the same combination of their
residuals. -/
theorem residual_of_combination {matrix source : RatMatrix}
    (same : matrix.width = source.width) {row first second : Nat}
    {scale factor : Rat}
    (combined : ∀ column < source.width, matrix.entry row column =
      scale * source.entry first column - factor * source.entry second column)
    (positive : 0 < source.width) (values : Nat → Rat) :
    matrix.residual values row =
      scale * source.residual values first -
        factor * source.residual values second := by
  have sums : ∑ column ∈ Finset.range (source.width - 1),
      matrix.entry row column * values column =
        scale * ∑ column ∈ Finset.range (source.width - 1),
          source.entry first column * values column -
        factor * ∑ column ∈ Finset.range (source.width - 1),
          source.entry second column * values column := by
    rw [Finset.mul_sum, Finset.mul_sum, ← Finset.sum_sub_distrib]
    apply Finset.sum_congr rfl
    intro column member
    have inside : column < source.width - 1 := Finset.mem_range.mp member
    rw [combined column (by omega)]
    ring
  unfold residual
  rw [same, sums, combined _ (by omega)]
  ring

theorem residual_congr {matrix source : RatMatrix}
    (same : matrix.width = source.width) {row other : Nat}
    (equal : ∀ column < source.width,
      matrix.entry row column = source.entry other column)
    (positive : 0 < source.width) (values : Nat → Rat) :
    matrix.residual values row = source.residual values other := by
  have combined : ∀ column < source.width, matrix.entry row column =
      1 * source.entry other column - 0 * source.entry other column := by
    intro column inside
    rw [equal column inside]
    ring
  rw [residual_of_combination same combined positive]
  ring

@[simp] theorem residual_subtractRow {matrix : RatMatrix}
    (positive : 0 < matrix.width) {target : Nat}
    (inside : target < matrix.height) (source : Nat) (factor : Rat)
    (values : Nat → Rat) (row : Nat) :
    (matrix.subtractRow target source factor).residual values row =
      if row = target then
        matrix.residual values target -
          factor * matrix.residual values source
      else matrix.residual values row := by
  split
  · next same =>
      subst same
      have combined : ∀ column < matrix.width,
          (matrix.subtractRow row source factor).entry row column =
            1 * matrix.entry row column -
              factor * matrix.entry source column := by
        intro column _
        simp [inside]
      rw [residual_of_combination (matrix.width_subtractRow ..) combined
        positive, one_mul]
  · next different =>
      have equal : ∀ column < matrix.width,
          (matrix.subtractRow target source factor).entry row column =
            matrix.entry row column := by
        intro column _
        simp [inside, different]
      exact residual_congr (matrix.width_subtractRow ..) equal positive values

@[simp]
theorem residual_pivot {matrix : RatMatrix} (positive : 0 < matrix.width)
    (row column : Nat) (values : Nat → Rat) (index : Nat) :
    (matrix.pivot row column).residual values index =
      if index = row then
        matrix.residual values row / matrix.entry row column
      else
        matrix.residual values index -
          matrix.entry index column * matrix.residual values row /
            matrix.entry row column := by
  split
  · next same =>
      subst same
      have combined : ∀ place < matrix.width,
          (matrix.pivot index column).entry index place =
            1 / matrix.entry index column * matrix.entry index place -
              0 * matrix.entry index place := by
        intro place _
        rw [matrix.entry_pivot, if_pos rfl]
        ring
      rw [residual_of_combination (matrix.width_pivot ..) combined positive]
      ring
  · next different =>
      have combined : ∀ place < matrix.width,
          (matrix.pivot row column).entry index place =
            1 * matrix.entry index place -
              matrix.entry index column / matrix.entry row column *
                matrix.entry row place := by
        intro place _
        rw [matrix.entry_pivot, if_neg different]
        ring
      rw [residual_of_combination (matrix.width_pivot ..) combined positive]
      ring

@[simp]
theorem residual_eraseRow {matrix : RatMatrix} (positive : 0 < matrix.width)
    (row : Nat) (values : Nat → Rat) (index : Nat) :
    (matrix.eraseRow row).residual values index =
      matrix.residual values (if index < row then index else index + 1) := by
  have equal : ∀ place < matrix.width, (matrix.eraseRow row).entry index place =
      matrix.entry (if index < row then index else index + 1) place :=
    fun place _ => matrix.entry_eraseRow row index place
  exact residual_congr (matrix.width_eraseRow row) equal positive values

/-- A sum can begin with any of its terms. -/
private theorem sum_range_succ_skip (column : Nat) :
    ∀ {size : Nat}, column ≤ size → ∀ number : Nat → Rat,
    ∑ place ∈ Finset.range (size + 1), number place =
      number column + ∑ place ∈ Finset.range size,
        number (if place < column then place else place + 1) := by
  intro size
  induction size with
  | zero =>
      intro inside number
      obtain rfl : column = 0 := by omega
      simp
  | succ size induction =>
      intro inside number
      rcases Nat.lt_or_ge size column with last | before
      · obtain rfl : column = size + 1 := by omega
        rw [Finset.sum_range_succ, add_comm]
        congr 1
        apply Finset.sum_congr rfl
        intro place member
        rw [if_pos (Finset.mem_range.mp member)]
      · rw [Finset.sum_range_succ, induction before,
          Finset.sum_range_succ _ size, if_neg (by omega), add_assoc]

/-- Dropping a column has the same effect on a residual as giving its variable
the value zero. -/
@[simp] theorem residual_eraseColumn {matrix : RatMatrix} {column : Nat}
    (inside : column < matrix.width - 1) (values : Nat → Rat) (row : Nat) :
    (matrix.eraseColumn column).residual values row =
      matrix.residual (insertZero column values) row := by
  have width : (matrix.eraseColumn column).width = matrix.width - 1 :=
    matrix.width_eraseColumn (by omega)
  obtain ⟨size, sized⟩ : ∃ size, matrix.width - 1 = size + 1 :=
    ⟨matrix.width - 2, by omega⟩
  have kept : ∀ place ∈ Finset.range size,
      matrix.entry row (if place < column then place else place + 1) *
        insertZero column values (if place < column then place else place + 1) =
      (matrix.eraseColumn column).entry row place * values place := by
    intro place _
    rw [matrix.entry_eraseColumn]
    unfold insertZero
    split
    · rfl
    · next behind =>
        rw [if_neg (by omega), if_neg (by omega), Nat.add_sub_cancel]
  have zero : insertZero column values column = 0 := by
    simp [insertZero]
  unfold residual
  rw [width, sized, Nat.add_sub_cancel,
    sum_range_succ_skip column (by omega), zero, mul_zero, zero_add,
    Finset.sum_congr rfl kept, matrix.entry_eraseColumn,
    if_neg (by omega)]

end RatMatrix

end RationalSimplex
