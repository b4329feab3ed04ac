import RationalSimplex.Proofs.Matrix.Entries

/-!
# Pivoting row by row

A pivot changes the rows of a matrix in place, and the factor of every
subtraction is read from the matrix as the earlier ones have left it.  A row
that has not had its turn still has its old entries, and the scaled row does not
change as long as it is left out; the order of the subtractions is therefore
not seen in the result.  When the row was counted from the end it is not left
out, and nothing is subtracted any more after its own turn.
-/

namespace RationalSimplex.RatMatrix

variable (matrix : RatMatrix) (position : Int) (row column : Nat)

@[simp] theorem height_scaleRow (factor : Rat) :
    (matrix.scaleRow row factor).height = matrix.height := by
  simp [scaleRow]

@[simp] theorem width_scaleRow (factor : Rat) :
    (matrix.scaleRow row factor).width = matrix.width := by
  simp [scaleRow]

@[simp] theorem entry_scaleRow (factor : Rat) (index place : Nat) :
    (matrix.scaleRow row factor).entry index place =
      if index = row then matrix.entry row place * factor
      else matrix.entry index place := by
  unfold scaleRow
  refine entry_mapRows_eq _ _ _ ?_ ?_
  · intro _
    split
    · next same =>
        subst same
        exact getD_map_mul _ factor place
    · rfl
  · intro outside
    split
    · next same => rw [← same, matrix.entry_of_height_le outside, zero_mul]
    · exact matrix.entry_of_height_le outside place

@[simp] theorem height_pivotFromEnd :
    (matrix.pivotFromEnd row column).height = matrix.height := by
  simp [pivotFromEnd]

@[simp] theorem width_pivotFromEnd :
    (matrix.pivotFromEnd row column).width = matrix.width := by
  simp [pivotFromEnd]

@[simp] theorem entry_pivotFromEnd (index place : Nat) :
    (matrix.pivotFromEnd row column).entry index place =
      if index = row then 0
      else if index < row then
        matrix.entry index place -
          matrix.entry index column * matrix.entry row place /
            matrix.entry row column
      else matrix.entry index place := by
  unfold pivotFromEnd
  refine entry_mapRows_eq _ _ _ ?_ ?_
  · intro inside
    split
    · exact List.getD_map _ (0 : Rat) fun _ => 0
    · split
      · exact matrix.getD_subtractScaled_scaled row column inside place
      · rfl
  · intro outside
    simp [matrix.entry_of_height_le outside]

/-! ## One row -/

@[simp] theorem height_clearRow (target : Nat) :
    (clearRow position row column matrix target).height = matrix.height := by
  unfold clearRow
  split <;> simp

@[simp] theorem width_clearRow (target : Nat) :
    (clearRow position row column matrix target).width = matrix.width := by
  unfold clearRow
  split <;> simp

/-- A row with a zero in the pivot column is no exception: subtracting nothing
leaves it as it is. -/
@[simp] theorem entry_clearRow {target : Nat} (inside : target < matrix.height)
    (index place : Nat) :
    (clearRow position row column matrix target).entry index place =
      if index = target ∧ (target : Int) ≠ position then
        matrix.entry target place -
          matrix.entry target column * matrix.entry row place
      else matrix.entry index place := by
  unfold clearRow
  by_cases named : (target : Int) = position
  · simp [named]
  · by_cases zero : matrix.entry target column = 0
    · rw [if_pos (.inr zero), zero, zero_mul, sub_zero]
      split
      · next turn => rw [turn.1]
      · rfl
    · simp [named, zero, inside]

/-! ## All rows -/

/-- The matrix when the rows below a bound have had their turns. -/
def clearedBelow (bound : Nat) : RatMatrix :=
  (List.range bound).foldl (clearRow position row column)
    (matrix.scaleRow row (1 / matrix.entry row column))

@[simp] theorem clearedBelow_zero :
    matrix.clearedBelow position row column 0 =
      matrix.scaleRow row (1 / matrix.entry row column) :=
  rfl

@[simp] theorem clearedBelow_succ (bound : Nat) :
    matrix.clearedBelow position row column (bound + 1) =
      clearRow position row column
        (matrix.clearedBelow position row column bound) bound := by
  simp [clearedBelow, List.range_succ]

theorem eliminate_eq_clearedBelow :
    matrix.eliminate position row column =
      matrix.clearedBelow position row column matrix.height :=
  rfl

@[simp] theorem height_clearedBelow (bound : Nat) :
    (matrix.clearedBelow position row column bound).height =
      matrix.height := by
  induction bound with
  | zero => simp
  | succ bound induction => simp [induction]

@[simp] theorem width_clearedBelow (bound : Nat) :
    (matrix.clearedBelow position row column bound).width = matrix.width := by
  induction bound with
  | zero => simp
  | succ bound induction => simp [induction]

/-- The next row in turn is changed by the entries of the matrix so far. -/
theorem entry_clearedBelow_succ {bound : Nat} (inside : bound < matrix.height)
    (index place : Nat) :
    (matrix.clearedBelow position row column (bound + 1)).entry index place =
      if index = bound ∧ (bound : Int) ≠ position then
        (matrix.clearedBelow position row column bound).entry bound place -
          (matrix.clearedBelow position row column bound).entry bound column *
            (matrix.clearedBelow position row column bound).entry row place
      else
        (matrix.clearedBelow position row column bound).entry index place := by
  simp [inside]

/-- The scaled row stays as it is, and the rows from the bound on still have
their old entries, from which the next factors are read. -/
theorem entry_clearedBelow {bound : Nat} (inside : bound ≤ matrix.height)
    (index place : Nat) :
    (matrix.clearedBelow row row column bound).entry index place =
      if index = row then matrix.entry row place / matrix.entry row column
      else if index < bound then
        matrix.entry index place -
          matrix.entry index column * matrix.entry row place /
            matrix.entry row column
      else matrix.entry index place := by
  induction bound generalizing index place with
  | zero =>
      simp [div_eq_mul_inv]
  | succ bound induction =>
      have earlier := induction (Nat.le_of_succ_le inside)
      rw [matrix.entry_clearedBelow_succ row row column inside]
      by_cases here : index = bound ∧ bound ≠ row
      · obtain ⟨rfl, different⟩ := here
        have turn : index = index ∧ (index : Int) ≠ row :=
          ⟨rfl, by exact_mod_cast different⟩
        -- The row still has its old entries when it gets its turn.
        have own : ∀ place,
            (matrix.clearedBelow row row column index).entry index place =
              matrix.entry index place := by
          intro place
          rw [earlier, if_neg different, if_neg (Nat.lt_irrefl index)]
        have scaled :
            (matrix.clearedBelow row row column index).entry row place =
              matrix.entry row place / matrix.entry row column := by
          rw [earlier, if_pos rfl]
        rw [if_pos turn, own, own, scaled, if_neg different,
          if_pos (Nat.lt_succ_self index), mul_div_assoc]
      · have skipped : ¬(index = bound ∧ (bound : Int) ≠ row) := by
          exact_mod_cast here
        rw [if_neg skipped, earlier]
        by_cases same : index = row
        · rw [if_pos same, if_pos same]
        · have other : index ≠ bound := fun equal =>
            here ⟨equal, fun bad => same (equal.trans bad)⟩
          rw [if_neg same, if_neg same]
          simp only [show index < bound + 1 ↔ index < bound by omega]

/-- Clearing the rows one after the other gives the closed form of the pivot. -/
@[simp] theorem eliminate_natCast :
    matrix.eliminate row row column = matrix.pivot row column := by
  rw [eliminate_eq_clearedBelow]
  apply eq_of_entry_eq
  · simp
  · simp
  · intro index inside place _
    have before : index < matrix.height := by simpa using inside
    simp [matrix.entry_clearedBelow row column le_rfl, before]

/-! ## A row that was counted from the end -/

section FromEnd

variable {position : Int} (negative : position < 0)

include negative

/-- Before the turn of the pivot row, its position makes no difference. -/
theorem clearedBelow_of_le {bound : Nat} (before : bound ≤ row) :
    matrix.clearedBelow position row column bound =
      matrix.clearedBelow row row column bound := by
  induction bound with
  | zero => rfl
  | succ bound induction =>
      have unnamed : (bound : Int) ≠ position := by omega
      have different : (bound : Int) ≠ row := by omega
      rw [clearedBelow_succ, clearedBelow_succ,
        induction (Nat.le_of_succ_le before)]
      simp only [clearRow, unnamed, different]

/-- In its turn the pivot row becomes zero, and multiples of it change nothing
any more. -/
theorem entry_clearedBelow_of_lt (nonzero : matrix.entry row column ≠ 0)
    {bound : Nat} (passed : row < bound) (inside : bound ≤ matrix.height)
    (index place : Nat) :
    (matrix.clearedBelow position row column bound).entry index place =
      (matrix.pivotFromEnd row column).entry index place := by
  induction bound, passed using Nat.le_induction generalizing index place with
  | base =>
      have scaled := matrix.entry_clearedBelow row column
        (Nat.le_of_succ_le inside)
      have unnamed : (row : Int) ≠ position := by omega
      rw [matrix.entry_clearedBelow_succ position row column inside,
        matrix.clearedBelow_of_le row column negative le_rfl,
        entry_pivotFromEnd]
      by_cases same : index = row
      · simp [same, unnamed, scaled, nonzero]
      · simp [same, scaled]
  | succ bound passed induction =>
      have earlier := induction (Nat.le_of_succ_le inside)
      have zero : (matrix.clearedBelow position row column bound).entry
          row place = 0 := by
        simp [earlier]
      rw [matrix.entry_clearedBelow_succ position row column inside, zero,
        mul_zero, sub_zero]
      split
      · next turn => rw [turn.1, earlier]
      · exact earlier index place

theorem eliminate_of_neg (inside : row < matrix.height)
    (nonzero : matrix.entry row column ≠ 0) :
    matrix.eliminate position row column = matrix.pivotFromEnd row column := by
  rw [eliminate_eq_clearedBelow]
  apply eq_of_entry_eq
  · simp
  · simp
  · intro index _ place _
    exact matrix.entry_clearedBelow_of_lt row column negative nonzero inside
      le_rfl index place

end FromEnd

end RationalSimplex.RatMatrix
