import Mathlib.Data.Finset.Max
import RationalSimplex.Proofs.Tableau.Pivot

/-!
# The ratio test

The readings behind the choice of a pivot succeed in a shaped tableau, and they
find the pivots that the ratio test admits.  A column with a negative reduced
cost and a positive entry always has one.  When none is left, such a column
has no positive entry at all.  The test is exact: in a feasible tableau it
admits a pivot in such a column when and only when the tableau stays feasible.
-/

namespace RationalSimplex.Tableau

/-- The pivot keeps the right-hand sides nonnegative and does not lower the
value: the reduced cost is negative, the entry is positive, and no ratio in the
column is smaller. -/
def Admissible (tableau : Tableau) (row column : Nat) : Prop :=
  tableau.entry tableau.constraintCount column < 0 ∧
    0 < tableau.entry row column ∧
    ∀ other < tableau.constraintCount, 0 < tableau.entry other column →
      tableau.level row / tableau.entry row column ≤
        tableau.level other / tableau.entry other column

instance (tableau : Tableau) (row column : Nat) :
    Decidable (tableau.Admissible row column) := by
  unfold Admissible
  infer_instance

/-- The columns with a negative reduced cost. -/
def improving (tableau : Tableau) : List Nat :=
  (List.range tableau.columnCount).filter fun column =>
    decide (tableau.entry tableau.constraintCount column < 0)

/-- The admissible pivots, row by row. -/
def candidates (tableau : Tableau) : List Pivot :=
  ((List.range tableau.constraintCount).flatMap fun row =>
    tableau.improving.map fun column => (row, column)).filter fun pivot =>
      decide (tableau.Admissible pivot.1 pivot.2)

variable {tableau : Tableau}

@[simp] theorem mem_improving_iff {column : Nat} :
    column ∈ tableau.improving ↔ column < tableau.columnCount ∧
      tableau.entry tableau.constraintCount column < 0 := by
  simp [improving]

@[simp] theorem mem_candidates_iff {pivot : Pivot} :
    pivot ∈ tableau.candidates ↔ pivot.1 < tableau.constraintCount ∧
      pivot.2 < tableau.columnCount ∧
        tableau.Admissible pivot.1 pivot.2 := by
  obtain ⟨row, column⟩ := pivot
  simp only [candidates, List.mem_filter, List.mem_flatMap, List.mem_range,
    List.mem_map, mem_improving_iff, Prod.mk.injEq, decide_eq_true_eq]
  constructor
  · rintro ⟨⟨other, inside, place, ⟨placeInside, _⟩, rfl, rfl⟩, admissible⟩
    exact ⟨inside, placeInside, admissible⟩
  · rintro ⟨rowInside, columnInside, admissible⟩
    exact ⟨⟨row, rowInside, column, ⟨columnInside, admissible.1⟩, rfl, rfl⟩,
      admissible⟩

/-! ## Readings -/

theorem divide_eq_ok {dividend divisor : Rat} (nonzero : divisor ≠ 0) :
    divide dividend divisor = .ok (dividend / divisor) :=
  if_neg nonzero

@[simp] theorem Shaped.improvingColumns_eq_ok (shaped : tableau.Shaped) :
    tableau.improvingColumns = .ok tableau.improving := by
  apply filterM_eq_ok
  intro column member
  have inside : column < tableau.columnCount := List.mem_range.mp member
  unfold improves
  rw [shaped.reducedCost_eq_ok inside]
  rfl

theorem Shaped.allowsRatio_eq_ok (shaped : tableau.Shaped)
    {row column : Nat} (rowInside : row < tableau.constraintCount)
    (columnInside : column < tableau.columnCount) (ratio : Rat) :
    tableau.allowsRatio column ratio row =
      .ok (decide (0 < tableau.entry row column →
        ratio ≤ tableau.level row / tableau.entry row column)) := by
  unfold allowsRatio
  rw [shaped.get_eq_ok rowInside.le columnInside.le]
  simp only [ok_bind]
  split
  · next positive =>
      rw [shaped.rhs_eq_ok rowInside]
      simp [divide_eq_ok positive.ne', positive]
  · next nonpositive =>
      simp [nonpositive]

@[simp] theorem Shaped.admits_eq_ok (shaped : tableau.Shaped) {row column : Nat}
    (rowInside : row < tableau.constraintCount)
    (columnInside : column < tableau.columnCount) :
    tableau.admits row column =
      .ok (decide (tableau.Admissible row column)) := by
  unfold admits
  rw [shaped.reducedCost_eq_ok columnInside]
  simp only [bind, Except.bind]
  split
  · next negative =>
      rw [shaped.get_eq_ok rowInside.le columnInside.le]
      simp only
      split
      · next positive =>
          have tested : (List.range tableau.constraintCount).allM
              (tableau.allowsRatio column
                (tableau.level row / tableau.entry row column)) =
              .ok ((List.range tableau.constraintCount).all fun other =>
                decide (0 < tableau.entry other column →
                  tableau.level row / tableau.entry row column ≤
                    tableau.level other / tableau.entry other column)) := by
            apply allM_eq_ok
            intro other member
            exact shaped.allowsRatio_eq_ok (List.mem_range.mp member)
              columnInside _
          rw [shaped.rhs_eq_ok rowInside]
          simp only [divide_eq_ok positive.ne', mapError_ok, tested]
          congr 1
          apply Bool.eq_iff_iff.mpr
          simp only [List.all_eq_true, List.mem_range, decide_eq_true_eq]
          exact ⟨fun least => ⟨negative, positive, least⟩,
            fun admissible => admissible.2.2⟩
      · next nonpositive =>
          have refused : ¬tableau.Admissible row column :=
            fun admissible => nonpositive admissible.2.1
          simp [refused]
  · next nonnegative =>
      have refused : ¬tableau.Admissible row column :=
        fun admissible => nonnegative admissible.1
      simp [refused]

@[simp] theorem Shaped.admissiblePivots_eq_ok (shaped : tableau.Shaped) :
    tableau.admissiblePivots = .ok tableau.candidates := by
  unfold admissiblePivots
  rw [shaped.improvingColumns_eq_ok]
  apply filterM_eq_ok
  intro pivot member
  simp only [List.mem_flatMap, List.mem_range, List.mem_map] at member
  obtain ⟨row, rowInside, column, improves, rfl⟩ := member
  exact shaped.admits_eq_ok rowInside (mem_improving_iff.mp improves).1

/-! ## Existence -/

/-- A row with the least ratio of a column exists as soon as the column has a
positive entry. -/
theorem exists_admissible {column : Nat}
    (negative : tableau.entry tableau.constraintCount column < 0)
    (positive : ∃ row < tableau.constraintCount,
      0 < tableau.entry row column) :
    ∃ row < tableau.constraintCount, tableau.Admissible row column := by
  have nonempty : ((Finset.range tableau.constraintCount).filter fun row =>
      0 < tableau.entry row column).Nonempty := by
    obtain ⟨row, inside, above⟩ := positive
    exact ⟨row, Finset.mem_filter.mpr ⟨Finset.mem_range.mpr inside, above⟩⟩
  obtain ⟨row, member, least⟩ := Finset.exists_min_image _
    (fun row => tableau.level row / tableau.entry row column) nonempty
  obtain ⟨inside, above⟩ := Finset.mem_filter.mp member
  refine ⟨row, Finset.mem_range.mp inside, negative, above, ?_⟩
  intro other otherInside otherAbove
  exact least other
    (Finset.mem_filter.mpr ⟨Finset.mem_range.mpr otherInside, otherAbove⟩)

/-- When no pivot is admissible, a column with a negative reduced cost has no
positive entry. -/
theorem entry_nonpos_of_candidates_eq_nil (none : tableau.candidates = [])
    {column : Nat} (inside : column < tableau.columnCount)
    (negative : tableau.entry tableau.constraintCount column < 0)
    {row : Nat} (rowInside : row < tableau.constraintCount) :
    tableau.entry row column ≤ 0 := by
  by_contra above
  obtain ⟨other, otherInside, admissible⟩ :=
    exists_admissible negative ⟨row, rowInside, not_le.mp above⟩
  have member : (other, column) ∈ tableau.candidates :=
    mem_candidates_iff.mpr ⟨otherInside, inside, admissible⟩
  rw [none] at member
  exact List.not_mem_nil member

/-! ## Exactness -/

/-- No ratio is smaller than that of a pivot which leaves no negative
right-hand side. -/
theorem ratio_le_of_feasible_pivoted {row column : Nat}
    (feasible : (tableau.pivoted row column).Feasible) {other : Nat}
    (inside : other < tableau.constraintCount)
    (above : 0 < tableau.entry other column) :
    tableau.level row / tableau.entry row column ≤
      tableau.level other / tableau.entry other column := by
  by_cases same : other = row
  · rw [same]
  · have left := feasible other (by simpa using inside)
    rw [level_pivoted, if_neg same, mul_div_assoc, sub_nonneg] at left
    rw [le_div_iff₀ above, mul_comm]
    exact left

/-- On a positive entry of an improving column the ratio test asks for no more
than nonnegative right-hand sides after the pivot. -/
theorem Feasible.admissible_iff (feasible : tableau.Feasible)
    {row column : Nat} (rowInside : row < tableau.constraintCount)
    (negative : tableau.entry tableau.constraintCount column < 0)
    (positive : 0 < tableau.entry row column) :
    tableau.Admissible row column ↔
      (tableau.pivoted row column).Feasible := by
  constructor
  · intro admissible
    exact feasible.pivoted rowInside positive admissible.2.2
  · intro kept
    exact ⟨negative, positive, fun _ inside above =>
      ratio_le_of_feasible_pivoted kept inside above⟩

/-- The order in which a matrix is read: row by row, and from the left to the
right in a row. -/
def RowMajor (first second : Pivot) : Prop :=
  first.1 < second.1 ∨ first.1 = second.1 ∧ first.2 < second.2

theorem pairwise_candidates (tableau : Tableau) :
    tableau.candidates.Pairwise RowMajor := by
  have columns : tableau.improving.Pairwise (· < ·) :=
    List.pairwise_lt_range.filter _
  apply List.Pairwise.filter
  rw [List.pairwise_flatMap]
  constructor
  · intro row _
    rw [List.pairwise_map]
    exact columns.imp fun less => .inr ⟨rfl, less⟩
  · apply List.pairwise_lt_range.imp
    intro row later less first firstListed second secondListed
    obtain ⟨_, _, rfl⟩ := List.mem_map.mp firstListed
    obtain ⟨_, _, rfl⟩ := List.mem_map.mp secondListed
    exact .inl less

/-- A column has an admissible pivot exactly when its reduced cost is negative
and it has a positive entry. -/
theorem exists_candidate_iff {column : Nat}
    (inside : column < tableau.columnCount) :
    (∃ row, (row, column) ∈ tableau.candidates) ↔
      tableau.entry tableau.constraintCount column < 0 ∧
        ∃ row < tableau.constraintCount, 0 < tableau.entry row column := by
  constructor
  · rintro ⟨row, offered⟩
    obtain ⟨rowInside, _, negative, positive, _⟩ :=
      mem_candidates_iff.mp offered
    exact ⟨negative, row, rowInside, positive⟩
  · rintro ⟨negative, positive⟩
    obtain ⟨row, rowInside, admissible⟩ := exists_admissible negative positive
    exact ⟨row, mem_candidates_iff.mpr ⟨rowInside, inside, admissible⟩⟩

/-- A tableau whose parts fit together has a place for everything, unless its
matrix has no columns at all. -/
theorem shaped_of_recheck (checked : tableau.recheck = .ok tableau)
    (wide : 0 < tableau.matrix.width) : tableau.Shaped := by
  unfold recheck make at checked
  split at checked
  · next fits =>
      have height : tableau.matrix.height = tableau.constraintCount + 1 := by
        unfold constraintCount
        omega
      exact {
        height_eq := height
        width_eq := (Nat.succ_pred_eq_of_pos wide).symm
        basis_length := by omega }
  · cases checked

theorem admissiblePivots_of_columnCount (none : tableau.columnCount = 0) :
    tableau.admissiblePivots = .ok [] := by
  have columns : tableau.improvingColumns = .ok [] := by
    unfold improvingColumns
    rw [none]
    rfl
  have pairs : ((List.range tableau.constraintCount).flatMap fun row =>
      ([] : List Nat).map fun column => (row, column)) = [] := by
    simp
  unfold admissiblePivots
  rw [columns]
  simp only [ok_bind, pairs]
  rfl

/-- In a feasible tableau a positive entry of an improving column passes the
ratio test exactly when the pivot on it keeps the tableau feasible.  In every
tableau the list of the pivots that pass is complete, in order, and has one in
each improving column with a positive entry. -/
theorem ratioTest_exact (checked : tableau.recheck = .ok tableau) :
    (tableau.Feasible → ∀ row < tableau.constraintCount,
      ∀ column < tableau.columnCount,
        tableau.entry tableau.constraintCount column < 0 →
        0 < tableau.entry row column →
          ∃ next, tableau.pivot row column = .ok next ∧
            (tableau.admits row column = .ok true ↔ next.Feasible)) ∧
    ∃ pivots, tableau.admissiblePivots = .ok pivots ∧
      pivots.Pairwise RowMajor ∧
      (∀ pivot ∈ pivots, pivot.1 < tableau.constraintCount ∧
        pivot.2 < tableau.columnCount) ∧
      (∀ row < tableau.constraintCount, ∀ column < tableau.columnCount,
        tableau.admits row column = .ok (decide ((row, column) ∈ pivots))) ∧
      ∀ column < tableau.columnCount,
        (∃ row, (row, column) ∈ pivots) ↔
          tableau.entry tableau.constraintCount column < 0 ∧
            ∃ row < tableau.constraintCount,
              0 < tableau.entry row column := by
  rcases Nat.eq_zero_or_pos tableau.matrix.width with narrow | wide
  · have none : tableau.columnCount = 0 := by
      rw [columnCount, narrow]
    rw [none]
    exact ⟨fun _ _ _ _ inside => absurd inside (Nat.not_lt_zero _), [],
      admissiblePivots_of_columnCount none, .nil, List.forall_mem_nil _,
      fun _ _ _ inside => absurd inside (Nat.not_lt_zero _),
      fun _ inside => absurd inside (Nat.not_lt_zero _)⟩
  have shaped := shaped_of_recheck checked wide
  constructor
  · intro feasible row rowInside column columnInside negative positive
    refine ⟨_, shaped.pivot_eq_ok rowInside columnInside positive.ne', ?_⟩
    rw [shaped.admits_eq_ok rowInside columnInside,
      ← feasible.admissible_iff rowInside negative positive]
    simp
  · refine ⟨_, shaped.admissiblePivots_eq_ok, tableau.pairwise_candidates,
      ?_, ?_, fun _ inside => exists_candidate_iff inside⟩
    · intro pivot offered
      obtain ⟨rowInside, columnInside, _⟩ := mem_candidates_iff.mp offered
      exact ⟨rowInside, columnInside⟩
    · intro row rowInside column columnInside
      rw [shaped.admits_eq_ok rowInside columnInside]
      simp [rowInside, columnInside]

/-- Two rows share the least ratio of the first column, and a row with the
right-hand side zero has the least ratio of the second. -/
def sharedRatios : Tableau where
  matrix := {
    width := 6
    rows := [[1, 2, 1, 0, 0, 4], [2, 1, 0, 1, 0, 8], [-1, 1, 0, 0, 1, 0],
      [-3, -2, 0, 0, 0, 0]]
    uniform := by decide +kernel }
  objective := ⟨⟨[3, 2]⟩, true⟩
  basis := [2, 3, 4]
  start := [0, 1]
  artificial := []
  iteration := 0

/-- Both rows of the least ratio are admitted and keep the right-hand sides, and
another row is refused and does not. -/
theorem ratioTest_exact_sharedRatios :
    sharedRatios.admissiblePivots = .ok [(0, 0), (1, 0), (2, 1)] ∧
      (∃ next, sharedRatios.pivot 1 0 = .ok next ∧ next.Feasible) ∧
      (∃ next, sharedRatios.pivot 0 1 = .ok next ∧ ¬next.Feasible) ∧
      sharedRatios.admits 0 1 = .ok false := by
  have feasible : sharedRatios.Feasible := by
    unfold Feasible
    decide +kernel
  have computed : sharedRatios.admissiblePivots.toOption =
      some [(0, 0), (1, 0), (2, 1)] := by
    decide +kernel
  have checked : sharedRatios.recheck = .ok sharedRatios := rfl
  obtain ⟨keeps, pivots, found, _, _, tested, _⟩ := ratioTest_exact checked
  have listed : pivots = [(0, 0), (1, 0), (2, 1)] := by
    rw [found] at computed
    exact Option.some.inj computed
  subst listed
  have first := tested 1 (by decide +kernel) 0 (by decide +kernel)
  have second := tested 0 (by decide +kernel) 1 (by decide +kernel)
  obtain ⟨kept, carried, same⟩ := keeps feasible 1 (by decide +kernel) 0
    (by decide +kernel) (by decide +kernel) (by decide +kernel)
  obtain ⟨lost, carriedToo, sameToo⟩ := keeps feasible 0 (by decide +kernel) 1
    (by decide +kernel) (by decide +kernel) (by decide +kernel)
  refine ⟨found, ⟨kept, carried, same.mp first⟩,
    ⟨lost, carriedToo, fun all => ?_⟩, second⟩
  have admitted := Except.ok.inj (second.symm.trans (sameToo.mpr all))
  exact absurd admitted (by decide)

end RationalSimplex.Tableau
