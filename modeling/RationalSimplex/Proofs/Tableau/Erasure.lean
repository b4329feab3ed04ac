import RationalSimplex.Proofs.Tableau.Forms

/-!
# Dropping rows and columns

Dropping a row or a column that is not basic keeps the unit columns and the
right-hand sides of the rest.  Dropping a row loses one equation, and dropping
a column has the same effect as giving its variable the value zero.
-/

namespace RationalSimplex

/-- The place that an index had before a place was dropped. -/
def skip (dropped index : Nat) : Nat :=
  if index < dropped then index else index + 1

@[simp] theorem skip_inj {dropped first second : Nat} :
    skip dropped first = skip dropped second ↔ first = second := by
  unfold skip
  split <;> split <;> omega

theorem skip_lt {dropped index size : Nat} (inside : dropped < size)
    (before : index < size - 1) : skip dropped index < size := by
  unfold skip
  split <;> omega

theorem exists_skip {dropped place size : Nat} (different : place ≠ dropped)
    (before : place < size) (inside : dropped < size) :
    ∃ index < size - 1, skip dropped index = place := by
  rcases Nat.lt_or_gt_of_ne different with less | greater
  · refine ⟨place, by omega, ?_⟩
    unfold skip
    rw [if_pos less]
  · refine ⟨place - 1, by omega, ?_⟩
    unfold skip
    rw [if_neg (by omega)]
    omega

namespace Tableau

/-- The number that a variable had before a column was dropped. -/
def former (dropped index : Int) : Int :=
  if index < dropped then index else index + 1

@[simp] theorem former_natCast (dropped index : Nat) :
    former dropped index = (skip dropped index : Nat) := by
  unfold former skip
  split <;> split <;> omega

theorem former_of_lt {dropped index : Int} (before : index < dropped) :
    former dropped index = index :=
  if_pos before

theorem former_of_gt {dropped index : Int} (behind : dropped < index) :
    former dropped index = index + 1 :=
  if_neg (by omega)

theorem former_ne (dropped index : Int) : former dropped index ≠ dropped := by
  unfold former
  split <;> omega

@[simp]
theorem former_renumber {dropped index : Int} (different : index ≠ dropped) :
    former dropped (renumber dropped index) = index := by
  unfold former renumber
  split <;> split <;> omega

theorem renumber_eq_iff {dropped index number : Int}
    (different : index ≠ dropped) :
    renumber dropped index = number ↔ index = former dropped number := by
  unfold former renumber
  split <;> split <;> omega

theorem mem_map_renumber_iff {dropped index : Int} {indices : List Int}
    (absent : dropped ∉ indices) :
    index ∈ indices.map (renumber dropped) ↔
      former dropped index ∈ indices := by
  rw [List.mem_map]
  constructor
  · intro found
    obtain ⟨old, listed, renumbered⟩ := found
    have different : old ≠ dropped := fun same => absent (same ▸ listed)
    rw [← (renumber_eq_iff different).mp renumbered]
    exact listed
  · intro listed
    exact ⟨former dropped index, listed,
      (renumber_eq_iff (former_ne dropped index)).mpr rfl⟩

variable {tableau : Tableau}

/-! ## Rows -/

/-- The tableau without a row and its basic variable. -/
def erasedRow (tableau : Tableau) (row : Nat) : Tableau :=
  { tableau with
    matrix := tableau.matrix.eraseRow row
    basis := tableau.basis.eraseIdx row }

section Row

variable {row : Nat}

@[simp] theorem entry_erasedRow (index place : Nat) :
    (tableau.erasedRow row).entry index place =
      tableau.entry (skip row index) place :=
  tableau.matrix.entry_eraseRow row index place

@[simp] theorem basis_erasedRow (index : Nat) :
    (tableau.erasedRow row).basis[index]? =
      tableau.basis[skip row index]? := by
  unfold erasedRow skip
  rw [List.getElem?_eraseIdx]
  split <;> rfl

@[simp] theorem level_erasedRow (index : Nat) :
    (tableau.erasedRow row).level index = tableau.level (skip row index) :=
  entry_erasedRow index _

@[simp] theorem Shaped.eraseRow_eq_ok (shaped : tableau.Shaped)
    (inside : row < tableau.constraintCount) :
    tableau.eraseRow row = .ok (tableau.erasedRow row) := by
  have height := shaped.lt_height inside.le
  have basic := shaped.lt_basis_length inside
  unfold Tableau.eraseRow RatMatrix.eraseRowAt
  simp only [resolveIndex?_natCast height, resolveIndex?_natCast basic]
  rfl

@[simp] theorem width_erasedRow :
    (tableau.erasedRow row).matrix.width = tableau.matrix.width := by
  simp [erasedRow]

@[simp] theorem Shaped.height_erasedRow (shaped : tableau.Shaped)
    (inside : row < tableau.constraintCount) :
    (tableau.erasedRow row).matrix.height = tableau.constraintCount := by
  have erased := tableau.matrix.height_eraseRow (shaped.lt_height inside.le)
  rwa [shaped.height_eq, Nat.add_sub_cancel] at erased

@[simp] theorem Shaped.constraintCount_erasedRow (shaped : tableau.Shaped)
    (inside : row < tableau.constraintCount) :
    (tableau.erasedRow row).constraintCount =
      tableau.constraintCount - 1 := by
  rw [constraintCount, shaped.height_erasedRow inside]

@[simp] theorem columnCount_erasedRow :
    (tableau.erasedRow row).columnCount = tableau.columnCount := by
  simp [columnCount]

theorem Shaped.erasedRow (shaped : tableau.Shaped)
    (inside : row < tableau.constraintCount) :
    (tableau.erasedRow row).Shaped where
  height_eq := by
    rw [shaped.height_erasedRow inside, shaped.constraintCount_erasedRow inside]
    omega
  width_eq := by simp [shaped.width_eq]
  basis_length := by
    rw [shaped.constraintCount_erasedRow inside, ← shaped.basis_length]
    exact List.length_eraseIdx_of_lt (shaped.lt_basis_length inside)

theorem UnitBasis.erasedRow (form : tableau.UnitBasis)
    (inside : row < tableau.constraintCount) :
    (tableau.erasedRow row).UnitBasis where
  toShaped := form.toShaped.erasedRow inside
  unit := by
    intro index indexInside
    rw [form.constraintCount_erasedRow inside] at indexInside
    obtain ⟨column, columnInside, basic, isUnit⟩ :=
      form.unit (skip row index) (skip_lt inside indexInside)
    refine ⟨column, by simpa using columnInside, by simpa using basic, ?_⟩
    intro other otherInside
    rw [form.constraintCount_erasedRow inside] at otherInside
    simp [isUnit _ (skip_lt inside otherInside)]

theorem Feasible.erasedRow (feasible : tableau.Feasible)
    (shaped : tableau.Shaped) (inside : row < tableau.constraintCount) :
    (tableau.erasedRow row).Feasible := by
  intro index indexInside
  rw [shaped.constraintCount_erasedRow inside] at indexInside
  simpa using feasible _ (skip_lt inside indexInside)

/-- An equation that an assignment satisfies anyway may be dropped. -/
theorem Shaped.solves_erasedRow_iff (shaped : tableau.Shaped)
    (inside : row < tableau.constraintCount) {values : Nat → Rat}
    (satisfied : tableau.matrix.residual values row = 0) :
    (tableau.erasedRow row).Solves values ↔ tableau.Solves values := by
  have residual : ∀ index,
      (tableau.erasedRow row).matrix.residual values index =
      tableau.matrix.residual values (skip row index) :=
    RatMatrix.residual_eraseRow shaped.width_pos row values
  constructor
  · intro solves index indexInside
    by_cases same : index = row
    · rw [same]
      exact satisfied
    · obtain ⟨place, placeInside, rfl⟩ := exists_skip same indexInside inside
      rw [← residual]
      apply solves
      rw [shaped.constraintCount_erasedRow inside]
      exact placeInside
  · intro solves index indexInside
    rw [shaped.constraintCount_erasedRow inside] at indexInside
    rw [residual]
    exact solves _ (skip_lt inside indexInside)

end Row

/-! ## Columns -/

/-- The tableau without a column, with the later variables renumbered. -/
def erasedColumn (tableau : Tableau) (column : Nat) : Tableau :=
  { tableau with
    matrix := tableau.matrix.eraseColumn column
    basis := tableau.basis.map (renumber column)
    artificial := (tableau.artificial.filter (· ≠ (column : Int))).map
      (renumber column) }

section Column

variable {column : Nat}

@[simp] theorem height_erasedColumn :
    (tableau.erasedColumn column).matrix.height = tableau.matrix.height := by
  simp [erasedColumn]

@[simp] theorem length_basis_erasedColumn :
    (tableau.erasedColumn column).basis.length = tableau.basis.length := by
  simp [erasedColumn]

@[simp] theorem constraintCount_erasedColumn :
    (tableau.erasedColumn column).constraintCount =
      tableau.constraintCount := by
  simp [constraintCount]

@[simp] theorem entry_erasedColumn (index place : Nat) :
    (tableau.erasedColumn column).entry index place =
      tableau.entry index (skip column place) :=
  tableau.matrix.entry_eraseColumn column index place

@[simp] theorem Shaped.eraseColumn_eq_ok (shaped : tableau.Shaped)
    (inside : column < tableau.columnCount) :
    tableau.eraseColumn column = .ok (tableau.erasedColumn column) := by
  unfold Tableau.eraseColumn RatMatrix.eraseColumnAt
  rw [resolveIndex?_natCast (shaped.lt_width inside.le)]
  rfl

@[simp]
theorem columnCount_erasedColumn (inside : column < tableau.columnCount) :
    (tableau.erasedColumn column).columnCount = tableau.columnCount - 1 := by
  unfold columnCount at inside ⊢
  have within : column < tableau.matrix.width := by omega
  simp [erasedColumn, within]

@[simp] theorem level_erasedColumn (inside : column < tableau.columnCount)
    (index : Nat) :
    (tableau.erasedColumn column).level index = tableau.level index := by
  have last : skip column (tableau.columnCount - 1) = tableau.columnCount := by
    unfold skip
    rw [if_neg (by omega)]
    omega
  simp [level, inside, last]

theorem Shaped.erasedColumn (shaped : tableau.Shaped)
    (inside : column < tableau.columnCount) :
    (tableau.erasedColumn column).Shaped where
  height_eq := by simp [shaped.height_eq]
  width_eq := by
    have erased : (tableau.erasedColumn column).matrix.width =
        tableau.matrix.width - 1 :=
      tableau.matrix.width_eraseColumn (shaped.lt_width inside.le)
    rw [erased, columnCount_erasedColumn inside, shaped.width_eq]
    omega
  basis_length := by simp [shaped.basis_length]

theorem basis_erasedColumn_eq_some_iff
    (nonbasic : (column : Int) ∉ tableau.basis) {row : Nat} {index : Int} :
    (tableau.erasedColumn column).basis[row]? = some index ↔
      tableau.basis[row]? = some (former column index) := by
  have mapped : (tableau.erasedColumn column).basis[row]? =
      (tableau.basis[row]?).map (renumber column) :=
    List.getElem?_map
  rw [mapped]
  cases basic : tableau.basis[row]? with
  | none => simp
  | some old =>
      have different : old ≠ column := by
        intro same
        apply nonbasic
        rw [← same]
        exact List.mem_of_getElem? basic
      simp only [Option.map_some, Option.some.injEq]
      exact renumber_eq_iff different

theorem UnitBasis.erasedColumn (form : tableau.UnitBasis)
    (inside : column < tableau.columnCount)
    (nonbasic : (column : Int) ∉ tableau.basis) :
    (tableau.erasedColumn column).UnitBasis where
  toShaped := form.toShaped.erasedColumn inside
  unit := by
    intro row rowInside
    obtain ⟨old, oldInside, basic, isUnit⟩ :=
      form.unit row (by simpa using rowInside)
    have different : old ≠ column := by
      rintro rfl
      exact nonbasic (List.mem_of_getElem? basic)
    obtain ⟨place, placeInside, rfl⟩ := exists_skip different oldInside inside
    refine ⟨place, ?_, ?_, ?_⟩
    · simpa [inside] using placeInside
    · rw [basis_erasedColumn_eq_some_iff nonbasic, former_natCast]
      exact basic
    · intro other otherInside
      simpa using isUnit other (by simpa using otherInside)

theorem Feasible.erasedColumn (feasible : tableau.Feasible)
    (inside : column < tableau.columnCount) :
    (tableau.erasedColumn column).Feasible := by
  intro row rowInside
  simpa [inside] using feasible row (by simpa using rowInside)

@[simp] theorem mem_artificial_erasedColumn {index : Int} :
    index ∈ (tableau.erasedColumn column).artificial ↔
      former column index ∈ tableau.artificial := by
  have absent : (column : Int) ∉
      tableau.artificial.filter (· ≠ (column : Int)) := by
    simp
  refine (mem_map_renumber_iff absent).trans ?_
  simp [former_ne]

/-- When the last artificial variable is dropped, the others keep their
numbers. -/
theorem mem_artificial_erasedColumn_iff
    (last : ∀ index ∈ tableau.artificial, index ≤ column) {index : Int} :
    index ∈ (tableau.erasedColumn column).artificial ↔
      index ∈ tableau.artificial ∧ index ≠ column := by
  rw [mem_artificial_erasedColumn]
  constructor
  · intro listed
    have before : index < column := by
      have bound := last _ listed
      unfold former at bound
      split at bound <;> omega
    rw [former_of_lt before] at listed
    exact ⟨listed, before.ne⟩
  · intro kept
    rw [former_of_lt (lt_of_le_of_ne (last index kept.1) kept.2)]
    exact kept.1

/-- No variable before the dropped one becomes basic. -/
theorem not_mem_basis_erasedColumn {index : Int} (before : index < column)
    (absent : index ∉ tableau.basis)
    (nonbasic : (column : Int) ∉ tableau.basis) :
    index ∉ (tableau.erasedColumn column).basis := by
  intro basic
  have listed := (mem_map_renumber_iff nonbasic).mp basic
  rw [former_of_lt before] at listed
  exact absent listed

@[simp] theorem solves_erasedColumn_iff (inside : column < tableau.columnCount)
    (values : Nat → Rat) :
    (tableau.erasedColumn column).Solves values ↔
      tableau.Solves (insertZero column values) := by
  have residual : ∀ row,
      (tableau.erasedColumn column).matrix.residual values row =
        tableau.matrix.residual (insertZero column values) row :=
    RatMatrix.residual_eraseColumn inside values
  unfold Solves
  simp [residual]

end Column

end Tableau

end RationalSimplex
