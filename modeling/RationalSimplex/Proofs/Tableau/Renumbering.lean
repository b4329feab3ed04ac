import RationalSimplex.Proofs.Tableau.Erasure

/-!
# Variables after a column was dropped

Dropping a column moves the later ones forward.  The lists of the basic and of
the artificial variables follow them, so that every variable in them still
names the column that it named before.  The variables of the program keep their
numbers instead: one that lies behind the dropped column names the next column
from then on, and the plan stays the same exactly when the two columns have
equal values.
-/

namespace RationalSimplex.Tableau

theorem map_former_renumber {dropped : Int} {indices : List Int}
    (absent : dropped ∉ indices) :
    (indices.map (renumber dropped)).map (former dropped) = indices := by
  have each : ∀ index ∈ indices,
      (former dropped ∘ renumber dropped) index = id index := by
    intro index listed
    apply former_renumber
    intro same
    rw [same] at listed
    exact absent listed
  rw [List.map_map, List.map_congr_left each, List.map_id]

variable {tableau : Tableau} {column : Nat}

/-- A variable is found in the row of the one that it was before. -/
@[simp] theorem UnitBasis.rowOf?_erasedColumn (form : tableau.UnitBasis)
    (inside : column < tableau.columnCount)
    (nonbasic : (column : Int) ∉ tableau.basis) (index : Int) :
    (tableau.erasedColumn column).rowOf? index =
      tableau.rowOf? (former column index) := by
  have erased := form.erasedColumn inside nonbasic
  apply Option.ext
  intro row
  rw [erased.rowOf?_eq_some_iff, form.rowOf?_eq_some_iff]
  exact basis_erasedColumn_eq_some_iff nonbasic

theorem UnitBasis.basicValue_erasedColumn (form : tableau.UnitBasis)
    (inside : column < tableau.columnCount)
    (nonbasic : (column : Int) ∉ tableau.basis) (index : Int) :
    (tableau.erasedColumn column).basicValue
        (tableau.erasedColumn column).level index =
      tableau.basicValue tableau.level (former column index) := by
  unfold basicValue
  rw [form.rowOf?_erasedColumn inside nonbasic]
  cases tableau.rowOf? (former column index) with
  | none => rfl
  | some row => exact level_erasedColumn inside row

@[simp] theorem map_former_basis (nonbasic : (column : Int) ∉ tableau.basis) :
    (tableau.erasedColumn column).basis.map (former column) = tableau.basis :=
  map_former_renumber nonbasic

/-- The column of a variable is the one that its former number named. -/
theorem entry_erasedColumn_former {place old : Nat}
    (moved : former column place = old) (row : Nat) :
    (tableau.erasedColumn column).entry row place = tableau.entry row old := by
  rw [former_natCast] at moved
  rw [entry_erasedColumn]
  congr 1
  exact_mod_cast moved

/-- Only the dropped column is missing from the artificial ones. -/
@[simp] theorem map_former_artificial :
    (tableau.erasedColumn column).artificial.map (former column) =
      tableau.artificial.filter (· ≠ (column : Int)) := by
  apply map_former_renumber
  simp

@[simp] theorem Shaped.value_erasedColumn (shaped : tableau.Shaped)
    (inside : column < tableau.columnCount) :
    (tableau.erasedColumn column).value = tableau.value := by
  simp [shaped.erasedColumn inside, shaped, inside]

/-- The plan shows the variables that the numbers name now. -/
theorem UnitBasis.plan_erasedColumn (form : tableau.UnitBasis)
    (inside : column < tableau.columnCount)
    (nonbasic : (column : Int) ∉ tableau.basis) :
    (tableau.erasedColumn column).plan =
      .ok (tableau.start.map fun index =>
        tableau.basicValue tableau.level (former column index)) := by
  rw [(form.toShaped.erasedColumn inside).plan_eq_ok]
  congr 1
  apply List.map_congr_left
  intro index _
  exact form.basicValue_erasedColumn inside nonbasic index

/-- The plan stays the same when every variable behind the dropped one has the
value of the next variable. -/
theorem map_former_eq_iff {value : Int → Rat} {indices : List Int}
    (absent : (column : Int) ∉ indices) :
    (indices.map fun index => value (former column index)) =
        indices.map value ↔
      ∀ index ∈ indices, (column : Int) < index →
        value (index + 1) = value index := by
  rw [List.map_inj_left]
  constructor
  · intro equal index listed behind
    rw [← equal index listed, former_of_gt behind]
  · intro equal index listed
    rcases Int.lt_trichotomy index column with before | same | behind
    · rw [former_of_lt before]
    · rw [same] at listed
      exact absurd listed absent
    · rw [former_of_gt behind]
      exact equal index listed behind

/-- A column is dropped that is neither basic nor one of the program.  Basic and
artificial variables name the columns that they named before, the basic columns
are still the unit vectors of their rows, and the value is the same.  The plan
is the same exactly when every variable of the program behind the dropped column
has the value of the variable next to it, as when there is none. -/
theorem eraseColumn_renumbers (form : tableau.UnitBasis)
    (inside : column < tableau.columnCount)
    (nonbasic : (column : Int) ∉ tableau.basis)
    (unplanned : (column : Int) ∉ tableau.start) :
    ∃ next, tableau.eraseColumn column = .ok next ∧
      next.UnitBasis ∧
      (∀ row place old : Nat, former column place = old →
        next.entry row place = tableau.entry row old) ∧
      next.basis.map (former column) = tableau.basis ∧
      next.artificial.map (former column) =
        tableau.artificial.filter (· ≠ (column : Int)) ∧
      (∃ number, tableau.value = .ok number ∧ next.value = .ok number) ∧
      ∃ plan left, tableau.plan = .ok plan ∧ next.plan = .ok left ∧
        (left = plan ↔ ∀ index ∈ tableau.start, (column : Int) < index →
          tableau.variableValue (index + 1) = tableau.variableValue index) := by
  refine ⟨tableau.erasedColumn column, form.eraseColumn_eq_ok inside,
    form.erasedColumn inside nonbasic,
    fun row _ _ moved => entry_erasedColumn_former moved row,
    map_former_basis nonbasic, map_former_artificial, ?_, ?_⟩
  · refine ⟨_, form.value_eq_ok, ?_⟩
    rw [form.toShaped.value_erasedColumn inside]
    exact form.value_eq_ok
  · refine ⟨_, _, form.plan_eq_ok, form.plan_erasedColumn inside nonbasic, ?_⟩
    rw [map_former_eq_iff unplanned]
    simp [form.toShaped]

/-- Both variables of the program are basic, and there are columns of other
variables in front of, between and behind them. -/
def interleaved : Tableau where
  matrix := {
    width := 8
    rows := [[1, 2, 3, 0, 4, 5, 0, 8], [0, 1, 1, 1, 1, 1, 0, 9],
      [0, 1, 0, 0, 2, 0, 1, 5], [0, 0, 1, 0, 0, 0, 0, 7]]
    uniform := by decide +kernel }
  objective := ⟨⟨[1, 1]⟩, true⟩
  basis := [0, 3, 6]
  start := [0, 3]
  artificial := [1, 5, 6]
  iteration := 0

theorem unitBasis_interleaved : interleaved.UnitBasis where
  height_eq := rfl
  width_eq := rfl
  basis_length := rfl
  unit := by
    unfold IsUnit
    decide +kernel

/-- The plan stays the same when a column behind both variables is dropped, and
the basic variable behind it is renumbered. -/
theorem eraseColumn_renumbers_interleaved :
    ∃ next, interleaved.eraseColumn 5 = .ok next ∧ next.UnitBasis ∧
      next.basis.map (former 5) = [0, 3, 6] ∧
      next.artificial.map (former 5) = [1, 6] ∧
      ∃ plan, interleaved.plan = .ok plan ∧ next.plan = .ok plan := by
  have inside : 5 < interleaved.columnCount := by decide +kernel
  obtain ⟨next, erased, form, _, basis, artificial, _, plan, left, planned,
    leftPlanned, same⟩ :=
    eraseColumn_renumbers unitBasis_interleaved inside (by decide) (by decide)
  have inFront : ∀ index ∈ interleaved.start, ¬(5 : Int) < index := by
    decide
  have equal : left = plan :=
    same.mpr fun index listed behind => absurd behind (inFront index listed)
  rw [equal] at leftPlanned
  exact ⟨next, erased, form, basis, artificial, plan, planned, leftPlanned⟩

/-- The second variable loses its value when the column in front of it is
dropped, which is neither basic nor one of the program: its number names the
column behind its own one then. -/
theorem plan_eraseColumn_between :
    interleaved.UnitBasis ∧ (2 : Int) ∉ interleaved.basis ∧
      (2 : Int) ∉ interleaved.start ∧ interleaved.plan = .ok [8, 9] ∧
      ∃ next, interleaved.eraseColumn 2 = .ok next ∧
        next.plan = .ok [8, 0] := by
  have planned : interleaved.plan.toOption = some [8, 9] := by
    decide +kernel
  have replanned :
      (interleaved.erasedColumn 2).plan.toOption = some [8, 0] := by
    decide +kernel
  have erased := unitBasis_interleaved.eraseColumn_eq_ok
    (by decide +kernel : 2 < interleaved.columnCount)
  exact ⟨unitBasis_interleaved, by decide, by decide,
    toOption_eq_some_iff.mp planned, interleaved.erasedColumn 2, erased,
    toOption_eq_some_iff.mp replanned⟩

end RationalSimplex.Tableau
