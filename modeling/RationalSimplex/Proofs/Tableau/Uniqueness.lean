import RationalSimplex.Proofs.Tableau.BasicSolution
import RationalSimplex.Proofs.Tableau.Pivot

/-!
# A tableau is determined by its basis

Pivots on entries that are not zero lead to equivalent tableaux in basic form.
Two of them with the same set of basic variables agree in everything but the
order of their rows.  The comparison is made on the solutions of the one
tableau in which a single variable has been raised: they solve the other
tableau too, whose equations then tell the column of the variable.
-/

namespace RationalSimplex.Tableau

/-! ## Sequences of pivots -/

/-- The pivot is in a constraint row and in the column of a variable, and its
entry is not zero. -/
def CanPivot (tableau : Tableau) (pivot : Pivot) : Prop :=
  pivot.1 < tableau.constraintCount ∧ pivot.2 < tableau.columnCount ∧
    ∃ entry, tableau.matrix.get pivot.1 pivot.2 = .ok entry ∧ entry ≠ 0

/-- Each of the pivots can be carried out when its turn comes. -/
def CanPivotAll : Tableau → List Pivot → Prop
  | _, [] => True
  | tableau, pivot :: pivots =>
      tableau.CanPivot pivot ∧ ∀ next,
        tableau.pivot pivot.1 pivot.2 = .ok next → next.CanPivotAll pivots

/-- Carry out pivots one after the other. -/
def pivotAll (tableau : Tableau) (pivots : List Pivot) :
    Except Fault Tableau :=
  pivots.foldlM
    (fun tableau pivot =>
      (tableau.pivot pivot.1 pivot.2).mapError (·.fault))
    tableau

variable {tableau first second : Tableau} {pivot : Pivot}
  {pivots : List Pivot}

theorem Shaped.canPivot_iff (shaped : tableau.Shaped) :
    tableau.CanPivot pivot ↔ pivot.1 < tableau.constraintCount ∧
      pivot.2 < tableau.columnCount ∧
        tableau.entry pivot.1 pivot.2 ≠ 0 := by
  constructor
  · rintro ⟨rowInside, columnInside, entry, read, nonzero⟩
    rw [shaped.get_eq_ok rowInside.le columnInside.le] at read
    cases read
    exact ⟨rowInside, columnInside, nonzero⟩
  · rintro ⟨rowInside, columnInside, nonzero⟩
    exact ⟨rowInside, columnInside, _,
      shaped.get_eq_ok rowInside.le columnInside.le, nonzero⟩

@[simp] theorem Shaped.pivotAll_cons (shaped : tableau.Shaped)
    (can : tableau.CanPivot pivot) (pivots : List Pivot) :
    tableau.pivotAll (pivot :: pivots) =
      (tableau.pivoted pivot.1 pivot.2).pivotAll pivots := by
  obtain ⟨rowInside, columnInside, nonzero⟩ := shaped.canPivot_iff.mp can
  unfold pivotAll
  rw [List.foldlM_cons, shaped.pivot_eq_ok rowInside columnInside nonzero]
  rfl

theorem Shaped.canPivotAll_cons (shaped : tableau.Shaped)
    (can : tableau.CanPivot pivot)
    (rest : (tableau.pivoted pivot.1 pivot.2).CanPivotAll pivots) :
    tableau.CanPivotAll (pivot :: pivots) := by
  obtain ⟨rowInside, columnInside, nonzero⟩ := shaped.canPivot_iff.mp can
  refine ⟨can, fun next carried => ?_⟩
  rw [shaped.pivot_eq_ok rowInside columnInside nonzero] at carried
  rwa [← Except.ok.inj carried]

theorem Equivalent.symm (equivalent : first.Equivalent second) :
    second.Equivalent first where
  constraintCount_eq := equivalent.constraintCount_eq.symm
  columnCount_eq := equivalent.columnCount_eq.symm
  start_eq := equivalent.start_eq.symm
  artificial_eq := equivalent.artificial_eq.symm
  objective_eq := equivalent.objective_eq.symm
  solves_iff := fun values => (equivalent.solves_iff values).symm
  objectiveAt_eq := fun values solves =>
    (equivalent.objectiveAt_eq values
      ((equivalent.solves_iff values).mp solves)).symm

/-- Pivots on entries that are not zero lead to an equivalent tableau in basic
form. -/
theorem BasicForm.pivotAll_eq_ok (form : tableau.BasicForm)
    (can : tableau.CanPivotAll pivots) :
    ∃ last, tableau.pivotAll pivots = .ok last ∧ last.BasicForm ∧
      last.Equivalent tableau := by
  induction pivots generalizing tableau with
  | nil => exact ⟨tableau, rfl, form, .refl tableau⟩
  | cons pivot pivots induction =>
      obtain ⟨canFirst, canRest⟩ := can
      obtain ⟨rowInside, columnInside, nonzero⟩ :=
        form.canPivot_iff.mp canFirst
      have carried := form.pivot_eq_ok rowInside columnInside nonzero
      obtain ⟨last, pivoted, lastForm, equivalent⟩ := induction
        (form.pivoted rowInside columnInside nonzero) (canRest _ carried)
      refine ⟨last, ?_, lastForm,
        equivalent.trans (form.equivalent_pivoted rowInside nonzero)⟩
      rw [form.pivotAll_cons canFirst, pivoted]

/-! ## Tableaux with the same basic variables -/

/-- Equivalent tableaux in basic form have the same basic variables, perhaps in
other rows. -/
structure SameBasis (first second : Tableau) : Prop where
  form : first.BasicForm
  otherForm : second.BasicForm
  equivalent : first.Equivalent second
  mem_iff : ∀ index, index ∈ first.basis ↔ index ∈ second.basis

namespace SameBasis

variable (same : SameBasis first second)

include same

/-- The levels of the rows of the one tableau are levels of those rows of the
other where the same variables are basic. -/
theorem basicValue_eq (levels : Nat → Rat) (index : Int) :
    first.basicValue levels index = second.basicValue
      (fun row => first.basicValue levels (second.basis.getD row 0))
      index := by
  cases found : second.rowOf? index with
  | none =>
      have absent : first.rowOf? index = none := by
        rw [rowOf?_eq_none, same.mem_iff]
        exact rowOf?_eq_none.mp found
      unfold basicValue
      simp only [absent, found]
  | some row =>
      have basic : second.basis.getD row 0 = index := by
        rw [List.getD_eq_getElem?_getD, rowOf?_eq_some found]
        rfl
      rw [← basic] at found ⊢
      simp only [basicValue, found]

/-- A row of the one tableau reads off the value that the other one gives to the
basic variable of the row. -/
theorem sum_basicValue (levels : Nat → Rat) {row : Nat} {index : Int}
    (basic : second.basis[row]? = some index) :
    ∑ column ∈ Finset.range second.columnCount,
      second.entry row column * first.basicValue levels column =
        first.basicValue levels index := by
  have inside := same.otherForm.row_lt basic
  calc
    ∑ column ∈ Finset.range second.columnCount,
        second.entry row column * first.basicValue levels column =
      ∑ column ∈ Finset.range second.columnCount,
        second.entry row column * second.basicValue
          (fun row => first.basicValue levels (second.basis.getD row 0))
          column := by
        apply Finset.sum_congr rfl
        intro column _
        rw [same.basicValue_eq]
    _ = first.basicValue levels (second.basis.getD row 0) :=
      same.otherForm.sum_basicValue _ inside
    _ = first.basicValue levels index := by
      rw [List.getD_eq_getElem?_getD, basic]
      rfl

theorem sum_cost_basicValue (levels : Nat → Rat) :
    ∑ column ∈ Finset.range second.columnCount,
      second.entry second.constraintCount column *
        first.basicValue levels column = 0 := by
  apply Finset.sum_eq_zero
  intro column _
  rw [same.basicValue_eq]
  exact same.otherForm.cost_mul_basicValue _ column

section Row

variable {row other : Nat} {index : Int}

theorem level_eq (basic : first.basis[row]? = some index)
    (otherBasic : second.basis[other]? = some index) :
    first.level row = second.level other := by
  have solves := (same.equivalent.solves_iff _).mp
    same.form.solves_basicSolution
  have equation := solves other (same.otherForm.row_lt otherBasic)
  rw [residual_eq] at equation
  have sum : ∑ column ∈ Finset.range second.columnCount,
      second.entry other column * first.basicSolution column =
        first.level row := by
    refine (same.sum_basicValue first.level otherBasic).trans ?_
    exact same.form.basicValue_of_basic basic first.level
  rw [sum, sub_eq_zero] at equation
  exact equation.symm

/-- Raising the variable of a column by one lowers the basic variable of a row
by the entry of the column, in both tableaux. -/
theorem entry_eq (basic : first.basis[row]? = some index)
    (otherBasic : second.basis[other]? = some index) {column : Nat}
    (inside : column < first.columnCount) :
    first.entry row column = second.entry other column := by
  -- Read off the equation of the second tableau at a solution of the first.
  have solves := (same.equivalent.solves_iff _).mp
    (same.form.solves_raised inside 1)
  have equation := solves other (same.otherForm.row_lt otherBasic)
  have otherInside : column < second.columnCount := by
    rw [← same.equivalent.columnCount_eq]
    exact inside
  rw [residual_eq, first.sum_mul_raised otherInside,
    same.sum_basicValue _ otherBasic, same.form.basicValue_of_basic basic,
    same.level_eq basic otherBasic] at equation
  linarith

end Row

theorem level_last_eq :
    first.level first.constraintCount =
      second.level second.constraintCount := by
  have solves := (same.equivalent.solves_iff _).mp
    same.form.solves_basicSolution
  calc
    first.level first.constraintCount =
        first.objectiveAt first.basicSolution :=
      same.form.objectiveAt_basicSolution.symm
    _ = second.objectiveAt first.basicSolution :=
      same.equivalent.objectiveAt_eq _ solves
    _ = second.level second.constraintCount := by
      have costs : ∑ column ∈ Finset.range second.columnCount,
          second.entry second.constraintCount column *
            first.basicSolution column = 0 :=
        same.sum_cost_basicValue first.level
      unfold objectiveAt
      rw [residual_eq, costs, sub_zero]

theorem cost_eq {column : Nat} (inside : column < first.columnCount) :
    first.entry first.constraintCount column =
      second.entry second.constraintCount column := by
  have solves := (same.equivalent.solves_iff _).mp
    (same.form.solves_raised inside 1)
  have objective := same.equivalent.objectiveAt_eq _ solves
  have otherInside : column < second.columnCount := by
    rw [← same.equivalent.columnCount_eq]
    exact inside
  rw [same.form.objectiveAt_raised inside] at objective
  unfold objectiveAt at objective
  rw [residual_eq, first.sum_mul_raised otherInside,
    same.sum_cost_basicValue, same.level_last_eq] at objective
  linarith

/-! ## Readings -/

theorem width_eq : first.matrix.width = second.matrix.width := by
  rw [same.form.width_eq, same.otherForm.width_eq,
    same.equivalent.columnCount_eq]

theorem height_eq : first.matrix.height = second.matrix.height := by
  rw [same.form.height_eq, same.otherForm.height_eq,
    same.equivalent.constraintCount_eq]

/-- Rows with the same entries and the same right-hand side are equal. -/
theorem row_eq {row other : Nat} (inside : row ≤ first.constraintCount)
    (otherInside : other ≤ second.constraintCount)
    (entries : ∀ column < first.columnCount,
      first.entry row column = second.entry other column)
    (levels : first.level row = second.level other) :
    ∃ numbers, first.matrix.row row = .ok numbers ∧
      second.matrix.row other = .ok numbers := by
  have height := same.form.lt_height inside
  have otherHeight := same.otherForm.lt_height otherInside
  refine ⟨_, first.matrix.row_eq_ok height, ?_⟩
  rw [second.matrix.row_eq_ok otherHeight]
  congr 1
  apply RatMatrix.getD_rows_eq same.width_eq.symm otherHeight height
  intro column before
  rw [← same.width_eq, same.form.width_eq] at before
  rcases Nat.lt_succ_iff_lt_or_eq.mp before with less | rfl
  · exact (entries column less).symm
  · unfold level at levels
    rw [← same.equivalent.columnCount_eq] at levels
    exact levels.symm

theorem exists_row {index : Int} (member : index ∈ first.basis) :
    ∃ row other numbers, first.rowOf? index = some row ∧
      second.rowOf? index = some other ∧
        first.matrix.row row = .ok numbers ∧
          second.matrix.row other = .ok numbers := by
  obtain ⟨row, basic⟩ := List.getElem?_of_mem member
  obtain ⟨other, otherBasic⟩ :=
    List.getElem?_of_mem ((same.mem_iff index).mp member)
  obtain ⟨numbers, read, otherRead⟩ := same.row_eq
    (same.form.row_lt basic).le (same.otherForm.row_lt otherBasic).le
    (fun _ inside => same.entry_eq basic otherBasic inside)
    (same.level_eq basic otherBasic)
  exact ⟨row, other, numbers, same.form.rowOf?_eq_some_iff.mpr basic,
    same.otherForm.rowOf?_eq_some_iff.mpr otherBasic, read, otherRead⟩

theorem objectiveRow_eq :
    ∃ numbers, first.matrix.row first.constraintCount = .ok numbers ∧
      second.matrix.row second.constraintCount = .ok numbers :=
  same.row_eq le_rfl le_rfl (fun _ inside => same.cost_eq inside)
    same.level_last_eq

theorem plan_eq :
    ∃ plan, first.plan = .ok plan ∧ second.plan = .ok plan := by
  refine ⟨_, same.form.plan_eq_ok, ?_⟩
  rw [same.otherForm.plan_eq_ok, same.equivalent.start_eq]
  congr 1
  apply List.map_congr_left
  intro index _
  unfold basicValue
  cases found : first.rowOf? index with
  | none =>
      have absent : second.rowOf? index = none := by
        rw [rowOf?_eq_none, ← same.mem_iff]
        exact rowOf?_eq_none.mp found
      simp only [absent]
  | some row =>
      have basic := rowOf?_eq_some found
      obtain ⟨other, otherBasic⟩ := List.getElem?_of_mem
        ((same.mem_iff index).mp (List.mem_of_getElem? basic))
      have otherFound := same.otherForm.rowOf?_eq_some_iff.mpr otherBasic
      simp only [otherFound]
      exact (same.level_eq basic otherBasic).symm

theorem value_eq :
    ∃ value, first.value = .ok value ∧ second.value = .ok value := by
  refine ⟨_, same.form.value_eq_ok, ?_⟩
  rw [same.otherForm.value_eq_ok, same.level_last_eq]

/-- With the basic variables in the same rows nothing differs. -/
theorem matrix_eq (ordered : first.basis = second.basis) :
    first.matrix = second.matrix := by
  have counts := same.equivalent.columnCount_eq
  apply RatMatrix.eq_of_entry_eq same.width_eq same.height_eq
  intro row inside column before
  have rowInside : row ≤ first.constraintCount := by
    rw [same.form.height_eq] at inside
    omega
  rw [same.form.width_eq] at before
  -- The objective is in the last row, the right-hand sides in the last column.
  rcases rowInside.lt_or_eq with constraint | rfl
  · obtain ⟨own, _, basic, _⟩ := same.form.unit row constraint
    have otherBasic : second.basis[row]? = some (own : Int) := by
      rw [← ordered]
      exact basic
    rcases Nat.lt_succ_iff_lt_or_eq.mp before with less | rfl
    · exact same.entry_eq basic otherBasic less
    · have levels := same.level_eq basic otherBasic
      unfold level at levels
      rwa [← counts] at levels
  · rcases Nat.lt_succ_iff_lt_or_eq.mp before with less | rfl
    · have costs := same.cost_eq less
      rwa [← same.equivalent.constraintCount_eq] at costs
    · have levels := same.level_last_eq
      unfold level at levels
      rwa [← counts, ← same.equivalent.constraintCount_eq] at levels

end SameBasis

/-! ## Going back -/

/-- The variable that a pivot has taken out of the basis can be brought back. -/
theorem BasicForm.canPivot_back (form : tableau.BasicForm)
    (rowInside : pivot.1 < tableau.constraintCount)
    (nonzero : tableau.entry pivot.1 pivot.2 ≠ 0) {left : Nat}
    (basic : tableau.basis[pivot.1]? = some (left : Int)) :
    (tableau.pivoted pivot.1 pivot.2).CanPivot (pivot.1, left) := by
  obtain ⟨inside, isUnit⟩ := form.of_basic basic
  apply (form.toShaped.pivoted).canPivot_iff.mpr
  refine ⟨by simpa using rowInside, by simpa using inside, ?_⟩
  rw [entry_pivoted, if_pos rfl, isUnit pivot.1 rowInside, if_pos rfl]
  exact one_div_ne_zero nonzero

/-- A pivot is undone by a pivot on the variable that left. -/
theorem BasicForm.pivot_back (form : tableau.BasicForm)
    (can : tableau.CanPivot pivot) :
    ∃ left next restored, tableau.basis[pivot.1]? = some left ∧
      tableau.pivot pivot.1 pivot.2 = .ok next ∧
        next.pivot pivot.1 left = .ok restored ∧
          restored.matrix = tableau.matrix ∧
            restored.basis = tableau.basis := by
  obtain ⟨rowInside, columnInside, nonzero⟩ := form.canPivot_iff.mp can
  obtain ⟨left, _, basic, _⟩ := form.unit pivot.1 rowInside
  have carried := form.pivot_eq_ok rowInside columnInside nonzero
  have nextForm := form.pivoted rowInside columnInside nonzero
  obtain ⟨nextRow, nextColumn, nextNonzero⟩ :=
    nextForm.canPivot_iff.mp (form.canPivot_back rowInside nonzero basic)
  have back := nextForm.pivot_eq_ok nextRow nextColumn nextNonzero
  -- No computation with the entries is needed: the basis is the old one.
  have ordered : ((tableau.pivoted pivot.1 pivot.2).pivoted
      pivot.1 left).basis = tableau.basis := by
    apply List.ext_getElem?
    intro row
    rw [nextForm.basis_pivoted nextRow, form.basis_pivoted rowInside]
    split
    · next same => rw [same, basic]
    · rfl
  have same : SameBasis ((tableau.pivoted pivot.1 pivot.2).pivoted
      pivot.1 left) tableau := {
    form := nextForm.pivoted nextRow nextColumn nextNonzero
    otherForm := form
    equivalent := (nextForm.equivalent_pivoted nextRow nextNonzero).trans
      (form.equivalent_pivoted rowInside nonzero)
    mem_iff := fun _ => by rw [ordered] }
  exact ⟨left, _, _, basic, carried, back, same.matrix_eq ordered, ordered⟩

/-- The tableaux that two sequences of pivots lead to have the same rows for the
same basic variables, the same objective row, plan and value, when they have
the same set of basic variables, and the same matrix when they have them in
the same order.  A pivot is undone by a pivot on the variable that left. -/
theorem pivots_determined (form : tableau.BasicForm) :
    (∀ firstPivots secondPivots, tableau.CanPivotAll firstPivots →
      tableau.CanPivotAll secondPivots →
        ∃ first second, tableau.pivotAll firstPivots = .ok first ∧
          tableau.pivotAll secondPivots = .ok second ∧
          ((∀ index, index ∈ first.basis ↔ index ∈ second.basis) →
            (∀ index ∈ first.basis, ∃ row other numbers,
              first.rowOf? index = some row ∧
                second.rowOf? index = some other ∧
                  first.matrix.row row = .ok numbers ∧
                    second.matrix.row other = .ok numbers) ∧
            (∃ numbers,
              first.matrix.row first.constraintCount = .ok numbers ∧
                second.matrix.row second.constraintCount = .ok numbers) ∧
            (∃ plan, first.plan = .ok plan ∧ second.plan = .ok plan) ∧
            ∃ value, first.value = .ok value ∧ second.value = .ok value) ∧
          (first.basis = second.basis → first.matrix = second.matrix)) ∧
    ∀ pivot, tableau.CanPivot pivot →
      ∃ left next restored, tableau.basis[pivot.1]? = some left ∧
        tableau.pivot pivot.1 pivot.2 = .ok next ∧
          next.pivot pivot.1 left = .ok restored ∧
            restored.matrix = tableau.matrix ∧
              restored.basis = tableau.basis := by
  constructor
  · intro firstPivots secondPivots canFirst canSecond
    obtain ⟨first, firstRun, firstForm, firstEquivalent⟩ :=
      form.pivotAll_eq_ok canFirst
    obtain ⟨second, secondRun, secondForm, secondEquivalent⟩ :=
      form.pivotAll_eq_ok canSecond
    have equivalent := firstEquivalent.trans secondEquivalent.symm
    refine ⟨first, second, firstRun, secondRun, ?_, ?_⟩
    · intro members
      have same : SameBasis first second :=
        ⟨firstForm, secondForm, equivalent, members⟩
      exact ⟨fun _ member => same.exists_row member, same.objectiveRow_eq,
        same.plan_eq, same.value_eq⟩
    · intro ordered
      have same : SameBasis first second :=
        ⟨firstForm, secondForm, equivalent, fun _ => by rw [ordered]⟩
      exact same.matrix_eq ordered
  · exact fun _ can => form.pivot_back can

/-- Two constraints on two variables, which become basic in either order. -/
def eitherOrder : Tableau where
  matrix := {
    width := 5
    rows := [[1, 2, 1, 0, 4], [3, 1, 0, 1, 6], [-1, -1, 0, 0, 0]]
    uniform := by decide +kernel }
  objective := ⟨⟨[1, 1]⟩, true⟩
  basis := [2, 3]
  start := [0, 1]
  artificial := []
  iteration := 0

theorem basicForm_eitherOrder : eitherOrder.BasicForm where
  height_eq := rfl
  width_eq := rfl
  basis_length := rfl
  unit := by
    unfold Tableau.IsUnit
    decide +kernel
  cost := by
    intro row column basic
    match row with
    | 0 =>
        obtain rfl : 2 = column := by
          exact_mod_cast Option.some.inj basic
        rfl
    | 1 =>
        obtain rfl : 3 = column := by
          exact_mod_cast Option.some.inj basic
        rfl
    | row + 2 => cases basic

/-- Two variables enter two rows, the one first or the other first, and the
plans are the same. -/
theorem pivots_determined_eitherOrder :
    ∃ first second,
      eitherOrder.pivotAll [(0, 0), (1, 1)] = .ok first ∧
      eitherOrder.pivotAll [(0, 1), (1, 0)] = .ok second ∧
      first.basis = [0, 1] ∧ second.basis = [1, 0] ∧
      (∃ plan, first.plan = .ok plan ∧ second.plan = .ok plan) ∧
      ∃ next restored, eitherOrder.pivot 0 0 = .ok next ∧
        next.pivot 0 2 = .ok restored ∧
          restored.matrix = eitherOrder.matrix := by
  have shaped := basicForm_eitherOrder.toShaped
  have canOne : eitherOrder.CanPivotAll [(0, 0), (1, 1)] :=
    shaped.canPivotAll_cons (shaped.canPivot_iff.mpr (by decide +kernel))
      (shaped.pivoted.canPivotAll_cons
        (shaped.pivoted.canPivot_iff.mpr (by decide +kernel)) trivial)
  have canOther : eitherOrder.CanPivotAll [(0, 1), (1, 0)] :=
    shaped.canPivotAll_cons (shaped.canPivot_iff.mpr (by decide +kernel))
      (shaped.pivoted.canPivotAll_cons
        (shaped.pivoted.canPivot_iff.mpr (by decide +kernel)) trivial)
  obtain ⟨determined, undone⟩ := pivots_determined basicForm_eitherOrder
  obtain ⟨first, second, firstRun, secondRun, same, _⟩ :=
    determined _ _ canOne canOther
  have firstBasis : first.basis = [0, 1] := by
    have computed : (eitherOrder.pivotAll [(0, 0), (1, 1)]).toOption.map
        Tableau.basis = some [0, 1] := by
      decide +kernel
    rw [firstRun] at computed
    exact Option.some.inj computed
  have secondBasis : second.basis = [1, 0] := by
    have computed : (eitherOrder.pivotAll [(0, 1), (1, 0)]).toOption.map
        Tableau.basis = some [1, 0] := by
      decide +kernel
    rw [secondRun] at computed
    exact Option.some.inj computed
  have plans := (same (by simp [firstBasis, secondBasis, or_comm])).2.2.1
  obtain ⟨left, next, restored, leaving, carried, back, matrix, _⟩ :=
    undone (0, 0) (shaped.canPivot_iff.mpr (by decide +kernel))
  cases leaving
  exact ⟨first, second, firstRun, secondRun, firstBasis, secondBasis, plans,
    next, restored, carried, back, matrix⟩

end RationalSimplex.Tableau
