import RationalSimplex.Proofs.Simplex.Dropping
import RationalSimplex.Proofs.Simplex.Expulsion

/-!
# From the first phase to the second

The second phase starts from a tableau in basic form without artificial
variables.  Its solutions are those of the last tableau of the first phase in
which the artificial variables are zero, and its last row expresses the
objective of the program.
-/

namespace RationalSimplex.Tableau

/-- What the second phase starts from, with the tableau at the end of the first
phase and the columns that were dropped. -/
structure Prepared (source : Tableau) (columns : List Int)
    (tableau : Tableau) : Prop where
  form : tableau.BasicForm
  feasible : tableau.Feasible
  start_eq : tableau.start = source.start
  artificial_eq : tableau.artificial = []
  objective_eq : tableau.objective = source.objective
  columnCount_eq : tableau.columnCount + columns.length = source.columnCount
  objective_fits : tableau.objective.expression.width ≤ tableau.columnCount
  ascending : columns.Pairwise (· < ·)
  mem_columns_iff : ∀ index, index ∈ columns ↔ index ∈ source.artificial
  solves_iff : ∀ values,
    tableau.Solves values ↔ source.Solves (insertZeros columns values)
  objectiveAt_eq : ∀ values, tableau.Solves values →
    tableau.objectiveAt values =
      dot tableau.objective.expression.coefficients
        ((List.range tableau.columnCount).map values)

/-- The same tableau at the beginning of the count of pivots. -/
theorem repriced_iteration (tableau : Tableau) (iteration : Int) :
    ({ tableau with iteration := iteration } : Tableau).Repriced tableau where
  height_eq := rfl
  width_eq := rfl
  basis_eq := rfl
  start_eq := rfl
  artificial_eq := rfl
  objective_eq := rfl
  entry_eq := fun _ _ _ => rfl
  objectiveAt_eq := fun _ _ => rfl

theorem Dropping.startPhaseTwo_eq_ok {source dropped : Tableau}
    {log : PhaseLog} (droppedAll : source.dropArtificials = .ok (dropped, log))
    (dropping : Dropping source [] (dropped, log)) :
    ∃ prepared after, source.startPhaseTwo = .ok (prepared, after) ∧
      prepared.BasicForm ∧ prepared.Repriced dropped.entered ∧
        after.SameRun PhaseLog.empty := by
  have same := dropping.form.sameConstraints_entered
  have enteredForm := same.unitBasis dropping.form
  obtain ⟨priced, after, folded, form, repriced, sameRun⟩ :=
    priceColumns_eq_ok enteredForm log
  have reset := repriced_iteration priced 0
  refine ⟨{ priced with iteration := 0 }, after, ?_, ?_,
    reset.trans repriced, sameRun.trans dropping.sameRun⟩
  · unfold startPhaseTwo
    simp only [droppedAll, dropping.form.enterObjective_eq_ok, folded,
      ok_bind]
    rfl
  · exact ⟨reset.unitBasis form.toUnitBasis, form.cost⟩

section Change

variable {tableau driven dropped prepared : Tableau}
  {log after droppedLog : PhaseLog}

/-- Artificial variables that have left the basis are dropped. -/
theorem ReadyForPhaseTwo.dropping (ready : tableau.ReadyForPhaseTwo)
    (expelling : Expelling tableau log 0 (driven, after)) :
    Dropping driven (driven.artificial.mergeSort
      fun left right => decide (right ≤ left)) (driven, PhaseLog.empty) := by
  have columnCount : driven.columnCount = tableau.columnCount :=
    expelling.columnCount_eq
  have objective : driven.objective = tableau.objective :=
    expelling.objective_eq
  have artificial : driven.artificial = tableau.artificial :=
    expelling.artificial_eq
  apply expelling.form.dropping expelling.feasible
  · rw [artificial]
    exact ready.distinct
  · rw [objective, columnCount]
    exact ready.objective_fits
  · rw [objective, columnCount, artificial]
    exact ready.inside
  · intro index listed basic
    obtain ⟨row, place⟩ := List.getElem?_of_mem basic
    rw [artificial] at listed
    exact expelling.expelled (Nat.zero_le row) place listed

theorem ReadyForPhaseTwo.dropArtificials_eq_ok
    (ready : tableau.ReadyForPhaseTwo)
    (expelling : Expelling tableau log 0 (driven, after)) :
    ∃ dropped droppedLog, driven.dropArtificials = .ok (dropped, droppedLog) ∧
      Dropping driven [] (dropped, droppedLog) := by
  obtain ⟨⟨dropped, droppedLog⟩, folded, dropping⟩ :=
    foldlM_invariant Dropping.step (ready.dropping expelling)
  exact ⟨dropped, droppedLog, folded, dropping⟩

/-- The three steps of the change prepare the second phase. -/
theorem Expelling.prepared_of_dropping
    (expelling : Expelling tableau log 0 (driven, after))
    (dropping : Dropping driven [] (dropped, droppedLog))
    (form : prepared.BasicForm) (repriced : prepared.Repriced dropped.entered) :
    Prepared tableau droppedLog.droppedColumns prepared := by
  have same := repriced.toSameConstraints.trans
    dropping.form.sameConstraints_entered
  have ascending : droppedLog.droppedColumns.Pairwise (· < ·) :=
    dropping.ascending_droppedColumns
  have listed : ∀ index,
      index ∈ droppedLog.droppedColumns ↔ index ∈ tableau.artificial := by
    intro index
    rw [← expelling.artificial_eq]
    exact dropping.mem_droppedColumns_iff
  exact {
    form := form
    feasible := same.feasible dropping.feasible
    start_eq := (same.start_eq.trans dropping.start_eq).trans
      expelling.start_eq
    artificial_eq := by
      rw [same.artificial_eq]
      apply List.eq_nil_iff_forall_not_mem.mpr
      intro index member
      exact List.not_mem_nil ((dropping.mem_artificial_iff index).mp member)
    objective_eq := (same.objective_eq.trans dropping.objective_eq).trans
      expelling.objective_eq
    columnCount_eq := by
      rw [same.columnCount_eq]
      exact dropping.columnCount_eq.trans expelling.columnCount_eq
    objective_fits := by
      rw [same.objective_eq, same.columnCount_eq]
      exact dropping.objective_fits
    ascending := ascending
    mem_columns_iff := listed
    solves_iff := by
      intro values
      have free : tableau.FreeOfArtificial
          (insertZeros droppedLog.droppedColumns values) := by
        intro column _ artificial
        exact insertZeros_of_mem ascending ((listed column).mpr artificial)
          values
      exact (same.solves_iff values).trans
        ((dropping.solves_iff values).trans (expelling.solves_iff _ free))
    objectiveAt_eq := by
      intro values solves
      rw [repriced.objectiveAt_eq values
        ((repriced.solves_iff values).mp solves),
        dropping.form.objectiveAt_entered dropping.objective_fits,
        same.objective_eq, same.columnCount_eq] }

/-- The change of phases succeeds and prepares the second phase. -/
theorem ReadyForPhaseTwo.changePhase_eq_ok (ready : tableau.ReadyForPhaseTwo)
    (log : PhaseLog) :
    ∃ prepared phaseOne phaseTwo columns,
      tableau.changePhase log = .ok (prepared, phaseOne, phaseTwo) ∧
        Prepared tableau columns prepared ∧ phaseOne.SameRun log ∧
          phaseTwo.SameRun PhaseLog.empty := by
  obtain ⟨driven, phaseOne, expelled, expelling⟩ :=
    ready.expelArtificials_eq_ok log
  obtain ⟨dropped, droppedLog, droppedAll, dropping⟩ :=
    ready.dropArtificials_eq_ok expelling
  obtain ⟨prepared, phaseTwo, started, form, repriced, sameRun⟩ :=
    dropping.startPhaseTwo_eq_ok droppedAll
  refine ⟨prepared, phaseOne, phaseTwo, droppedLog.droppedColumns, ?_,
    expelling.prepared_of_dropping dropping form repriced,
    expelling.sameRun, sameRun⟩
  unfold changePhase
  simp only [expelled, started, ok_bind]
  rfl

end Change

end RationalSimplex.Tableau
