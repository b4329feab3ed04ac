import RationalSimplex.Proofs.Simplex.Outcome
import RationalSimplex.Proofs.Simplex.PhaseChange
import RationalSimplex.Proofs.Tableau.Initial

/-!
# The two phases together

The first phase maximises minus the sum of the artificial variables, which is
bounded, so that it ends without negative reduced costs.  When the value there
is not zero, the program is infeasible.  Otherwise the tableau that the change
of phases prepares expresses the program, and so does every tableau of the
second phase.
-/

namespace RationalSimplex

namespace Tableau

variable {tableau initial : Tableau} {program : LinearProgram}

/-! ## The first phase -/

theorem IsInitial.distinct (isInitial : initial.IsInitial program) :
    initial.artificial.Nodup := by
  rw [isInitial.artificial_eq]
  apply List.Nodup.map _ List.nodup_range
  intro first second equal
  have same :
      ((program.width + program.constraints.length + first : Nat) : Int) =
        ((program.width + program.constraints.length + second : Nat) : Int) :=
    equal
  omega

theorem IsInitial.counts (isInitial : initial.IsInitial program) :
    initial.Counts initial.artificial := by
  intro row column _
  rw [isInitial.constraintCount_eq, isInitial.cost_eq]
  simp only [isInitial.mem_artificial_iff, isInitial.columnCount_eq]

theorem IsInitial.objectiveAt_nonpos (isInitial : initial.IsInitial program)
    {values : Nat → Rat} (nonnegative : ∀ column, 0 ≤ values column) :
    initial.objectiveAt values ≤ 0 := by
  rw [isInitial.objectiveAt_eq, neg_nonpos]
  exact Finset.sum_nonneg fun index _ => nonnegative _

/-- No tableau of the first phase has a positive value. -/
theorem IsInitial.level_nonpos (isInitial : initial.IsInitial program)
    (form : tableau.BasicForm) (feasible : tableau.Feasible)
    (equivalent : tableau.Equivalent initial) :
    tableau.level tableau.constraintCount ≤ 0 := by
  have solves := (equivalent.solves_iff _).mp form.solves_basicSolution
  rw [← form.objectiveAt_basicSolution, equivalent.objectiveAt_eq _ solves]
  exact isInitial.objectiveAt_nonpos
    (feasible.basicSolution_nonneg form.toShaped)

/-- The tableau at the end of the first phase. -/
structure EndsPhaseOne (initial tableau : Tableau) : Prop where
  form : tableau.BasicForm
  feasible : tableau.Feasible
  exhausted : tableau.candidates = []
  equivalent : tableau.Equivalent initial

namespace EndsPhaseOne

/-- The sum of the artificial variables is bounded, so that no reduced cost is
negative. -/
theorem improving_eq_nil (ended : EndsPhaseOne initial tableau)
    (isInitial : initial.IsInitial program) : tableau.improving = [] := by
  apply List.eq_nil_iff_forall_not_mem.mpr
  intro column improves
  obtain ⟨values, solves, nonnegative, beyond⟩ :=
    exists_solution_beyond ended.form ended.feasible ended.exhausted improves 0
  have initialSolves := (ended.equivalent.solves_iff values).mp solves
  rw [ended.equivalent.objectiveAt_eq values initialSolves] at beyond
  exact absurd beyond (not_lt.mpr (isInitial.objectiveAt_nonpos nonnegative))

theorem objectiveAt_basicSolution (ended : EndsPhaseOne initial tableau) :
    initial.objectiveAt tableau.basicSolution =
      tableau.level tableau.constraintCount := by
  have solves := (ended.equivalent.solves_iff _).mp
    ended.form.solves_basicSolution
  rw [← ended.equivalent.objectiveAt_eq _ solves]
  exact ended.form.objectiveAt_basicSolution

theorem level_nonpos (ended : EndsPhaseOne initial tableau)
    (isInitial : initial.IsInitial program) :
    tableau.level tableau.constraintCount ≤ 0 :=
  isInitial.level_nonpos ended.form ended.feasible ended.equivalent

/-- A point of the polytope would give the value zero. -/
theorem isInfeasible (ended : EndsPhaseOne initial tableau)
    (isInitial : initial.IsInitial program) (canonical : program.IsCanonical)
    (nonzero : tableau.level tableau.constraintCount ≠ 0) :
    program.IsInfeasible := by
  intro point inside
  obtain ⟨_, contained⟩ := LinearProgram.contains_iff.mp inside
  have solves := isInitial.solves_withSlacks point
  have lower : tableau.objectiveAt (program.withSlacks point) ≤
      tableau.level tableau.constraintCount :=
    objectiveAt_le_level
      (fun column columnInside => costs_nonneg_of_improving_eq_nil
        (ended.improving_eq_nil isInitial) columnInside)
      (LinearProgram.withSlacks_nonneg canonical contained)
  rw [ended.equivalent.objectiveAt_eq _ solves,
    isInitial.objectiveAt_withSlacks] at lower
  exact nonzero (le_antisymm (ended.level_nonpos isInitial) lower)

/-- At the value zero every basic artificial variable is zero. -/
theorem readyForPhaseTwo (ended : EndsPhaseOne initial tableau)
    (isInitial : initial.IsInitial program)
    (zero : tableau.level tableau.constraintCount = 0) :
    tableau.ReadyForPhaseTwo := by
  have objective : tableau.objective = program.objective :=
    ended.equivalent.objective_eq.trans isInitial.objective_eq
  have width : tableau.objective.expression.width = program.width := by
    rw [objective]
    rfl
  have columns := isInitial.columnCount_eq
  rw [← ended.equivalent.columnCount_eq] at columns
  have listed : ∀ index ∈ tableau.artificial,
      ∃ number < program.artificialCount, index =
        ((program.width + program.constraints.length + number : Nat) :
          Int) := by
    intro index member
    rw [ended.equivalent.artificial_eq, isInitial.artificial_eq] at member
    obtain ⟨number, inside, rfl⟩ := List.mem_map.mp member
    exact ⟨number, List.mem_range.mp inside, rfl⟩
  have vanish : ∀ number < program.artificialCount, tableau.basicSolution
      (program.width + program.constraints.length + number) = 0 := by
    have sum := ended.objectiveAt_basicSolution
    rw [zero, isInitial.objectiveAt_eq, neg_eq_zero] at sum
    intro number inside
    exact (Finset.sum_eq_zero_iff_of_nonneg fun index _ =>
      ended.feasible.basicSolution_nonneg ended.form.toShaped _).mp sum number
        (Finset.mem_range.mpr inside)
  exact {
    form := ended.form.toUnitBasis
    feasible := ended.feasible
    distinct := by
      rw [ended.equivalent.artificial_eq]
      exact isInitial.distinct
    objective_fits := by
      rw [width]
      omega
    inside := by
      intro index member
      obtain ⟨number, inside, rfl⟩ := listed index member
      rw [width]
      omega
    level_zero := by
      intro row index basic member
      obtain ⟨number, inside, rfl⟩ := listed index member
      rw [← vanish number inside]
      exact (ended.form.basicValue_of_basic basic tableau.level).symm }

end EndsPhaseOne

/-! ## The second phase -/

namespace Prepared

variable {prepared : Tableau} {columns : List Int}

/-- The first phase leaves the solutions as they are. -/
theorem of_equivalent (preparation : Prepared tableau columns prepared)
    (equivalent : tableau.Equivalent initial) :
    Prepared initial columns prepared :=
  { preparation with
    start_eq := preparation.start_eq.trans equivalent.start_eq
    objective_eq := preparation.objective_eq.trans equivalent.objective_eq
    columnCount_eq :=
      preparation.columnCount_eq.trans equivalent.columnCount_eq
    mem_columns_iff := by
      intro index
      rw [preparation.mem_columns_iff, equivalent.artificial_eq]
    solves_iff := fun values =>
      (preparation.solves_iff values).trans (equivalent.solves_iff _) }

/-- Only columns behind the variables and the slack variables are dropped. -/
theorem le_of_mem_columns (preparation : Prepared initial columns prepared)
    (isInitial : initial.IsInitial program) {index : Int}
    (member : index ∈ columns) :
    ((program.width + program.constraints.length : Nat) : Int) ≤ index := by
  rw [preparation.mem_columns_iff, isInitial.artificial_eq] at member
  obtain ⟨number, _, rfl⟩ := List.mem_map.mp member
  omega

theorem lt_of_mem_columns (preparation : Prepared initial columns prepared)
    (isInitial : initial.IsInitial program) {place : Nat}
    (before : place < program.width) {index : Int}
    (member : index ∈ columns) : (place : Int) < index := by
  have behind := preparation.le_of_mem_columns isInitial member
  omega

/-- The last row expresses the objective of the program. -/
theorem objectiveAt_eq_dot (preparation : Prepared initial columns prepared)
    (isInitial : initial.IsInitial program) {values : Nat → Rat}
    (solves : prepared.Solves values) :
    prepared.objectiveAt values =
      dot program.objective.expression.coefficients
        ((List.range program.width).map values) := by
  have objective : prepared.objective = program.objective :=
    preparation.objective_eq.trans isInitial.objective_eq
  have fits : program.width ≤ prepared.columnCount := by
    have narrow := preparation.objective_fits
    rw [objective] at narrow
    exact narrow
  have leading : (List.range program.width).map values =
      ((List.range prepared.columnCount).map values).take program.width := by
    rw [← List.map_take, List.take_range, Nat.min_eq_left fits]
  rw [preparation.objectiveAt_eq values solves, objective, leading,
    dot_take (Nat.le_refl program.width)]

/-- A nonnegative solution is a point of the polytope. -/
theorem contains_of_solves (preparation : Prepared initial columns prepared)
    (isInitial : initial.IsInitial program) (canonical : program.IsCanonical)
    {values : Nat → Rat} (solves : prepared.Solves values)
    (nonnegative : ∀ column, 0 ≤ values column) :
    program.polytope.Contains ((List.range program.width).map values) := by
  have kept : (List.range program.width).map (insertZeros columns values) =
      (List.range program.width).map values := by
    apply List.map_congr_left
    intro place member
    apply insertZeros_of_lt
    intro index listed
    exact preparation.lt_of_mem_columns isInitial (List.mem_range.mp member)
      listed
  rw [← kept]
  apply isInitial.contains_of_solves canonical
  · exact (preparation.solves_iff values).mp solves
  · intro column _
    exact insertZeros_nonneg nonnegative columns column
  · intro column _ artificial
    exact insertZeros_of_mem preparation.ascending
      ((preparation.mem_columns_iff _).mpr artificial) values

/-- Every point of the polytope comes from a nonnegative solution. -/
theorem exists_solves (preparation : Prepared initial columns prepared)
    (isInitial : initial.IsInitial program) (canonical : program.IsCanonical)
    {point : List Rat} (contained : program.polytope.Contains point) :
    ∃ values, prepared.Solves values ∧ (∀ column, 0 ≤ values column) ∧
      ∀ place < program.width, values place = point.getD place 0 := by
  have zero : ∀ place : Nat, (place : Int) ∈ columns →
      program.withSlacks point place = 0 := by
    intro place listed
    apply program.withSlacks_artificial point
    exact_mod_cast preparation.le_of_mem_columns isInitial listed
  have natural : ∀ index ∈ columns, 0 ≤ index := by
    intro index listed
    have behind := preparation.le_of_mem_columns isInitial listed
    omega
  obtain ⟨values, filled, kept, nonnegative⟩ :=
    exists_insertZeros preparation.ascending zero natural
  refine ⟨values, ?_, ?_, ?_⟩
  · rw [preparation.solves_iff, filled]
    exact isInitial.solves_withSlacks point
  · exact nonnegative (LinearProgram.withSlacks_nonneg canonical contained)
  · intro place before
    rw [kept place fun index listed =>
      preparation.lt_of_mem_columns isInitial before listed]
    exact LinearProgram.withSlacks_variable before point

/-- The tableau that the change of phases prepares expresses the program. -/
theorem expresses (preparation : Prepared initial columns prepared)
    (isInitial : initial.IsInitial program)
    (canonical : program.IsCanonical) : prepared.Expresses program where
  maximize := canonical.1
  start_eq := preparation.start_eq.trans isInitial.start_eq
  sound := by
    intro values solves nonnegative
    apply LinearProgram.attains_iff.mpr
    refine ⟨by simp, ?_, ?_⟩
    · exact preparation.contains_of_solves isInitial canonical solves
        nonnegative
    · exact (preparation.objectiveAt_eq_dot isInitial solves).symm
  complete := by
    intro point number attains
    obtain ⟨_, contained, equal⟩ := LinearProgram.attains_iff.mp attains
    obtain ⟨values, solves, nonnegative, kept⟩ :=
      preparation.exists_solves isInitial canonical contained
    have fits : program.objective.expression.coefficients.length ≤
        program.width :=
      Nat.le_refl _
    refine ⟨values, solves, nonnegative, ?_⟩
    rw [preparation.objectiveAt_eq_dot isInitial solves, dot_map_range fits,
      ← equal, dot_eq_sum fits]
    apply Finset.sum_congr rfl
    intro place member
    rw [kept place (Finset.mem_range.mp member)]

end Prepared

@[simp] theorem Shaped.recheck_eq_ok (shaped : tableau.Shaped) :
    tableau.recheck = .ok tableau := by
  have sized : (tableau.basis.length : Int) =
      (tableau.matrix.height : Int) - 1 := by
    rw [shaped.basis_length, shaped.height_sub_one]
  exact if_pos sized

end Tableau

/-! ## Solutions -/

/-- The log is that of a phase which began with a tableau in shape. -/
def PhaseLog.IsOfRun (log : PhaseLog) (start : List Int) : Prop :=
  ∃ first pivots last, Tableau.Leads first pivots last ∧ first.Shaped ∧
    first.start = start ∧
      log.SameRun (PhaseLog.empty.recorded first pivots)

theorem PhaseLog.SameRun.recorded {log source : PhaseLog}
    (same : log.SameRun source) (tableau : Tableau) (pivots : List Pivot) :
    (log.recorded tableau pivots).SameRun
      (source.recorded tableau pivots) where
  pivots_eq := congrArg (· ++ _) same.pivots_eq
  candidates_eq := congrArg (· ++ _) same.candidates_eq
  snapshots_eq := congrArg (· ++ _) same.snapshots_eq
  plans_eq := congrArg (· ++ _) same.plans_eq

theorem PhaseLog.IsOfRun.of_sameRun {log source : PhaseLog}
    {start : List Int} (isOfRun : source.IsOfRun start)
    (same : log.SameRun source) : log.IsOfRun start := by
  obtain ⟨first, pivots, last, leads, shaped, started, sourceSame⟩ := isOfRun
  exact ⟨first, pivots, last, leads, shaped, started, same.trans sourceSame⟩

/-- The outcome is true of the program, and the logs tell of its phases. -/
structure Solution.IsCorrect (solution : Solution) (program : LinearProgram)
    (start : List Int) : Prop where
  solved : program.IsSolvedBy solution.outcome
  phaseOne : solution.phaseOne.IsOfRun start
  phaseTwo : ∀ log, solution.phaseTwo = some log → log.IsOfRun start

@[simp]
theorem Halt.lift_bind {α β : Type} (result : α) (next : α → Except Halt β) :
    (Halt.lift (.ok result) >>= next) = next result :=
  rfl

namespace PivotRule

variable {σ : Type} {program : LinearProgram} {initial first : Tableau}
  {start : PhaseLog} {pivots : List Pivot} {ended : Progress σ}

theorem Ran.isOfRun (ran : Ran first start pivots ended)
    (shaped : first.Shaped) (fresh : start.SameRun PhaseLog.empty) :
    ended.log.IsOfRun first.start := by
  refine ⟨first, pivots, ended.tableau, ran.leads, shaped, rfl, ?_⟩
  rw [ran.log_eq]
  exact fresh.recorded first pivots

theorem Ran.endsPhaseOne (ran : Ran first start pivots ended)
    (form : first.BasicForm) (feasible : first.Feasible)
    (equivalent : first.Equivalent initial) :
    Tableau.EndsPhaseOne initial ended.tableau where
  form := ran.leads.basicForm form
  feasible := ran.leads.feasible feasible
  exhausted := ran.exhausted
  equivalent := (ran.leads.equivalent form.toShaped).trans equivalent

/-- The second phase ends with a true outcome. -/
theorem yields_solvePhaseTwo (rule : PivotRule σ) (budget : Nat)
    (isInitial : initial.IsInitial program) (canonical : program.IsCanonical)
    (endsPhaseOne : Tableau.EndsPhaseOne initial ended.tableau)
    (zero : ended.tableau.level ended.tableau.constraintCount = 0)
    (logged : ended.log.IsOfRun initial.start) :
    rule.Yields
      (fun result => result.1.IsCorrect program initial.start)
      (rule.solvePhaseTwo budget ended) := by
  obtain ⟨prepared, phaseOne, phaseTwo, columns, changed, change, sameOne,
    sameTwo⟩ :=
      (endsPhaseOne.readyForPhaseTwo isInitial zero).changePhase_eq_ok
        { ended.log with success := some true }
  have preparation := change.of_equivalent endsPhaseOne.equivalent
  have expresses := preparation.expresses isInitial canonical
  unfold solvePhaseTwo
  simp only [changed, Halt.lift_bind]
  apply (rule.yields_run budget preparation.form.toShaped).bind
  rintro final ⟨pivots, ran⟩
  have equivalent := ran.leads.equivalent preparation.form.toShaped
  obtain ⟨outcome, found, solved⟩ :=
    (expresses.of_equivalent equivalent).finalOutcome_eq_ok
      (ran.leads.basicForm preparation.form)
      (ran.leads.feasible preparation.feasible) ran.exhausted
  simp only [found, Halt.lift_bind]
  refine ⟨solved, ?_, ?_⟩
  · exact logged.of_sameRun
      (sameOne.trans ended.log.sameRun_noted)
  · rintro log equal
    obtain rfl := Option.some.inj equal
    have isOfRun := ran.isOfRun preparation.form.toShaped sameTwo
    rw [preparation.start_eq] at isOfRun
    exact isOfRun.of_sameRun final.log.sameRun_noted

/-- The simplex method ends with a true outcome of the canonical program,
unless its budget runs out or an answer of the rule is refused. -/
theorem yields_solve (rule : PivotRule σ) (budget : Nat) (state : σ)
    (isInitial : initial.IsInitial program)
    (canonical : program.IsCanonical) :
    rule.Yields (fun result => result.1.IsCorrect program initial.start)
      (rule.solve budget state initial) := by
  obtain ⟨prepared, log, started, form, repriced, fresh⟩ :=
    Tableau.startPhaseOne_eq_ok isInitial.unitBasis isInitial.distinct
      isInitial.counts
  have feasible := repriced.feasible isInitial.feasible
  unfold solve
  simp only [isInitial.recheck_eq_ok, mapError_ok, started, Halt.lift_bind]
  apply (rule.yields_run budget form.toShaped).bind
  rintro ended ⟨pivots, ran⟩
  have endsPhaseOne := ran.endsPhaseOne form feasible repriced.equivalent
  have logged : ended.log.IsOfRun initial.start := by
    rw [← repriced.start_eq]
    exact ran.isOfRun form.toShaped fresh
  simp only [endsPhaseOne.form.value_eq_ok, Halt.lift_bind]
  split
  · next zero =>
      exact rule.yields_solvePhaseTwo budget isInitial canonical endsPhaseOne
        zero logged
  · next nonzero =>
      refine ⟨endsPhaseOne.isInfeasible isInitial canonical nonzero, ?_, ?_⟩
      · exact logged.of_sameRun ended.log.sameRun_noted
      · intro log equal
        cases equal

end PivotRule

end RationalSimplex
