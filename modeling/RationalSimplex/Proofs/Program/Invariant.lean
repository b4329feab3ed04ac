import RationalSimplex.Proofs.Program.Solve
import RationalSimplex.Proofs.Simplex.Invariant

/-!
# The tableaux of a solve

Every tableau that is recorded while a program is solved is about the vectors of
the canonical form: a value for every variable, every slack variable and, in
the first phase, every artificial variable.  The tableau is in basic form, no
right-hand side is negative, its rows have the solutions of the initial rows,
and its last row expresses the objective of the phase.
-/

namespace RationalSimplex

/-- The vector with zeros for the artificial variables. -/
def LinearProgram.padded (program : LinearProgram) (values : Nat → Rat)
    (column : Nat) : Rat :=
  if column < program.width + program.constraints.length then values column
  else 0

namespace Tableau

variable {tableau prepared initial : Tableau} {program : LinearProgram}
  {columns : List Int}

/-- A tableau of the first phase for a canonical program. -/
structure IsOfPhaseOne (tableau initial : Tableau)
    (program : LinearProgram) : Prop where
  distinct : tableau.basis.Nodup
  form : tableau.BasicForm
  feasible : tableau.Feasible
  columnCount_eq : tableau.columnCount =
    program.width + program.constraints.length + program.artificialCount
  solves_iff : ∀ values, tableau.Solves values ↔ initial.Solves values
  objectiveAt_eq : ∀ values, tableau.Solves values →
    tableau.objectiveAt values =
      -∑ index ∈ Finset.range program.artificialCount,
        values (program.width + program.constraints.length + index)

/-- A tableau of the second phase for a canonical program. -/
structure IsOfPhaseTwo (tableau initial : Tableau)
    (program : LinearProgram) : Prop where
  distinct : tableau.basis.Nodup
  form : tableau.BasicForm
  feasible : tableau.Feasible
  columnCount_eq : tableau.columnCount =
    program.width + program.constraints.length
  solves_iff : ∀ values,
    tableau.Solves values ↔ initial.Solves (program.padded values)
  evaluate_eq : ∀ values, tableau.Solves values →
    program.objective.evaluate ((List.range program.width).map values) =
      .ok (tableau.objectiveAt values)

theorem Maintains.isOfPhaseOne (maintains : tableau.Maintains initial)
    (isInitial : initial.IsInitial program) :
    tableau.IsOfPhaseOne initial program where
  distinct := maintains.form.nodup_basis
  form := maintains.form
  feasible := maintains.feasible
  columnCount_eq :=
    maintains.equivalent.columnCount_eq.trans isInitial.columnCount_eq
  solves_iff := maintains.equivalent.solves_iff
  objectiveAt_eq := by
    intro values solves
    have initialSolves := (maintains.equivalent.solves_iff values).mp solves
    rw [maintains.equivalent.objectiveAt_eq values initialSolves,
      isInitial.objectiveAt_eq]

namespace Prepared

/-- The dropped columns are those of the artificial variables, so that as many
columns are left as there are variables and slack variables. -/
theorem columnCount_eq_add (preparation : Prepared initial columns prepared)
    (isInitial : initial.IsInitial program) :
    prepared.columnCount = program.width + program.constraints.length := by
  have permuted : columns.Perm initial.artificial := by
    apply (List.perm_ext_iff_of_nodup _ isInitial.distinct).mpr
    · exact preparation.mem_columns_iff
    · exact preparation.ascending.imp fun less => less.ne
  have count := preparation.columnCount_eq
  rw [permuted.length_eq, isInitial.artificial_eq, List.length_map,
    List.length_range, isInitial.columnCount_eq] at count
  omega

/-- Zeros at the dropped columns are zeros for the artificial variables. -/
theorem insertZeros_eq_padded (preparation : Prepared initial columns prepared)
    (isInitial : initial.IsInitial program) (values : Nat → Rat)
    {column : Nat} (inside : column < initial.columnCount) :
    insertZeros columns values column = program.padded values column := by
  unfold LinearProgram.padded
  split
  · next before =>
      apply insertZeros_of_lt
      intro index listed
      have behind := preparation.le_of_mem_columns isInitial listed
      omega
  · next behind =>
      apply insertZeros_of_mem preparation.ascending
      apply (preparation.mem_columns_iff _).mpr
      exact isInitial.mem_artificial_iff.mpr ⟨not_lt.mp behind, inside⟩

theorem solves_padded_iff (preparation : Prepared initial columns prepared)
    (isInitial : initial.IsInitial program) (values : Nat → Rat) :
    prepared.Solves values ↔ initial.Solves (program.padded values) := by
  rw [preparation.solves_iff]
  apply solves_congr
  intro column inside
  exact preparation.insertZeros_eq_padded isInitial values inside

end Prepared

theorem Maintains.isOfPhaseTwo (maintains : tableau.Maintains prepared)
    (preparation : Prepared initial columns prepared)
    (isInitial : initial.IsInitial program) :
    tableau.IsOfPhaseTwo initial program where
  distinct := maintains.form.nodup_basis
  form := maintains.form
  feasible := maintains.feasible
  columnCount_eq := maintains.equivalent.columnCount_eq.trans
    (preparation.columnCount_eq_add isInitial)
  solves_iff := fun values => (maintains.equivalent.solves_iff values).trans
    (preparation.solves_padded_iff isInitial values)
  evaluate_eq := by
    intro values solves
    have preparedSolves := (maintains.equivalent.solves_iff values).mp solves
    apply Objective.evaluate_eq_ok_iff.mpr
    constructor
    · rw [List.length_map, List.length_range]
      exact Nat.le_refl _
    · rw [maintains.equivalent.objectiveAt_eq values preparedSolves,
        preparation.objectiveAt_eq_dot isInitial preparedSolves]

end Tableau

namespace LinearProgram

variable {σ : Type} {program : LinearProgram} {rule : PivotRule σ}
  {budget : Nat} {start : σ}

/-- The parts of a solved program come from the canonical form of a program and
from each other. -/
structure StagesOf (program : LinearProgram) (rule : PivotRule σ)
    (budget : Nat) (start : σ) (solved : SolvedProgram) (final : σ) :
    Prop where
  canonical_eq : solved.canonical = program.canonicalForm.1
  initial_eq : Tableau.ofCanonical program.canonicalForm.1 =
    .ok solved.initial
  solution_eq : rule.solve budget start solved.initial =
    .ok (solved.solution, final)
  outcome_eq : restoreOutcome program program.canonicalForm.2
    solved.solution.outcome = .ok solved.outcome
  planPath_eq : restorePath program program.canonicalForm.2
    solved.solution = .ok solved.planPath
  history_eq : solveHistory solved.solution solved.planPath =
    .ok solved.history

theorem stagesOf_solve {solved : SolvedProgram} {final : σ}
    (run : program.solve rule budget start = .ok (solved, final)) :
    program.StagesOf rule budget start solved final := by
  unfold solve at run
  obtain ⟨form, canonized, run⟩ := bind_eq_ok_iff.mp run
  obtain ⟨initial, built, run⟩ := bind_eq_ok_iff.mp run
  obtain ⟨⟨solution, next⟩, ran, run⟩ := bind_eq_ok_iff.mp run
  obtain ⟨outcome, restored, run⟩ := bind_eq_ok_iff.mp run
  obtain ⟨path, carried, run⟩ := bind_eq_ok_iff.mp run
  obtain ⟨history, recorded, run⟩ := bind_eq_ok_iff.mp run
  rw [PivotRule.lift_eq_ok_iff] at canonized built restored carried recorded
  rw [program.canonize_eq_ok] at canonized
  cases canonized
  cases run
  exact ⟨rfl, built, ran, restored, carried, recorded⟩

/-- Whatever the rule picks from the pivots on offer, every tableau that is
recorded on the way is one of the first or the second phase for the canonical
form, and the snapshots in the logs of a solve are those of such tableaux. -/
theorem solve_tableaux (program : LinearProgram) (rule : PivotRule σ)
    (start : σ) :
    ∃ initial, Tableau.ofCanonical program.canonicalForm.1 = .ok initial ∧
      (∀ point, rule.ReachesInPhaseOne initial start point →
        point.tableau.IsOfPhaseOne initial program.canonicalForm.1) ∧
      (∀ point, rule.ReachesInPhaseTwo initial start point →
        point.tableau.IsOfPhaseTwo initial program.canonicalForm.1) ∧
      ∀ budget solved final,
        program.solve rule budget start = .ok (solved, final) →
          (∀ snapshot ∈ solved.solution.phaseOne.snapshots,
            ∃ point, rule.ReachesInPhaseOne initial start point ∧
              point.tableau.snapshot = snapshot) ∧
          ∀ log, solved.solution.phaseTwo = some log →
            ∀ snapshot ∈ log.snapshots,
              ∃ point, rule.ReachesInPhaseTwo initial start point ∧
                point.tableau.snapshot = snapshot := by
  obtain ⟨initial, built, isInitial⟩ :=
    Tableau.ofCanonical_eq_ok program.isCanonical_canonicalForm
  refine ⟨initial, built, ?_, ?_, ?_⟩
  · intro point reached
    exact (reached.maintains isInitial).isOfPhaseOne isInitial
  · intro point reached
    obtain ⟨prepared, columns, preparation, maintains⟩ :=
      reached.exists_prepared isInitial
    exact maintains.isOfPhaseTwo preparation isInitial
  · intro budget solved final run
    have stages := stagesOf_solve run
    have same := stages.initial_eq
    rw [built] at same
    cases same
    exact PivotRule.exists_of_mem_snapshots_solve stages.solution_eq isInitial

/-- On the line each phase carries out a pivot, after which its tableau still
is one of the phase. -/
theorem solve_tableaux_onLine :
    ∃ initial first second,
      Tableau.ofCanonical (onLine 2 (-1)).canonicalForm.1 = .ok initial ∧
      PivotRule.first.ReachesInPhaseOne initial () first ∧
      first.tableau.basis = [0, 6, 5] ∧
      first.tableau.IsOfPhaseOne initial (onLine 2 (-1)).canonicalForm.1 ∧
      PivotRule.first.ReachesInPhaseTwo initial () second ∧
      second.tableau.basis = [1, 3, 5] ∧
      second.tableau.IsOfPhaseTwo initial (onLine 2 (-1)).canonicalForm.1 := by
  obtain ⟨initial, built, one, two, recorded⟩ :=
    solve_tableaux (onLine 2 (-1)) PivotRule.first ()
  have computed : (((onLine 2 (-1)).solve PivotRule.first 4 ()).toOption.map
      fun result => (result.1.solution.phaseOne.snapshots.map Snapshot.basis,
        result.1.solution.phaseTwo.map fun log =>
          log.snapshots.map Snapshot.basis)) =
      some ([[3, 6, 5], [0, 6, 5]], some [[0, 3, 5], [1, 3, 5]]) := by
    decide +kernel
  obtain ⟨⟨solved, final⟩, found, bases⟩ := Option.map_eq_some_iff.mp computed
  obtain ⟨ones, twos⟩ := Prod.mk.inj bases
  obtain ⟨ofOne, ofTwo⟩ :=
    recorded 4 solved final (toOption_eq_some_iff.mp found)
  have onesListed : [0, 6, 5] ∈
      solved.solution.phaseOne.snapshots.map Snapshot.basis := by
    rw [ones]
    exact List.mem_cons_of_mem _ List.mem_cons_self
  obtain ⟨earlier, earlierListed, earlierBasis⟩ := List.mem_map.mp onesListed
  obtain ⟨first, reachesOne, rfl⟩ := ofOne earlier earlierListed
  obtain ⟨log, phaseTwo, logBases⟩ := Option.map_eq_some_iff.mp twos
  have twosListed : [1, 3, 5] ∈ log.snapshots.map Snapshot.basis := by
    rw [logBases]
    exact List.mem_cons_of_mem _ List.mem_cons_self
  obtain ⟨later, laterListed, laterBasis⟩ := List.mem_map.mp twosListed
  obtain ⟨second, reachesTwo, rfl⟩ := ofTwo log phaseTwo later laterListed
  exact ⟨initial, first, second, built, reachesOne, earlierBasis,
    one first reachesOne, reachesTwo, laterBasis, two second reachesTwo⟩

end LinearProgram

end RationalSimplex
