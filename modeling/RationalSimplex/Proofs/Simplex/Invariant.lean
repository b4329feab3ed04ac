import RationalSimplex.Proofs.Simplex.Reach
import RationalSimplex.Proofs.Simplex.Solve

/-!
# What holds at every point of a run

Every tableau that is recorded is in basic form with nonnegative right-hand
sides, and it has the solutions and the objective of the tableau that its phase
is about.  In the first phase that is the initial tableau, whose objective is
minus the sum of the artificial variables.  In the second phase the solutions
are those of the initial tableau in which the artificial variables are zero,
and the objective is that of the program.
-/

namespace RationalSimplex

namespace Tableau

variable {tableau source initial : Tableau} {program : LinearProgram}

/-! ## One pivot -/

/-- The tableau is in basic form with nonnegative right-hand sides, and it says
the same as the source. -/
structure Maintains (tableau source : Tableau) : Prop where
  form : tableau.BasicForm
  feasible : tableau.Feasible
  equivalent : tableau.Equivalent source

theorem Maintains.refl (form : tableau.BasicForm)
    (feasible : tableau.Feasible) : tableau.Maintains tableau :=
  ⟨form, feasible, .refl tableau⟩

/-- A candidate keeps all that is maintained. -/
theorem Maintains.pivoted (maintains : tableau.Maintains source)
    {pivot : Pivot} (offered : pivot ∈ tableau.candidates) :
    (tableau.pivoted pivot.1 pivot.2).Maintains source := by
  obtain ⟨rowInside, columnInside, admissible⟩ := mem_candidates_iff.mp offered
  obtain ⟨_, positive, ratio⟩ := admissible
  have shaped := maintains.form.toShaped
  exact {
    form := maintains.form.pivoted rowInside columnInside positive.ne'
    feasible := maintains.feasible.pivoted rowInside positive ratio
    equivalent := (shaped.equivalent_pivoted rowInside positive.ne').trans
      maintains.equivalent }

theorem UnitBasis.nodup_basis (form : tableau.UnitBasis) :
    tableau.basis.Nodup := by
  rw [List.nodup_iff_getElem?_ne_getElem?]
  intro first second less inside equal
  have basic := List.getElem?_eq_getElem inside
  have same := form.row_unique (equal.trans basic) basic
  exact less.ne same

/-- Only the values of the columns are read. -/
theorem solves_congr {values others : Nat → Rat}
    (same : ∀ column < tableau.columnCount, values column = others column) :
    tableau.Solves values ↔ tableau.Solves others := by
  have residual : ∀ row, tableau.matrix.residual values row =
      tableau.matrix.residual others row := by
    intro row
    rw [residual_eq, residual_eq]
    congr 1
    apply Finset.sum_congr rfl
    intro column member
    rw [same column (Finset.mem_range.mp member)]
  simp only [Solves, residual]

end Tableau

/-! ## Rounds -/

namespace PivotRule

variable {σ : Type} {rule : PivotRule σ} {initial source : Tableau}
  {start : σ} {program : LinearProgram} {first last before after : Progress σ}

/-- A round carries out a pivot and notes it with the tableau that it leads
to. -/
theorem Round.exists_noted (round : rule.Round before after)
    (shaped : before.tableau.Shaped) :
    ∃ pivot ∈ before.tableau.candidates,
      after.tableau = before.tableau.pivoted pivot.1 pivot.2 ∧
        after.log = (before.log.notePivot pivot
          before.tableau.candidates.length).withTableau after.tableau := by
  have stepped : rule.step before = .ok (some after) := round
  rcases rule.step_cases shaped with ⟨_, stopped⟩ |
    ⟨pivot, offered, state, _, taken⟩ | ⟨answer, _, refused⟩
  · rw [stopped] at stepped
    cases stepped
  · rw [taken] at stepped
    cases stepped
    exact ⟨pivot, offered, rfl, rfl⟩
  · rw [refused] at stepped
    cases stepped

theorem Round.exists_pivot (round : rule.Round before after)
    (shaped : before.tableau.Shaped) :
    ∃ pivot ∈ before.tableau.candidates,
      after.tableau = before.tableau.pivoted pivot.1 pivot.2 ∧
        after.log.snapshots =
          before.log.snapshots ++ [after.tableau.snapshot] ∧
        after.log.pivots = before.log.pivots ++ [pivot] := by
  obtain ⟨pivot, offered, pivoted, logged⟩ := round.exists_noted shaped
  refine ⟨pivot, offered, pivoted, ?_, ?_⟩
  · rw [logged]
    rfl
  · rw [logged]
    rfl

theorem candidates_eq_nil_of_stopped (stopped : rule.step last = .ok none)
    (shaped : last.tableau.Shaped) : last.tableau.candidates = [] := by
  rcases rule.step_cases shaped with ⟨exhausted, _⟩ |
    ⟨pivot, offered, state, _, taken⟩ | ⟨answer, _, refused⟩
  · exact exhausted
  · rw [taken] at stopped
    cases stopped
  · rw [refused] at stopped
    cases stopped

theorem Round.maintains (round : rule.Round before after)
    (maintains : before.tableau.Maintains source) :
    after.tableau.Maintains source := by
  obtain ⟨pivot, offered, pivoted, _⟩ :=
    round.exists_pivot maintains.form.toShaped
  rw [pivoted]
  exact maintains.pivoted offered

theorem Rounds.maintains (rounds : rule.Rounds first last)
    (maintains : first.tableau.Maintains source) :
    last.tableau.Maintains source := by
  induction rounds with
  | none => exact maintains
  | next round _ induction => exact induction (round.maintains maintains)

/-- Every snapshot that rounds have added to a log is that of a point on the
way. -/
theorem Rounds.exists_of_mem_snapshots (rounds : rule.Rounds first last)
    (maintains : first.tableau.Maintains source) {snapshot : Snapshot}
    (member : snapshot ∈ last.log.snapshots) :
    snapshot ∈ first.log.snapshots ∨
      ∃ point, rule.Rounds first point ∧ point.tableau.snapshot = snapshot := by
  induction rounds with
  | none => exact .inl member
  | @next before between last round rounds induction =>
      obtain ⟨_, _, _, snapshots, _⟩ :=
        round.exists_pivot maintains.form.toShaped
      rcases induction (round.maintains maintains) member with
        noted | ⟨point, later, equal⟩
      · rw [snapshots, List.mem_append, List.mem_singleton] at noted
        rcases noted with earlier | rfl
        · exact .inl earlier
        · exact .inr ⟨between, .next round (.none between), rfl⟩
      · exact .inr ⟨point, .next round later, equal⟩

/-! ## The first phase -/

theorem BeginsPhaseOne.maintains (begins : BeginsPhaseOne initial start first)
    (isInitial : initial.IsInitial program) :
    first.tableau.Maintains initial ∧
      first.log.snapshots = [first.tableau.snapshot] := by
  obtain ⟨work, log, checked, started, noted⟩ := begins.prepared
  rw [isInitial.recheck_eq_ok] at checked
  cases checked
  obtain ⟨prepared, fresh, found, form, repriced, same⟩ :=
    Tableau.startPhaseOne_eq_ok isInitial.unitBasis isInitial.distinct
      isInitial.counts
  rw [found] at started
  cases started
  rw [PhaseLog.noteTableau_eq_ok form.toShaped] at noted
  have snapshots := congrArg PhaseLog.snapshots (Except.ok.inj noted)
  refine ⟨⟨form, repriced.feasible isInitial.feasible, repriced.equivalent⟩, ?_⟩
  rw [← snapshots]
  simp [PhaseLog.withTableau, same.snapshots_eq, PhaseLog.empty]

theorem exists_beginsPhaseOne (isInitial : initial.IsInitial program)
    (start : σ) : ∃ first, BeginsPhaseOne initial start first := by
  obtain ⟨prepared, log, found, form, _⟩ :=
    Tableau.startPhaseOne_eq_ok isInitial.unitBasis isInitial.distinct
      isInitial.counts
  exact ⟨⟨prepared, log.withTableau prepared, start⟩,
    ⟨initial, log, isInitial.recheck_eq_ok, found,
      PhaseLog.noteTableau_eq_ok form.toShaped log⟩, rfl⟩

theorem ReachesInPhaseOne.maintains
    (reached : rule.ReachesInPhaseOne initial start last)
    (isInitial : initial.IsInitial program) :
    last.tableau.Maintains initial := by
  obtain ⟨first, begins, rounds⟩ := reached
  exact rounds.maintains (begins.maintains isInitial).1

theorem ReachesInPhaseOne.exists_of_mem_snapshots
    (reached : rule.ReachesInPhaseOne initial start last)
    (isInitial : initial.IsInitial program) {snapshot : Snapshot}
    (member : snapshot ∈ last.log.snapshots) :
    ∃ point, rule.ReachesInPhaseOne initial start point ∧
      point.tableau.snapshot = snapshot := by
  obtain ⟨first, begins, rounds⟩ := reached
  obtain ⟨maintains, snapshots⟩ := begins.maintains isInitial
  rcases rounds.exists_of_mem_snapshots maintains member with
    noted | ⟨point, earlier, equal⟩
  · rw [snapshots, List.mem_singleton] at noted
    exact ⟨first, ⟨first, begins, .none first⟩, noted.symm⟩
  · exact ⟨point, ⟨first, begins, earlier⟩, equal⟩

/-- Where the first phase stops, its tableau shows the least sum of the
artificial variables. -/
theorem ReachesInPhaseOne.endsPhaseOne
    (reached : rule.ReachesInPhaseOne initial start last)
    (stopped : rule.step last = .ok none)
    (isInitial : initial.IsInitial program) :
    Tableau.EndsPhaseOne initial last.tableau := by
  have maintains := reached.maintains isInitial
  exact {
    form := maintains.form
    feasible := maintains.feasible
    exhausted := candidates_eq_nil_of_stopped stopped maintains.form.toShaped
    equivalent := maintains.equivalent }

theorem ReachesInPhaseOne.readyForPhaseTwo
    (reached : rule.ReachesInPhaseOne initial start last)
    (stopped : rule.step last = .ok none)
    (value : last.tableau.value = .ok 0)
    (isInitial : initial.IsInitial program) :
    last.tableau.ReadyForPhaseTwo := by
  have ended := reached.endsPhaseOne stopped isInitial
  apply ended.readyForPhaseTwo isInitial
  rw [ended.form.value_eq_ok] at value
  exact Except.ok.inj value

/-! ## The second phase -/

/-- The second phase begins with the prepared tableau, and it has noted nothing
of a run before that. -/
theorem BeginsPhaseTwo.exists_noted (begins : BeginsPhaseTwo before first)
    (ready : before.tableau.ReadyForPhaseTwo) :
    ∃ columns, ∃ fresh : PhaseLog,
      Tableau.Prepared before.tableau columns first.tableau ∧
        fresh.SameRun PhaseLog.empty ∧
          first.log = fresh.withTableau first.tableau := by
  obtain ⟨phaseOne, phaseTwo, changed, noted⟩ := begins.prepared
  obtain ⟨prepared, one, two, columns, found, preparation, _, same⟩ :=
    ready.changePhase_eq_ok { before.log with success := some true }
  rw [found] at changed
  cases changed
  rw [PhaseLog.noteTableau_eq_ok preparation.form.toShaped] at noted
  exact ⟨columns, phaseTwo, preparation, same, (Except.ok.inj noted).symm⟩

theorem BeginsPhaseTwo.exists_prepared (begins : BeginsPhaseTwo before first)
    (ready : before.tableau.ReadyForPhaseTwo) :
    (∃ columns, Tableau.Prepared before.tableau columns first.tableau) ∧
      first.log.snapshots = [first.tableau.snapshot] := by
  obtain ⟨columns, fresh, preparation, same, logged⟩ :=
    begins.exists_noted ready
  refine ⟨⟨columns, preparation⟩, ?_⟩
  rw [logged]
  simp [PhaseLog.withTableau, same.snapshots_eq, PhaseLog.empty]

theorem exists_beginsPhaseTwo (ready : before.tableau.ReadyForPhaseTwo)
    (value : before.tableau.value = .ok 0) :
    ∃ first, BeginsPhaseTwo before first := by
  obtain ⟨prepared, phaseOne, phaseTwo, columns, found, preparation, _⟩ :=
    ready.changePhase_eq_ok { before.log with success := some true }
  exact ⟨⟨prepared, phaseTwo.withTableau prepared, before.state⟩, value,
    ⟨phaseOne, phaseTwo, found,
      PhaseLog.noteTableau_eq_ok preparation.form.toShaped phaseTwo⟩, rfl⟩

/-- All tableaux of the second phase say the same as the one that was
prepared. -/
theorem ReachesInPhaseTwo.exists_prepared
    (reached : rule.ReachesInPhaseTwo initial start last)
    (isInitial : initial.IsInitial program) :
    ∃ prepared columns, Tableau.Prepared initial columns prepared ∧
      last.tableau.Maintains prepared := by
  obtain ⟨ended, first, reachedOne, stopped, begins, rounds⟩ := reached
  obtain ⟨⟨columns, preparation⟩, _⟩ := begins.exists_prepared
    (reachedOne.readyForPhaseTwo stopped begins.value_eq isInitial)
  refine ⟨first.tableau, columns, preparation.of_equivalent
    (reachedOne.maintains isInitial).equivalent, ?_⟩
  exact rounds.maintains (.refl preparation.form preparation.feasible)

theorem ReachesInPhaseTwo.exists_of_mem_snapshots
    (reached : rule.ReachesInPhaseTwo initial start last)
    (isInitial : initial.IsInitial program) {snapshot : Snapshot}
    (member : snapshot ∈ last.log.snapshots) :
    ∃ point, rule.ReachesInPhaseTwo initial start point ∧
      point.tableau.snapshot = snapshot := by
  obtain ⟨ended, first, reachedOne, stopped, begins, rounds⟩ := reached
  obtain ⟨⟨columns, preparation⟩, snapshots⟩ := begins.exists_prepared
    (reachedOne.readyForPhaseTwo stopped begins.value_eq isInitial)
  rcases rounds.exists_of_mem_snapshots
    (.refl preparation.form preparation.feasible) member with
      noted | ⟨point, earlier, equal⟩
  · rw [snapshots, List.mem_singleton] at noted
    exact ⟨first, ⟨ended, first, reachedOne, stopped, begins, .none first⟩,
      noted.symm⟩
  · exact ⟨point, ⟨ended, first, reachedOne, stopped, begins, earlier⟩, equal⟩

/-! ## Solutions -/

/-- The snapshots of a solution are those of the points that its run passed. -/
theorem exists_of_mem_snapshots_solve {budget : Nat} {solution : Solution}
    {final : σ}
    (solved : rule.solve budget start initial = .ok (solution, final))
    (isInitial : initial.IsInitial program) :
    (∀ snapshot ∈ solution.phaseOne.snapshots,
        ∃ point, rule.ReachesInPhaseOne initial start point ∧
          point.tableau.snapshot = snapshot) ∧
      ∀ log, solution.phaseTwo = some log → ∀ snapshot ∈ log.snapshots,
        ∃ point, rule.ReachesInPhaseTwo initial start point ∧
          point.tableau.snapshot = snapshot := by
  rcases ends_of_solve solved with ⟨ended, ends⟩ | ⟨ended, first, last, ends⟩
  · constructor
    · intro snapshot member
      rw [ends.snapshots_one] at member
      exact ends.reached.exists_of_mem_snapshots isInitial member
    · intro log equal
      rw [ends.phaseTwo_eq] at equal
      cases equal
  · have ready := ends.reachedOne.readyForPhaseTwo ends.stoppedOne
      ends.begins.value_eq isInitial
    constructor
    · intro snapshot member
      obtain ⟨_, one, _, _, found, _, same, _⟩ :=
        ready.changePhase_eq_ok { ended.log with success := some true }
      obtain ⟨_, changed⟩ := ends.phaseOne_eq
      rw [found] at changed
      cases changed
      rw [same.snapshots_eq] at member
      exact ends.reachedOne.exists_of_mem_snapshots isInitial member
    · intro log equal snapshot member
      obtain ⟨success, phaseTwo⟩ := ends.phaseTwo_eq
      rw [phaseTwo] at equal
      cases equal
      exact ends.reached.exists_of_mem_snapshots isInitial member

end PivotRule

end RationalSimplex
