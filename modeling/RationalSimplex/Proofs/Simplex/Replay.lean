import RationalSimplex.Proofs.Simplex.Redundancy
import RationalSimplex.Proofs.Simplex.Trace

/-!
# What a solution notes can be carried out again

Beside its pivots a solution notes the rows that were subtracted from the
objective row, the pivots that drove artificial variables out, and the columns
that were dropped.  Since no row is dropped, these notes are all that is needed
to get from the initial tableau to the last one.
-/

namespace RationalSimplex

namespace Tableau

/-- Subtract rows from the objective row, each with its factor. -/
def subtractAll (tableau : Tableau) (subtractions : List (Nat × Rat)) :
    Except Fault Tableau :=
  subtractions.foldlM
    (fun tableau subtraction =>
      tableau.priceOut subtraction.1 subtraction.2)
    tableau

/-- Drop columns one after the other. -/
def eraseAll (tableau : Tableau) (columns : List Int) :
    Except Fault Tableau :=
  columns.foldlM eraseColumn tableau

/-- Make a tableau ready for the second phase as the log of that phase says:
drop the columns from the highest down, enter the objective and subtract the
rows. -/
def prepareAgain (tableau : Tableau) (objective : Objective)
    (log : PhaseLog) : Except Fault Tableau := do
  let dropped ← tableau.eraseAll log.droppedColumns.reverse
  let entered ←
    ({ dropped with objective := objective } : Tableau).enterObjective
  let priced ← entered.subtractAll log.subtractions
  return { priced with iteration := 0 }

end Tableau

/-- Carry out what a solution notes, with the objective of the program. -/
def Solution.replay (solution : Solution) (objective : Objective)
    (initial : Tableau) : Except Fault Tableau := do
  let first ← initial.subtractAll solution.phaseOne.subtractions
  let driven ← first.pivotAll
    (solution.phaseOne.pivots ++ solution.phaseOne.expulsions)
  match solution.phaseTwo with
  | none => return driven
  | some log =>
      let second ← driven.prepareAgain objective log
      second.pivotAll log.pivots

namespace Tableau

variable {tableau source prepared last : Tableau}
  {log phaseOne phaseTwo : PhaseLog} {pivots : List Pivot}
  {work next : Tableau × PhaseLog}

/-! ## Pricing and dropping -/

/-- The tableau comes from the source by the subtractions that its log notes
after those in the log of the source. -/
structure Subtracted (source : Tableau) (log : PhaseLog)
    (work : Tableau × PhaseLog) : Prop where
  noted : ∃ subtractions,
    work.2 = { log with subtractions := log.subtractions ++ subtractions } ∧
      source.subtractAll subtractions = .ok work.1
  iteration_eq : work.1.iteration = source.iteration

theorem Subtracted.refl (tableau : Tableau) (log : PhaseLog) :
    Subtracted tableau log (tableau, log) :=
  ⟨⟨[], by simp, rfl⟩, rfl⟩

theorem Subtracted.priceOut (subtracted : Subtracted source log work)
    {row : Nat} {factor : Rat}
    (priced : work.1.priceOut row factor = .ok tableau) :
    Subtracted source log (tableau, work.2.noteSubtraction row factor) := by
  obtain ⟨⟨subtractions, logged, carried⟩, iteration⟩ := subtracted
  refine ⟨⟨subtractions ++ [(row, factor)], ?_, ?_⟩, ?_⟩
  · rw [logged, PhaseLog.noteSubtraction, List.append_assoc]
  · unfold subtractAll at carried ⊢
    rw [List.foldlM_append, carried]
    simp [priced]
  · obtain ⟨matrix, _, result⟩ := bind_eq_ok_iff.mp priced
    cases result
    exact iteration

theorem Subtracted.priceArtificial {artificial : Int}
    (subtracted : Subtracted source log work)
    (priced : priceArtificial work artificial = .ok next) :
    Subtracted source log next := by
  unfold Tableau.priceArtificial at priced
  split at priced
  · cases priced
    exact subtracted
  · obtain ⟨tableau, carried, result⟩ := bind_eq_ok_iff.mp priced
    cases result
    exact subtracted.priceOut carried

theorem Subtracted.priceColumn {column : Nat}
    (subtracted : Subtracted source log work)
    (priced : priceColumn work column = .ok next) :
    Subtracted source log next := by
  unfold Tableau.priceColumn at priced
  split at priced
  · cases priced
    exact subtracted
  · obtain ⟨cost, _, priced⟩ := bind_eq_ok_iff.mp priced
    split at priced
    · cases priced
      exact subtracted
    · obtain ⟨tableau, carried, result⟩ := bind_eq_ok_iff.mp priced
      cases result
      exact subtracted.priceOut carried

/-- The tableau comes from the source by dropping the columns that its log
notes, the last of them first. -/
def Erased (source : Tableau) (work : Tableau × PhaseLog) : Prop :=
  ∃ columns,
    work.2 = { PhaseLog.empty with droppedColumns := columns.reverse } ∧
      source.eraseAll columns = .ok work.1

theorem Erased.dropColumn {column : Int} (erased : Erased source work)
    (dropped : dropColumn work column = .ok next) : Erased source next := by
  obtain ⟨columns, logged, carried⟩ := erased
  obtain ⟨tableau, smaller, result⟩ := bind_eq_ok_iff.mp dropped
  cases result
  refine ⟨columns ++ [column], ?_, ?_⟩
  · simp [logged]
  · unfold eraseAll at carried ⊢
    rw [List.foldlM_append, carried]
    simp [smaller]

/-! ## The start of a phase -/

theorem subtracted_of_startPhaseOne
    (started : tableau.startPhaseOne = .ok (prepared, log)) :
    Subtracted tableau PhaseLog.empty (prepared, log) :=
  foldlM_keeps Subtracted.priceArtificial (.refl _ _) started

/-- The second phase is started in three steps. -/
theorem steps_of_startPhaseTwo
    (started : tableau.startPhaseTwo = .ok (prepared, log)) :
    ∃ dropped droppedLog entered priced,
      tableau.dropArtificials = .ok (dropped, droppedLog) ∧
        Erased tableau (dropped, droppedLog) ∧
        dropped.enterObjective = .ok entered ∧
        Subtracted entered droppedLog (priced, log) ∧
        prepared = { priced with iteration := 0 } := by
  unfold startPhaseTwo at started
  obtain ⟨⟨dropped, droppedLog⟩, droppedAll, started⟩ :=
    bind_eq_ok_iff.mp started
  obtain ⟨entered, enters, started⟩ := bind_eq_ok_iff.mp started
  obtain ⟨⟨priced, after⟩, folded, result⟩ := bind_eq_ok_iff.mp started
  cases result
  have erased : Erased tableau (dropped, droppedLog) :=
    foldlM_keeps Erased.dropColumn ⟨[], rfl, rfl⟩ droppedAll
  have subtracted : Subtracted entered droppedLog (priced, log) :=
    foldlM_keeps Subtracted.priceColumn (.refl _ _) folded
  exact ⟨dropped, droppedLog, entered, priced, droppedAll, erased, enters,
    subtracted, rfl⟩

/-- What is noted of the start of the second phase starts it again. -/
theorem prepareAgain_eq_ok {dropped entered priced : Tableau}
    {droppedLog : PhaseLog} (erased : Erased tableau (dropped, droppedLog))
    (enters : dropped.enterObjective = .ok entered)
    (subtracted : Subtracted entered droppedLog (priced, log)) :
    tableau.prepareAgain dropped.objective log =
        .ok { priced with iteration := 0 } ∧
      log.droppedColumns = droppedLog.droppedColumns := by
  obtain ⟨columns, droppedLogged, smaller⟩ := erased
  obtain ⟨⟨subtractions, logged, subtractedAll⟩, _⟩ := subtracted
  obtain rfl : droppedLog = _ := droppedLogged
  obtain rfl : log = _ := logged
  refine ⟨?_, rfl⟩
  unfold prepareAgain
  simp only [List.reverse_reverse, smaller, enters, PhaseLog.empty,
    List.nil_append, subtractedAll, ok_bind]
  rfl

/-- The change of phases notes what it does. -/
theorem ReadyForPhaseTwo.noted_of_changePhase
    (ready : tableau.ReadyForPhaseTwo)
    (separates : tableau.SeparatesArtificial)
    (changed : tableau.changePhase log = .ok (prepared, phaseOne, phaseTwo)) :
    ∃ driven pivots,
      phaseOne = { log with expulsions := log.expulsions ++ pivots } ∧
        tableau.pivotAll pivots = .ok driven ∧
        driven.prepareAgain tableau.objective phaseTwo = .ok prepared ∧
        Prepared tableau phaseTwo.droppedColumns prepared ∧
        prepared.iteration = 0 ∧ phaseTwo.SameRun PhaseLog.empty := by
  obtain ⟨driven, pivots, expelled, carried, expelling⟩ :=
    ready.expelArtificials_exchanges separates log
  obtain ⟨dropped, droppedLog, droppedAll, dropping⟩ :=
    ready.dropArtificials_eq_ok expelling
  obtain ⟨second, after, started, form, repriced, sameRun⟩ :=
    dropping.startPhaseTwo_eq_ok droppedAll
  unfold changePhase at changed
  simp only [expelled, started, ok_bind] at changed
  cases changed
  obtain ⟨_, _, entered, priced, droppedAgain, erased, enters, subtracted,
    rfl⟩ := steps_of_startPhaseTwo started
  rw [droppedAll] at droppedAgain
  cases droppedAgain
  obtain ⟨again, columns⟩ := prepareAgain_eq_ok erased enters subtracted
  have objective : dropped.objective = tableau.objective :=
    dropping.objective_eq.trans expelling.objective_eq
  refine ⟨driven, pivots, rfl, carried, ?_, ?_, rfl, sameRun⟩
  · rw [← objective]
    exact again
  · rw [columns]
    exact expelling.prepared_of_dropping dropping form repriced

/-! ## Pivots -/

@[simp]
theorem pivotAll_append (tableau : Tableau) (pivots others : List Pivot) :
    tableau.pivotAll (pivots ++ others) =
      tableau.pivotAll pivots >>= fun next => next.pivotAll others :=
  List.foldlM_append

theorem Leads.pivotAll_eq_ok (leads : Leads tableau pivots last)
    (shaped : tableau.Shaped) : tableau.pivotAll pivots = .ok last := by
  induction leads with
  | refl => rfl
  | pivot offered _ induction =>
      obtain ⟨rowInside, columnInside, admissible⟩ :=
        mem_candidates_iff.mp offered
      have can := shaped.canPivot_iff.mpr
        ⟨rowInside, columnInside, admissible.2.1.ne'⟩
      rw [shaped.pivotAll_cons can, induction shaped.pivoted]

end Tableau

/-! ## Solutions -/

/-- The first phase of a solution, from the tableau that was prepared for it to
the one where it stopped. -/
structure Solution.Begins (solution : Solution)
    (initial first ended : Tableau) : Prop where
  subtracted : initial.subtractAll solution.phaseOne.subtractions = .ok first
  maintains : first.Maintains initial
  iteration_eq : first.iteration = initial.iteration
  tells : solution.phaseOne.Tells first ended

/-- The solution of a run that came to its end with the first phase. -/
structure Solution.StopsAt (solution : Solution) (ended : Tableau) :
    Prop where
  level_ne : ended.level ended.constraintCount ≠ 0
  outcome_eq : solution.outcome = .infeasible
  phaseTwo_eq : solution.phaseTwo = none
  expulsions_eq : solution.phaseOne.expulsions = []
  tableau_eq : solution.tableau = ended
  iterations_eq : solution.iterations = solution.phaseOne.pivots.length

/-- The second phase of a solution, from the tableau that was prepared for it to
the one where it stopped. -/
structure Solution.GoesOn (solution : Solution) (initial ended : Tableau)
    (log : PhaseLog) (second last : Tableau) : Prop where
  level_eq : ended.level ended.constraintCount = 0
  phaseTwo_eq : solution.phaseTwo = some log
  prepared : ∃ driven,
    ended.pivotAll solution.phaseOne.expulsions = .ok driven ∧
      driven.prepareAgain initial.objective log = .ok second
  preparation : Tableau.Prepared initial log.droppedColumns second
  iteration_eq : second.iteration = 0
  tells : log.Tells second last
  outcome_eq : last.finalOutcome = .ok solution.outcome
  tableau_eq : solution.tableau = last
  iterations_eq : solution.iterations = solution.phaseOne.pivots.length +
    solution.phaseOne.expulsions.length + log.pivots.length

namespace Solution

variable {solution : Solution} {initial first ended second last : Tableau}
  {log : PhaseLog}

theorem Begins.pivotAll_eq_ok (begins : solution.Begins initial first ended) :
    first.pivotAll solution.phaseOne.pivots = .ok ended :=
  begins.tells.leads.pivotAll_eq_ok begins.maintains.form.toShaped

theorem StopsAt.replay_eq_ok (stops : solution.StopsAt ended)
    (begins : solution.Begins initial first ended) :
    solution.replay initial.objective initial = .ok solution.tableau := by
  unfold replay
  rw [stops.expulsions_eq, stops.phaseTwo_eq, stops.tableau_eq,
    List.append_nil]
  simp only [begins.subtracted, begins.pivotAll_eq_ok, ok_bind]
  rfl

theorem GoesOn.replay_eq_ok
    (goesOn : solution.GoesOn initial ended log second last)
    (begins : solution.Begins initial first ended) :
    solution.replay initial.objective initial = .ok solution.tableau := by
  obtain ⟨driven, driving, again⟩ := goesOn.prepared
  have pivoted := goesOn.tells.leads.pivotAll_eq_ok
    goesOn.preparation.form.toShaped
  unfold replay
  rw [goesOn.phaseTwo_eq, goesOn.tableau_eq]
  simp [begins.subtracted, begins.pivotAll_eq_ok, driving, again, pivoted]

end Solution

namespace PivotRule

variable {σ : Type} {rule : PivotRule σ} {initial first : Tableau}
  {program : LinearProgram} {start log : PhaseLog} {pivots : List Pivot}
  {ended final : Progress σ} {budget : Nat}

theorem Ran.tells (ran : Ran first start pivots final)
    (fresh : start.SameRun PhaseLog.empty) (same : log.SameRun final.log) :
    log.Tells first final.tableau := by
  have sameRun : log.SameRun (PhaseLog.empty.recorded first pivots) := by
    rw [ran.log_eq] at same
    exact same.trans (fresh.recorded first pivots)
  have listed : log.pivots = pivots := sameRun.pivots_eq
  exact {
    leads := by rw [listed]; exact ran.leads
    exhausted := ran.exhausted
    sameRun := by rw [listed]; exact sameRun }

/-- A run with a result has ended. -/
theorem exists_ran_of_run {progress : Progress σ}
    (ran : rule.run budget progress = .ok final)
    (shaped : progress.tableau.Shaped) :
    ∃ pivots, Ran progress.tableau progress.log pivots final := by
  have yields := rule.yields_run budget shaped
  rw [ran] at yields
  exact yields

/-- A second phase with a result goes on from the end of the first. -/
theorem goesOn_of_solvePhaseTwo {solution : Solution} {state : σ}
    (isInitial : initial.IsInitial program)
    (endsPhaseOne : Tableau.EndsPhaseOne initial ended.tableau)
    (zero : ended.tableau.level ended.tableau.constraintCount = 0)
    (fresh : ended.log.expulsions = [])
    (solved : rule.solvePhaseTwo budget ended = .ok (solution, state)) :
    solution.phaseOne.SameRun ended.log ∧
      solution.phaseOne.subtractions = ended.log.subtractions ∧
        ∃ log second last,
          solution.GoesOn initial ended.tableau log second last := by
  obtain ⟨prepared, phaseOne, phaseTwo, last, outcome, changed, ran, found,
    rfl⟩ := exists_run_of_solvePhaseTwo solved
  have equivalent := endsPhaseOne.equivalent
  obtain ⟨driven, pivots, rfl, driving, again, preparation, iteration,
    sameRun⟩ := (endsPhaseOne.readyForPhaseTwo isInitial zero)
      |>.noted_of_changePhase
        (equivalent.separatesArtificial isInitial.separatesArtificial) changed
  obtain ⟨_, ranTwo⟩ := exists_ran_of_run ran preparation.form.toShaped
  have noted : last.log.droppedColumns = phaseTwo.droppedColumns ∧
      last.log.subtractions = phaseTwo.subtractions := by
    rw [ranTwo.log_eq]
    exact ⟨rfl, rfl⟩
  refine ⟨ended.log.sameRun_noted, rfl, { last.log with
    success := some (outcome.status = .optimal) }, prepared, last.tableau, {
      level_eq := zero
      phaseTwo_eq := rfl
      prepared := ⟨driven, ?_, ?_⟩
      preparation := ?_
      iteration_eq := iteration
      tells := ranTwo.tells sameRun last.log.sameRun_noted
      outcome_eq := found
      tableau_eq := rfl
      iterations_eq := rfl }⟩
  · simpa only [fresh, List.nil_append] using driving
  · rw [equivalent.objective_eq] at again
    unfold Tableau.prepareAgain at again ⊢
    simp only [noted]
    exact again
  · simp only [noted]
    exact preparation.of_equivalent equivalent

/-- A solution is that of a run which stopped after the first phase or after
the second. -/
theorem phases_of_solve {solution : Solution} {start state : σ}
    (isInitial : initial.IsInitial program)
    (solved : rule.solve budget start initial = .ok (solution, state)) :
    ∃ first ended, solution.Begins initial first ended ∧
      (solution.StopsAt ended ∨
        ∃ log second last,
          solution.GoesOn initial ended log second last) := by
  obtain ⟨work, prepared, log, ended, value, checked, started, ran, read,
    rest⟩ := exists_run_of_solve solved
  rw [isInitial.recheck_eq_ok] at checked
  cases checked
  obtain ⟨_, _, startedAgain, form, repriced, fresh⟩ :=
    Tableau.startPhaseOne_eq_ok isInitial.unitBasis isInitial.distinct
      isInitial.counts
  rw [started] at startedAgain
  cases startedAgain
  obtain ⟨⟨subtractions, rfl, subtractedAll⟩, iteration⟩ :=
    Tableau.subtracted_of_startPhaseOne started
  obtain ⟨pivots, ranOne⟩ := exists_ran_of_run ran form.toShaped
  have feasible := repriced.feasible isInitial.feasible
  have endsPhaseOne := ranOne.endsPhaseOne form feasible repriced.equivalent
  rw [endsPhaseOne.form.value_eq_ok] at read
  cases read
  have begins : ∀ {solution : Solution},
      solution.phaseOne.SameRun ended.log →
      solution.phaseOne.subtractions = ended.log.subtractions →
        solution.Begins initial prepared ended.tableau := by
    intro solution sameRun same
    rw [ranOne.log_eq] at same
    exact {
      subtracted := by rw [same]; exact subtractedAll
      maintains := ⟨form, feasible, repriced.equivalent⟩
      iteration_eq := iteration
      tells := ranOne.tells fresh sameRun }
  have none : ended.log.expulsions = [] := by
    rw [ranOne.log_eq]
    rfl
  refine ⟨prepared, ended.tableau, ?_⟩
  rcases rest with ⟨zero, solved⟩ | ⟨nonzero, rfl⟩
  · obtain ⟨sameRun, same, goesOn⟩ :=
      goesOn_of_solvePhaseTwo isInitial endsPhaseOne zero none solved
    exact ⟨begins sameRun same, .inr goesOn⟩
  · exact ⟨begins ended.log.sameRun_noted rfl, .inl {
      level_ne := nonzero
      outcome_eq := rfl
      phaseTwo_eq := rfl
      expulsions_eq := none
      tableau_eq := rfl
      iterations_eq := rfl }⟩

end PivotRule

end RationalSimplex
