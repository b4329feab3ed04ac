import RationalSimplex.Proofs.Program.Invariant
import RationalSimplex.Proofs.Simplex.Replay

/-!
# A solve can be replayed

What is kept of a solve tells the whole run: the log of each phase can be
followed from snapshot to snapshot, the notes lead from the initial tableau to
the last one, and the history has a record for every snapshot.
-/

namespace RationalSimplex

/-- The pivots that a solution notes, in the order in which they were carried
out. -/
def Solution.allPivots (solution : Solution) : List Pivot :=
  solution.phaseOne.pivots ++ solution.phaseOne.expulsions ++
    (solution.phaseTwo.map PhaseLog.pivots).getD []

/-- There is a record of every snapshot in the log of a phase, with the given
plans. -/
structure PhaseLog.IsRecordedBy (log : PhaseLog) (phase : Nat)
    (plans : List (List Rat)) (records : List HistoryEntry) : Prop where
  length_eq : records.length = log.snapshots.length
  record : ∀ (index : Nat) (record : HistoryEntry),
    records[index]? = some record →
      ∃ snapshot, log.snapshots[index]? = some snapshot ∧
        record.phase = phase ∧
        record.iteration = snapshot.iteration ∧
        record.pivot = log.pivots[index]? ∧
        record.candidates = log.candidates.getD index 0 ∧
        snapshot.value = .ok record.value ∧
        plans[index]? = some record.plan ∧
        record.basis = snapshot.basis

/-- What is kept of a solve tells the whole run. -/
structure SolvedProgram.IsReplayable (solved : SolvedProgram) : Prop where
  phaseOne : solved.solution.phaseOne.IsTrace solved.initial
  phaseTwo : ∀ log, solved.solution.phaseTwo = some log →
    log.IsTrace solved.initial ∧ log.droppedColumns.Pairwise (· < ·)
  replay_eq : solved.solution.replay solved.canonical.objective
    solved.initial = .ok solved.solution.tableau
  iterations_eq : solved.solution.iterations =
    solved.solution.allPivots.length
  history : ∃ first second, solved.history = first ++ second ∧
    solved.solution.phaseOne.IsRecordedBy 1
      solved.solution.phaseOne.plans first ∧
    match solved.solution.phaseTwo with
    | none => second = []
    | some log => log.IsRecordedBy 2 solved.planPath second

/-! ## Records -/

section Records

variable {solution : Solution} {log : PhaseLog} {phase : Nat}
  {plans path : List (List Rat)} {records history : List HistoryEntry}

theorem notedCandidates_eq_getD {index count : Nat}
    (even : log.candidates.length = log.pivots.length)
    (noted : notedCandidates log index = .ok count) :
    count = log.candidates.getD index 0 := by
  unfold notedCandidates at noted
  split at noted
  · split at noted
    · next other found =>
        cases noted
        rw [List.getD_eq_getElem?_getD, found, Option.getD_some]
    · cases noted
  · next outside =>
      cases noted
      rw [List.getD_eq_default _ _ (by omega)]

/-- The records of a phase are those of its snapshots. -/
theorem isRecordedBy_of_phaseHistory
    (even : log.candidates.length = log.pivots.length)
    (recorded : phaseHistory phase log plans = .ok records) :
    log.IsRecordedBy phase plans records := by
  obtain ⟨length, found⟩ := getElem?_of_mapM recorded
  refine ⟨by rw [length, List.length_zipIdx], ?_⟩
  intro index record place
  obtain ⟨⟨snapshot, number⟩, numbered, entered⟩ := found place
  rw [List.getElem?_zipIdx] at numbered
  obtain ⟨_, listed, paired⟩ := Option.map_eq_some_iff.mp numbered
  cases paired
  rw [Nat.zero_add] at entered
  unfold historyEntry at entered
  obtain ⟨count, noted, entered⟩ := bind_eq_ok_iff.mp entered
  obtain ⟨value, read, entered⟩ := bind_eq_ok_iff.mp entered
  split at entered
  · cases entered
  · next plan planPlace =>
      cases entered
      exact ⟨snapshot, listed, rfl, rfl, rfl,
        notedCandidates_eq_getD even noted, read, planPlace, rfl⟩

/-- The history has the records of the first phase and behind them those of the
second. -/
theorem exists_records_of_solveHistory
    (recorded : solveHistory solution path = .ok history) :
    ∃ first second, history = first ++ second ∧
      phaseHistory 1 solution.phaseOne solution.phaseOne.plans = .ok first ∧
      match solution.phaseTwo with
      | none => second = []
      | some log => phaseHistory 2 log path = .ok second := by
  unfold solveHistory at recorded
  obtain ⟨first, firstFound, recorded⟩ := bind_eq_ok_iff.mp recorded
  cases phaseTwo : solution.phaseTwo with
  | none =>
      rw [phaseTwo] at recorded
      cases recorded
      exact ⟨_, [], (List.append_nil _).symm, firstFound, rfl⟩
  | some log =>
      rw [phaseTwo] at recorded
      obtain ⟨second, secondFound, result⟩ := bind_eq_ok_iff.mp recorded
      cases result
      exact ⟨first, second, rfl, firstFound, secondFound⟩

end Records

/-! ## Solves -/

namespace Solution

variable {solution : Solution} {initial first ended second last : Tableau}
  {log : PhaseLog}

theorem Begins.isTrace (begins : solution.Begins initial first ended)
    (fresh : initial.iteration = 0) : solution.phaseOne.IsTrace initial :=
  begins.tells.isTrace begins.maintains.form.toShaped
    (begins.iteration_eq.trans fresh) begins.maintains.equivalent.start_eq
    begins.maintains.equivalent.objective_eq

theorem GoesOn.isTrace
    (goesOn : solution.GoesOn initial ended log second last) :
    log.IsTrace initial :=
  goesOn.tells.isTrace goesOn.preparation.form.toShaped goesOn.iteration_eq
    goesOn.preparation.start_eq goesOn.preparation.objective_eq

end Solution

namespace LinearProgram

variable {σ : Type} {program : LinearProgram} {rule : PivotRule σ}
  {budget : Nat} {start final : σ} {solved : SolvedProgram}

/-- A solve that ends went through its phases. -/
theorem phases_of_solve
    (run : program.solve rule budget start = .ok (solved, final)) :
    solved.initial.IsInitial program.canonicalForm.1 ∧
      ∃ first ended, solved.solution.Begins solved.initial first ended ∧
        (solved.solution.StopsAt ended ∨ ∃ log second last,
          solved.solution.GoesOn solved.initial ended log second last) := by
  have stages := stagesOf_solve run
  obtain ⟨initial, built, isInitial⟩ :=
    Tableau.ofCanonical_eq_ok program.isCanonical_canonicalForm
  have same := stages.initial_eq
  rw [built] at same
  obtain rfl : initial = solved.initial := Except.ok.inj same
  exact ⟨isInitial, PivotRule.phases_of_solve isInitial stages.solution_eq⟩

theorem isReplayable_of_solve
    (run : program.solve rule budget start = .ok (solved, final)) :
    solved.IsReplayable := by
  have stages := stagesOf_solve run
  obtain ⟨isInitial, firstTableau, ended, begins, ends⟩ := phases_of_solve run
  have objective : solved.canonical.objective = solved.initial.objective := by
    rw [stages.canonical_eq, isInitial.objective_eq]
  have traceOne := begins.isTrace
    (Tableau.iteration_of_ofCanonical stages.initial_eq)
  obtain ⟨first, second, history, recordsOne, recordsTwo⟩ :=
    exists_records_of_solveHistory stages.history_eq
  have recordedOne :=
    isRecordedBy_of_phaseHistory traceOne.length_candidates recordsOne
  rcases ends with stops | ⟨log, secondTableau, last, goesOn⟩
  · rw [stops.phaseTwo_eq] at recordsTwo
    exact {
      phaseOne := traceOne
      phaseTwo := by
        rw [stops.phaseTwo_eq]
        exact fun _ absent => nomatch absent
      replay_eq := by rw [objective, stops.replay_eq_ok begins]
      iterations_eq := by
        rw [stops.iterations_eq, Solution.allPivots, stops.expulsions_eq,
          stops.phaseTwo_eq]
        simp
      history := by
        rw [stops.phaseTwo_eq]
        exact ⟨first, second, history, recordedOne, recordsTwo⟩ }
  · have traceTwo := goesOn.isTrace
    rw [goesOn.phaseTwo_eq] at recordsTwo
    exact {
      phaseOne := traceOne
      phaseTwo := by
        rw [goesOn.phaseTwo_eq]
        rintro _ ⟨⟩
        exact ⟨traceTwo, goesOn.preparation.ascending⟩
      replay_eq := by rw [objective, goesOn.replay_eq_ok begins]
      iterations_eq := by
        rw [goesOn.iterations_eq, Solution.allPivots, goesOn.phaseTwo_eq]
        simp [add_assoc]
      history := by
        rw [goesOn.phaseTwo_eq]
        exact ⟨first, second, history, recordedOne,
          isRecordedBy_of_phaseHistory traceTwo.length_candidates recordsTwo⟩ }

/-- With a rule that picks from the offered pivots, a solve that ends has a
result, and what is kept of it tells the whole run. -/
theorem solve_replayable (program : LinearProgram) (respects : rule.Respects)
    (ended : program.solve rule budget start ≠ .error .budget) :
    ∃ solved final, program.solve rule budget start = .ok (solved, final) ∧
      solved.IsReplayable := by
  obtain ⟨⟨solved, final⟩, run, _⟩ :=
    (program.yields_solve rule budget start).exists_of_respects respects ended
  exact ⟨solved, final, run, isReplayable_of_solve run⟩

/-- On the line a pivot is made in each phase and between them. -/
theorem solve_replayable_onLine :
    ∃ solved final,
      (onLine 2 (-1)).solve PivotRule.first 4 () = .ok (solved, final) ∧
      solved.solution.allPivots = [(0, 0), (1, 3), (0, 1)] ∧
        solved.IsReplayable := by
  have computed : (((onLine 2 (-1)).solve PivotRule.first 4 ()).toOption.map
      fun result => result.1.solution.allPivots) =
        some [(0, 0), (1, 3), (0, 1)] := by
    decide +kernel
  obtain ⟨⟨solved, final⟩, run, pivots⟩ :=
    exists_ok_of_map_toOption computed
  have ended :
      (onLine 2 (-1)).solve PivotRule.first 4 () ≠ .error .budget := by
    rw [run]
    exact fun stopped => nomatch stopped
  obtain ⟨other, otherFinal, again, replayable⟩ :=
    solve_replayable (onLine 2 (-1)) PivotRule.respects_first ended
  rw [run] at again
  cases again
  exact ⟨solved, final, run, pivots, replayable⟩

end LinearProgram

end RationalSimplex
