import RationalSimplex.Proofs.Program.Replay
import RationalSimplex.Proofs.Simplex.Climb

/-!
# The plan path climbs inside the polytope

The records of the second phase, with their plans carried back to the variables
of the program, are points of the polytope with the values of the objective
there.  From one record to the next the value of the canonical form grows, or
plan and value stay the same, and an optimal solve ends at its own plan.
-/

namespace RationalSimplex

/-- The value grows from one record to the next, or neither the value nor the
plan changes. -/
def HistoryEntry.Climbs (before after : HistoryEntry) : Prop :=
  before.value < after.value ∨
    before.value = after.value ∧ before.plan = after.plan

namespace SolvedProgram

/-- The records of a phase in the history. -/
def records (solved : SolvedProgram) (phase : Nat) : List HistoryEntry :=
  solved.history.filter fun record => record.phase = phase

/-- The second phase climbs inside the polytope of a program, and the first one
climbs to zero or stays below. -/
structure Climbs (solved : SolvedProgram) (program : LinearProgram) :
    Prop where
  contains : ∀ plan ∈ solved.planPath,
    program.polytope.contains plan = .ok true
  planPath_eq : solved.planPath = (solved.records 2).map HistoryEntry.plan
  planPath_ne_nil : solved.status ≠ .infeasible → solved.planPath ≠ []
  evaluate_eq : ∀ record ∈ solved.records 2,
    program.objective.evaluate record.plan =
      .ok (restoreValue program.objective.maximize record.value)
  climbs : (solved.records 2).IsChain HistoryEntry.Climbs
  arrives : ∀ plan value, solved.outcome = .optimal plan value →
    ∃ last, (solved.records 2).getLast? = some last ∧ last.plan = plan ∧
      restoreValue program.objective.maximize last.value = value
  nonpositive : ∀ record ∈ solved.records 1, record.value ≤ 0
  ascends : ((solved.records 1).map HistoryEntry.value).Pairwise (· ≤ ·)
  goesOn_iff : ∃ last, (solved.records 1).getLast? = some last ∧
    (last.value = 0 ↔ solved.solution.phaseTwo.isSome)

end SolvedProgram

/-! ## Records of visited tableaux -/

/-- The records tell of the tableaux one by one, with the plans carried over. -/
def TellOf (records : List HistoryEntry) (tableaux : List Tableau)
    (carry : List Rat → List Rat) : Prop :=
  records.map (fun record => (record.value, record.plan)) =
    tableaux.map fun tableau => (tableau.corner, carry tableau.basicPlan)

namespace TellOf

variable {records : List HistoryEntry} {tableaux : List Tableau}
  {carry : List Rat → List Rat}

theorem exists_of_mem (tellOf : TellOf records tableaux carry)
    {record : HistoryEntry} (member : record ∈ records) :
    ∃ tableau ∈ tableaux, record.value = tableau.corner ∧
      record.plan = carry tableau.basicPlan := by
  have listed := List.mem_map_of_mem (f := fun record : HistoryEntry =>
    (record.value, record.plan)) member
  unfold TellOf at tellOf
  rw [tellOf] at listed
  obtain ⟨tableau, inside, same⟩ := List.mem_map.mp listed
  obtain ⟨value, plan⟩ := Prod.mk.inj same
  exact ⟨tableau, inside, value.symm, plan.symm⟩

theorem exists_last (tellOf : TellOf records tableaux carry)
    {last : Tableau} (ends : tableaux.getLast? = some last) :
    ∃ record, records.getLast? = some record ∧
      record.value = last.corner ∧ record.plan = carry last.basicPlan := by
  have both := congrArg List.getLast? tellOf
  rw [List.getLast?_map, List.getLast?_map, ends] at both
  obtain ⟨record, found, same⟩ := Option.map_eq_some_iff.mp both
  obtain ⟨value, plan⟩ := Prod.mk.inj same
  exact ⟨record, found, value, plan⟩

theorem isChain (tellOf : TellOf records tableaux carry)
    (chain : tableaux.IsChain Tableau.Climbs) :
    records.IsChain HistoryEntry.Climbs := by
  have mapped : (tableaux.map fun tableau =>
      (tableau.corner, carry tableau.basicPlan)).IsChain fun before after =>
        before.1 < after.1 ∨ before.1 = after.1 ∧ before.2 = after.2 := by
    apply List.isChain_map_of_isChain _ _ chain
    rintro before after (less | ⟨value, plan⟩)
    · exact .inl less
    · exact .inr ⟨value, congrArg carry plan⟩
  unfold TellOf at tellOf
  rw [← tellOf, List.isChain_map] at mapped
  exact mapped

theorem planPath_eq (tellOf : TellOf records tableaux carry) :
    records.map HistoryEntry.plan =
      (tableaux.map Tableau.basicPlan).map carry := by
  have plans := congrArg (List.map Prod.snd) tellOf
  simpa only [List.map_map, Function.comp_def] using plans

end TellOf

section Records

variable {log : PhaseLog} {phase : Nat} {plans : List (List Rat)}
  {records : List HistoryEntry} {first last : Tableau}

theorem PhaseLog.IsRecordedBy.tellOf
    (recorded : log.IsRecordedBy phase plans records)
    (tells : log.Tells first last) (shaped : first.Shaped)
    {carry : List Rat → List Rat} (carried : plans = log.plans.map carry) :
    TellOf records (first.visited log.pivots) carry := by
  have even : records.length = (first.visited log.pivots).length := by
    rw [recorded.length_eq, tells.snapshots_eq, List.length_map]
  apply List.ext_getElem (by rw [List.length_map, List.length_map, even])
  intro index inside _
  rw [List.length_map] at inside
  obtain ⟨_, place, _, _, _, _, value, plan, _⟩ :=
    recorded.record index _ (List.getElem?_eq_getElem inside)
  obtain ⟨between, passed, rfl⟩ := tells.exists_visited_of_snapshot place
  obtain ⟨betweenShaped, _⟩ :=
    tells.leads.shaped_of_mem_visited shaped (List.mem_of_getElem? passed)
  rw [betweenShaped.snapshot_value_eq_ok] at value
  rw [carried, List.getElem?_map, tells.plan_of_visited passed,
    Option.map_some] at plan
  obtain ⟨_, visited⟩ := List.getElem?_eq_some_iff.mp passed
  simp only [List.getElem_map, visited]
  exact Prod.ext (Except.ok.inj value).symm (Option.some.inj plan).symm

theorem PhaseLog.IsRecordedBy.filter_eq_self
    (recorded : log.IsRecordedBy phase plans records) :
    records.filter (fun record => record.phase = phase) = records := by
  apply List.filter_eq_self.mpr
  intro record member
  obtain ⟨index, place⟩ := List.getElem?_of_mem member
  obtain ⟨_, _, own, _⟩ := recorded.record index record place
  exact decide_eq_true own

theorem PhaseLog.IsRecordedBy.filter_eq_nil
    (recorded : log.IsRecordedBy phase plans records) {number : Nat}
    (different : phase ≠ number) :
    records.filter (fun record => record.phase = number) = [] := by
  apply List.filter_eq_nil_iff.mpr
  intro record member
  obtain ⟨index, place⟩ := List.getElem?_of_mem member
  obtain ⟨_, _, own, _⟩ := recorded.record index record place
  simp [own, different]

end Records

/-- The history is sorted by phases. -/
theorem SolvedProgram.IsReplayable.records_eq {solved : SolvedProgram}
    (replayable : solved.IsReplayable) :
    solved.solution.phaseOne.IsRecordedBy 1
        solved.solution.phaseOne.plans (solved.records 1) ∧
      match solved.solution.phaseTwo with
      | none => solved.records 2 = []
      | some log => log.IsRecordedBy 2 solved.planPath (solved.records 2) := by
  obtain ⟨first, second, history, recordedOne, recordedTwo⟩ :=
    replayable.history
  unfold records
  rw [history, List.filter_append, List.filter_append,
    recordedOne.filter_eq_self, recordedOne.filter_eq_nil (by decide)]
  cases phaseTwo : solved.solution.phaseTwo with
  | none =>
      rw [phaseTwo] at recordedTwo
      obtain rfl : second = [] := recordedTwo
      simpa using recordedOne
  | some log =>
      rw [phaseTwo] at recordedTwo
      have sorted : log.IsRecordedBy 2 solved.planPath second := recordedTwo
      rw [sorted.filter_eq_self, sorted.filter_eq_nil (by decide)]
      simpa using ⟨recordedOne, sorted⟩

/-! ## Solves -/

namespace LinearProgram

variable {σ : Type} {program : LinearProgram} {rule : PivotRule σ}
  {budget : Nat} {start final : σ} {solved : SolvedProgram}

theorem restorePlan_of_attains {point : List Rat} {value : Rat}
    (attains : program.canonicalForm.1.Attains point value) :
    restorePlan point program.canonicalForm.2 program.width =
        .ok (program.carriedBack point) ∧
      program.Attains (program.carriedBack point)
        (restoreValue program.objective.maximize value) := by
  have long := (attains_iff.mp attains).1
  rw [width_canonicalForm] at long
  have carried := restorePlan_eq_ok long
  rw [← canonicalForm_snd] at carried
  obtain ⟨plan, restored, _, attained⟩ := attains_of_canonicalForm attains
  rw [carried] at restored
  cases restored
  exact ⟨carried, attained⟩

theorem planPath_of_solve
    (run : program.solve rule budget start = .ok (solved, final)) :
    solved.planPath =
      ((solved.solution.phaseTwo.map PhaseLog.plans).getD []).map
        program.carriedBack := by
  have stages := stagesOf_solve run
  obtain ⟨isInitial, _⟩ := phases_of_solve run
  have correct := rule.yields_solve budget start isInitial
    program.isCanonical_canonicalForm
  rw [stages.solution_eq] at correct
  have wide : solved.initial.start.length =
      program.width + program.freeVariables.length := by
    rw [isInitial.start_eq, List.length_map, List.length_range,
      width_canonicalForm]
  have path := correct.restorePath_eq_ok wide
  rw [← canonicalForm_snd, stages.planPath_eq] at path
  exact Except.ok.inj path

/-- What the records of the first phase tell, whatever comes after them. -/
theorem climbs_of_begins {first ended : Tableau}
    (run : program.solve rule budget start = .ok (solved, final))
    (begins : solved.solution.Begins solved.initial first ended) :
    (∀ record ∈ solved.records 1, record.value ≤ 0) ∧
      ((solved.records 1).map HistoryEntry.value).Pairwise (· ≤ ·) ∧
      ∃ last, (solved.records 1).getLast? = some last ∧
        last.value = ended.corner := by
  obtain ⟨isInitial, _⟩ := phases_of_solve run
  have maintains := begins.maintains
  have tellOf := (isReplayable_of_solve run).records_eq.1.tellOf begins.tells
    maintains.form.toShaped (List.map_id _).symm
  have leads := begins.tells.leads
  refine ⟨?_, ?_, ?_⟩
  · intro record member
    obtain ⟨tableau, passed, value, _⟩ := tellOf.exists_of_mem member
    obtain ⟨form, feasible, equivalent⟩ :=
      leads.maintains_of_mem_visited maintains passed
    rw [value]
    exact isInitial.level_nonpos form feasible equivalent
  · have chain := tellOf.isChain (leads.isChain_visited maintains)
    rw [← List.isChain_iff_pairwise, List.isChain_map]
    apply chain.imp
    rintro before after (less | ⟨same, _⟩)
    · exact less.le
    · exact same.le
  · obtain ⟨last, found, value, _⟩ := tellOf.exists_last leads.getLast?_visited
    exact ⟨last, found, value⟩

theorem climbs_of_stopsAt {first ended : Tableau}
    (run : program.solve rule budget start = .ok (solved, final))
    (begins : solved.solution.Begins solved.initial first ended)
    (stops : solved.solution.StopsAt ended) : solved.Climbs program := by
  obtain ⟨nonpositive, ascends, last, found, value⟩ :=
    climbs_of_begins run begins
  have path : solved.planPath = [] := by
    rw [planPath_of_solve run, stops.phaseTwo_eq]
    rfl
  have second := (isReplayable_of_solve run).records_eq.2
  rw [stops.phaseTwo_eq] at second
  have none : solved.records 2 = [] := second
  have restored := (stagesOf_solve run).outcome_eq
  rw [stops.outcome_eq] at restored
  have outcome : solved.outcome = .infeasible := (Except.ok.inj restored).symm
  exact {
    contains := by simp [path]
    planPath_eq := by rw [path, none]; rfl
    planPath_ne_nil := by
      intro other
      exact absurd (congrArg Outcome.status outcome) other
    evaluate_eq := by simp [none]
    climbs := by simp [none]
    arrives := by
      intro plan value optimal
      rw [outcome] at optimal
      cases optimal
    nonpositive := nonpositive
    ascends := ascends
    goesOn_iff := by
      refine ⟨last, found, ?_⟩
      have nonzero : ended.corner ≠ 0 := stops.level_ne
      simp [value, nonzero, stops.phaseTwo_eq] }

/-- An outcome of the second phase is optimal at the last plan, or it is
unbounded. -/
theorem outcome_of_goesOn {ended second last : Tableau} {log : PhaseLog}
    (run : program.solve rule budget start = .ok (solved, final))
    (goesOn : solved.solution.GoesOn solved.initial ended log second last)
    (attains : program.canonicalForm.1.Attains last.basicPlan last.corner)
    (shaped : last.Shaped) :
    solved.outcome = .optimal (program.carriedBack last.basicPlan)
        (restoreValue program.objective.maximize last.corner) ∨
      solved.outcome = .unbounded := by
  have restored := (stagesOf_solve run).outcome_eq
  have read := goesOn.outcome_eq
  by_cases none : last.improving = []
  · rw [shaped.finalOutcome_of_improving_eq_nil none] at read
    have carried := (restorePlan_of_attains attains).1
    rw [← Except.ok.inj read] at restored
    unfold restoreOutcome at restored
    simp only [carried, ok_bind] at restored
    exact .inl (Except.ok.inj restored).symm
  · rw [shaped.finalOutcome_of_improving_ne_nil none] at read
    rw [← Except.ok.inj read] at restored
    exact .inr (Except.ok.inj restored).symm

/-- The records of the second phase tell of its tableaux, whose plans attain
the canonical form. -/
theorem tellOf_of_goesOn {ended second last : Tableau} {log : PhaseLog}
    (run : program.solve rule budget start = .ok (solved, final))
    (goesOn : solved.solution.GoesOn solved.initial ended log second last) :
    TellOf (solved.records 2) (second.visited log.pivots)
        program.carriedBack ∧
      solved.planPath = (solved.records 2).map HistoryEntry.plan ∧
      ∀ tableau ∈ second.visited log.pivots,
        program.canonicalForm.1.Attains tableau.basicPlan tableau.corner := by
  have preparation := goesOn.preparation
  have path : solved.planPath = log.plans.map program.carriedBack := by
    rw [planPath_of_solve run, goesOn.phaseTwo_eq]
    rfl
  have recorded := (isReplayable_of_solve run).records_eq.2
  rw [goesOn.phaseTwo_eq] at recorded
  have tellOf := recorded.tellOf goesOn.tells preparation.form.toShaped path
  refine ⟨tellOf, ?_, ?_⟩
  · rw [tellOf.planPath_eq, path, goesOn.tells.plans_eq]
  · obtain ⟨isInitial, _⟩ := phases_of_solve run
    have maintains := Tableau.Maintains.refl preparation.form
      preparation.feasible
    intro tableau passed
    exact (goesOn.tells.leads.maintains_of_mem_visited maintains
      passed).attains preparation isInitial program.isCanonical_canonicalForm

theorem climbs_of_goesOn {first ended second last : Tableau} {log : PhaseLog}
    (run : program.solve rule budget start = .ok (solved, final))
    (begins : solved.solution.Begins solved.initial first ended)
    (goesOn : solved.solution.GoesOn solved.initial ended log second last) :
    solved.Climbs program := by
  obtain ⟨nonpositive, ascends, lastOne, foundOne, valueOne⟩ :=
    climbs_of_begins run begins
  obtain ⟨tellOf, plans, attains⟩ := tellOf_of_goesOn run goesOn
  have form := goesOn.preparation.form
  have leads := goesOn.tells.leads
  have inside : ∀ record ∈ solved.records 2, program.Attains record.plan
      (restoreValue program.objective.maximize record.value) := by
    intro record member
    obtain ⟨tableau, passed, value, plan⟩ := tellOf.exists_of_mem member
    rw [value, plan]
    exact (restorePlan_of_attains (attains tableau passed)).2
  obtain ⟨lastTwo, foundTwo, valueTwo, planTwo⟩ :=
    tellOf.exists_last leads.getLast?_visited
  have lastPassed := List.mem_of_getElem? leads.visited_length
  exact {
    contains := by
      intro plan member
      rw [plans] at member
      obtain ⟨record, listed, rfl⟩ := List.mem_map.mp member
      exact (inside record listed).1
    planPath_eq := plans
    planPath_ne_nil := by
      intro _ empty
      rw [plans, List.map_eq_nil_iff] at empty
      rw [empty] at foundTwo
      cases foundTwo
    evaluate_eq := fun record member => (inside record member).2
    climbs := tellOf.isChain
      (leads.isChain_visited (.refl form goesOn.preparation.feasible))
    arrives := by
      intro plan value optimal
      refine ⟨lastTwo, foundTwo, ?_⟩
      rcases outcome_of_goesOn run goesOn (attains last lastPassed)
        (leads.shaped form.toShaped) with reached | unbounded
      · rw [reached] at optimal
        cases optimal
        exact ⟨planTwo, by rw [valueTwo]⟩
      · rw [unbounded] at optimal
        cases optimal
    nonpositive := nonpositive
    ascends := ascends
    goesOn_iff := by
      refine ⟨lastOne, foundOne, ?_⟩
      have zero : ended.corner = 0 := goesOn.level_eq
      simp [valueOne, zero, goesOn.phaseTwo_eq] }

/-- With a rule that picks from the offered pivots, a solve that ends has a
result, and its records climb, in the second phase inside the polytope. -/
theorem solve_climbs (program : LinearProgram) (respects : rule.Respects)
    (ended : program.solve rule budget start ≠ .error .budget) :
    ∃ solved final, program.solve rule budget start = .ok (solved, final) ∧
      solved.Climbs program := by
  obtain ⟨⟨solved, final⟩, run, _⟩ :=
    (program.yields_solve rule budget start).exists_of_respects respects ended
  obtain ⟨_, first, middle, begins, stops | ⟨log, second, last, goesOn⟩⟩ :=
    phases_of_solve run
  · exact ⟨solved, final, run, climbs_of_stopsAt run begins stops⟩
  · exact ⟨solved, final, run, climbs_of_goesOn run begins goesOn⟩

/-- On the line the second phase climbs from one plan to a better one. -/
theorem solve_climbs_onLine :
    ∃ solved final,
      (onLine 2 (-1)).solve PivotRule.first 4 () = .ok (solved, final) ∧
      solved.planPath = [[2, 0], [0, 2]] ∧
      solved.Climbs (onLine 2 (-1)) := by
  have computed : (((onLine 2 (-1)).solve PivotRule.first 4 ()).toOption.map
      fun result => result.1.planPath) = some [[2, 0], [0, 2]] := by
    decide +kernel
  obtain ⟨⟨solved, final⟩, run, path⟩ := exists_ok_of_map_toOption computed
  have ended :
      (onLine 2 (-1)).solve PivotRule.first 4 () ≠ .error .budget := by
    rw [run]
    exact fun stopped => nomatch stopped
  obtain ⟨other, otherFinal, again, climbs⟩ :=
    solve_climbs (onLine 2 (-1)) PivotRule.respects_first ended
  rw [run] at again
  cases again
  exact ⟨solved, final, run, path, climbs⟩

end LinearProgram

end RationalSimplex
