import RationalSimplex.Program.Solved
import RationalSimplex.Proofs.Program.Canonize
import RationalSimplex.Proofs.Simplex.Solve

/-!
# Solved programs tell the truth

A program is solved by way of its canonical form.  The outcome there is carried
back, and so are the plans of the second phase, which have a coordinate for
every variable of the canonical form.  A solve that ends with a result
therefore ends with a true outcome of the program.
-/

namespace RationalSimplex

/-! ## Records -/

namespace PhaseLog.IsOfRun

variable {log : PhaseLog} {start : List Int}

theorem length_plans (isOfRun : log.IsOfRun start) :
    log.plans.length = log.snapshots.length := by
  obtain ⟨first, pivots, last, _, _, _, same⟩ := isOfRun
  rw [same.plans_eq, same.snapshots_eq]
  simp [recorded, empty]

theorem length_of_mem_plans (isOfRun : log.IsOfRun start) {plan : List Rat}
    (member : plan ∈ log.plans) : plan.length = start.length := by
  obtain ⟨first, pivots, last, leads, shaped, started, same⟩ := isOfRun
  have listed : plan ∈ (first.visited pivots).map Tableau.basicPlan := by
    rw [same.plans_eq] at member
    simpa [recorded, empty] using member
  obtain ⟨between, visited, rfl⟩ := List.mem_map.mp listed
  have kept := (leads.shaped_of_mem_visited shaped visited).2
  rw [Tableau.basicPlan, List.length_map, kept, started]

theorem value_of_mem_snapshots (isOfRun : log.IsOfRun start)
    {snapshot : Snapshot} (member : snapshot ∈ log.snapshots) :
    ∃ value, snapshot.value = .ok value := by
  obtain ⟨first, pivots, last, leads, shaped, started, same⟩ := isOfRun
  have listed : snapshot ∈ (first.visited pivots).map Tableau.snapshot := by
    rw [same.snapshots_eq] at member
    simpa [recorded, empty] using member
  obtain ⟨between, visited, rfl⟩ := List.mem_map.mp listed
  have betweenShaped := (leads.shaped_of_mem_visited shaped visited).1
  exact ⟨_, betweenShaped.snapshot_value_eq_ok⟩

theorem length_candidates (isOfRun : log.IsOfRun start) :
    log.candidates.length = log.pivots.length := by
  obtain ⟨first, pivots, last, _, _, _, same⟩ := isOfRun
  rw [same.candidates_eq, same.pivots_eq]
  simp [recorded, empty]

/-- Every pivot is noted together with the number of pivots on offer. -/
theorem notedCandidates_exists_ok (isOfRun : log.IsOfRun start) (index : Nat) :
    ∃ count, notedCandidates log index = .ok count := by
  unfold notedCandidates
  split
  · next inside =>
      rw [← isOfRun.length_candidates] at inside
      rw [List.getElem?_eq_getElem inside]
      exact ⟨_, rfl⟩
  · exact ⟨0, rfl⟩

theorem phaseHistory_exists_ok (isOfRun : log.IsOfRun start) (phase : Nat)
    {plans : List (List Rat)} (even : plans.length = log.snapshots.length) :
    ∃ entries, phaseHistory phase log plans = .ok entries := by
  apply mapM_exists_ok
  intro numbered member
  obtain ⟨value, found⟩ :=
    isOfRun.value_of_mem_snapshots (List.fst_mem_of_mem_zipIdx member)
  have inside : numbered.2 < plans.length := by
    have bounded := List.snd_lt_of_mem_zipIdx member
    omega
  obtain ⟨count, counted⟩ := isOfRun.notedCandidates_exists_ok numbered.2
  unfold historyEntry
  rw [counted, found, List.getElem?_eq_getElem inside]
  exact ⟨_, rfl⟩

end PhaseLog.IsOfRun

section Solution

variable {solution : Solution} {canonical program : LinearProgram}
  {start : List Int}

/-- The plans of the second phase can be carried back. -/
theorem Solution.IsCorrect.restorePath_eq_ok
    (correct : solution.IsCorrect canonical start)
    (wide : start.length = program.width + program.freeVariables.length) :
    restorePath program program.splits solution =
      .ok ((solution.phaseTwo.map PhaseLog.plans).getD [] |>.map
        program.carriedBack) := by
  unfold restorePath
  cases phaseTwo : solution.phaseTwo with
  | none => rfl
  | some log =>
      apply mapM_eq_ok
      intro plan member
      apply LinearProgram.restorePlan_eq_ok
      rw [(correct.phaseTwo log phaseTwo).length_of_mem_plans member, wide]

/-- There is a record of every tableau. -/
theorem Solution.IsCorrect.solveHistory_exists_ok
    (correct : solution.IsCorrect canonical start)
    (carry : List Rat → List Rat) :
    ∃ history, solveHistory solution
      ((solution.phaseTwo.map PhaseLog.plans).getD [] |>.map carry) =
        .ok history := by
  obtain ⟨first, firstFound⟩ := correct.phaseOne.phaseHistory_exists_ok 1
    correct.phaseOne.length_plans
  unfold solveHistory
  rw [firstFound]
  cases phaseTwo : solution.phaseTwo with
  | none => exact ⟨first, rfl⟩
  | some log =>
      have isOfRun := correct.phaseTwo log phaseTwo
      have even : (log.plans.map carry).length = log.snapshots.length := by
        rw [List.length_map, isOfRun.length_plans]
      obtain ⟨second, secondFound⟩ := isOfRun.phaseHistory_exists_ok 2 even
      refine ⟨first ++ second, ?_⟩
      simp only [ok_bind, Option.map_some, Option.getD_some, secondFound]
      rfl

end Solution

/-! ## Outcomes -/

namespace LinearProgram

variable {program : LinearProgram}

/-- A true outcome of the canonical form is carried back to a true outcome. -/
theorem IsSolvedBy.restoreOutcome_eq_ok {outcome : Outcome}
    (solved : program.canonicalForm.1.IsSolvedBy outcome) :
    ∃ restored,
      restoreOutcome program program.canonicalForm.2 outcome = .ok restored ∧
        program.IsSolvedBy restored := by
  cases outcome with
  | optimal plan value =>
      obtain ⟨recovered, carried, length, attains⟩ :=
        attains_of_canonicalForm solved.2.1
      refine ⟨.optimal recovered
        (restoreValue program.objective.maximize value), ?_, length, attains,
        ?_⟩
      · simp only [restoreOutcome, carried]
        rfl
      · exact (hasOptimum_canonicalForm_iff.mp solved.hasOptimum).2
  | infeasible =>
      exact ⟨.infeasible, rfl, isInfeasible_canonicalForm_iff.mp solved⟩
  | unbounded =>
      exact ⟨.unbounded, rfl, isUnbounded_canonicalForm_iff.mp solved⟩

/-- A program is solved as soon as its canonical form is. -/
theorem exists_solve_eq_ok {σ : Type} {rule : PivotRule σ} {budget : Nat}
    {state next : σ} {initial : Tableau} {solution : Solution}
    (built : Tableau.ofCanonical program.canonicalForm.1 = .ok initial)
    (isInitial : initial.IsInitial program.canonicalForm.1)
    (ran : rule.solve budget state initial = .ok (solution, next))
    (correct : solution.IsCorrect program.canonicalForm.1 initial.start) :
    ∃ solved, program.solve rule budget state = .ok (solved, next) ∧
      program.IsSolvedBy solved.outcome := by
  have wide : initial.start.length =
      program.width + program.freeVariables.length := by
    rw [isInitial.start_eq, List.length_map, List.length_range,
      width_canonicalForm]
  obtain ⟨restored, carried, solved⟩ := correct.solved.restoreOutcome_eq_ok
  obtain ⟨history, recorded⟩ :=
    correct.solveHistory_exists_ok program.carriedBack
  have path := correct.restorePath_eq_ok wide
  rw [← canonicalForm_snd] at path
  refine ⟨{
    program := program
    canonical := program.canonicalForm.1
    splits := program.canonicalForm.2
    initial := initial
    solution := solution
    outcome := restored
    planPath := (solution.phaseTwo.map PhaseLog.plans).getD [] |>.map
      program.carriedBack
    history := history }, ?_, solved⟩
  unfold solve
  simp only [program.canonize_eq_ok, built, ran, carried, path, recorded,
    Halt.lift, mapError_ok, ok_bind]
  rfl

/-- Where the canonical form is not solved, the program is not. -/
theorem solve_eq_error {σ : Type} {rule : PivotRule σ} {budget : Nat}
    {state : σ} {initial : Tableau} {halt : Halt}
    (built : Tableau.ofCanonical program.canonicalForm.1 = .ok initial)
    (stopped : rule.solve budget state initial = .error halt) :
    program.solve rule budget state = .error halt := by
  unfold solve
  simp only [program.canonize_eq_ok, built, stopped, Halt.lift_bind]
  rfl

/-- A solve ends with a true outcome, unless its budget runs out or an answer
of the rule is refused. -/
theorem yields_solve {σ : Type} (program : LinearProgram)
    (rule : PivotRule σ) (budget : Nat) (state : σ) :
    rule.Yields (fun result => program.IsSolvedBy result.1.outcome)
      (program.solve rule budget state) := by
  obtain ⟨initial, built, isInitial⟩ :=
    Tableau.ofCanonical_eq_ok program.isCanonical_canonicalForm
  have yields := rule.yields_solve budget state isInitial
    program.isCanonical_canonicalForm
  cases ran : rule.solve budget state initial with
  | error halt =>
      rw [ran] at yields
      rw [solve_eq_error built ran]
      match halt, yields with
      | .budget, _ => trivial
      | .fault _, refused => exact refused
  | ok result =>
      rw [ran] at yields
      obtain ⟨solved, run, truth⟩ :=
        exists_solve_eq_ok built isInitial ran yields
      rw [run]
      exact truth

/-! ## The three statuses -/

/-- Minimise a multiple of the first variable plus the second, which may be
negative, where their sum is two and not less than a bound. -/
def onLine (factor bound : Rat) : LinearProgram :=
  optimizing
    { dimension := 2
      constraints := [⟨⟨[1, 1]⟩, .eq, 2⟩, ⟨⟨[1, 1]⟩, .ge, bound⟩]
      nonnegative := .below 1
      constraints_ne_nil := List.cons_ne_nil _ _
      width_eq := by
        intro constraint member
        rcases List.mem_pair.mp member with rfl | rfl <;> rfl
      nonnegative_lt := fun index member =>
        Nat.lt_succ_of_lt (IndexSet.mem_below.mp member) }
    ⟨⟨[factor, 1]⟩, false⟩ rfl

variable {σ : Type} {rule : PivotRule σ} {budget : Nat} {state : σ}

/-- A solve with the status optimal has a plan in the polytope, with a
coordinate for every variable, and no point has a better value than the
reported one. -/
theorem solve_optimal {solved : SolvedProgram} {final : σ}
    (run : program.solve rule budget state = .ok (solved, final))
    (optimal : solved.status = .optimal) :
    ∃ plan value, solved.outcome = .optimal plan value ∧
      program.polytope.contains plan = .ok true ∧
      plan.length = program.width ∧
      program.objective.evaluate plan = .ok value ∧
      ∀ point, program.polytope.contains point = .ok true →
        ∃ other, program.objective.evaluate point = .ok other ∧
          if program.objective.maximize then other ≤ value
          else value ≤ other := by
  have yields := program.yields_solve rule budget state
  rw [run] at yields
  have truth : program.IsSolvedBy solved.outcome := yields
  cases found : solved.outcome with
  | optimal plan value =>
      rw [found] at truth
      obtain ⟨length, attained, best⟩ := truth
      refine ⟨plan, value, rfl, attained.1, length, attained.2, ?_⟩
      intro point inside
      have attains := attains_of_contains inside
      exact ⟨_, attains.2, not_better_iff.mp (best point _ attains)⟩
  | infeasible => simp [SolvedProgram.status, found, Outcome.status] at optimal
  | unbounded => simp [SolvedProgram.status, found, Outcome.status] at optimal

/-- The least value on the line is taken where the first variable is zero. -/
theorem solve_optimal_onLine :
    ∃ solved final,
      (onLine 2 (-1)).solve PivotRule.first 4 () = .ok (solved, final) ∧
      ∃ plan value, solved.outcome = .optimal plan value ∧
        (onLine 2 (-1)).polytope.contains plan = .ok true ∧
        plan.length = 2 ∧
        (onLine 2 (-1)).objective.evaluate plan = .ok value ∧
        ∀ point, (onLine 2 (-1)).polytope.contains point = .ok true →
          ∃ other, (onLine 2 (-1)).objective.evaluate point = .ok other ∧
            value ≤ other := by
  have computed : (((onLine 2 (-1)).solve PivotRule.first 4 ()).toOption.map
      fun result => result.1.status) = some .optimal := by
    decide +kernel
  cases run : (onLine 2 (-1)).solve PivotRule.first 4 () with
  | error halt =>
      rw [run] at computed
      cases computed
  | ok result =>
      obtain ⟨solved, final⟩ := result
      rw [run] at computed
      have optimal : solved.status = .optimal := Option.some.inj computed
      exact ⟨solved, final, rfl, solve_optimal run optimal⟩

/-- With a rule that picks from the offered pivots, a solve that ends has a
result, and its status is infeasible exactly when no point lies in the
polytope. -/
theorem solve_infeasible_iff (program : LinearProgram)
    (respects : rule.Respects)
    (ended : program.solve rule budget state ≠ .error .budget) :
    ∃ solved final, program.solve rule budget state = .ok (solved, final) ∧
      (solved.status = .infeasible ↔
        ¬∃ point, program.polytope.contains point = .ok true) := by
  obtain ⟨⟨solved, final⟩, run, truth⟩ :=
    (program.yields_solve rule budget state).exists_of_respects respects ended
  refine ⟨solved, final, run, ?_⟩
  rw [not_exists]
  exact truth.status_eq_infeasible_iff

/-- The line has no point whose sum is three or more. -/
theorem solve_infeasible_iff_onLine :
    ∃ solved final,
      (onLine 2 3).solve PivotRule.first 4 () = .ok (solved, final) ∧
      (solved.status = .infeasible ↔
        ¬∃ point, (onLine 2 3).polytope.contains point = .ok true) := by
  have computed : (((onLine 2 3).solve PivotRule.first 4 ()).toOption.map
      fun result => result.1.status) = some .infeasible := by
    decide +kernel
  apply solve_infeasible_iff (onLine 2 3) PivotRule.respects_first
  intro stopped
  rw [stopped] at computed
  cases computed

/-- With a rule that picks from the offered pivots, a solve that ends has a
result, and its status is unbounded exactly when there are points and their
values are better than any bound. -/
theorem solve_unbounded_iff (program : LinearProgram)
    (respects : rule.Respects)
    (ended : program.solve rule budget state ≠ .error .budget) :
    ∃ solved final, program.solve rule budget state = .ok (solved, final) ∧
      (solved.status = .unbounded ↔
        (∃ point, program.polytope.contains point = .ok true) ∧
          ∀ bound, ∃ point value,
            program.polytope.contains point = .ok true ∧
            program.objective.evaluate point = .ok value ∧
            if program.objective.maximize then bound < value
            else value < bound) := by
  obtain ⟨⟨solved, final⟩, run, truth⟩ :=
    (program.yields_solve rule budget state).exists_of_respects respects ended
  refine ⟨solved, final, run, truth.status_eq_unbounded_iff.trans ?_⟩
  unfold IsUnbounded Attains Better
  simp only [and_assoc]

/-- Without a cost of the first variable the second is unbounded on the
line. -/
theorem solve_unbounded_iff_onLine :
    ∃ solved final,
      (onLine 0 (-1)).solve PivotRule.first 4 () = .ok (solved, final) ∧
      (solved.status = .unbounded ↔
        (∃ point, (onLine 0 (-1)).polytope.contains point = .ok true) ∧
          ∀ bound, ∃ point value,
            (onLine 0 (-1)).polytope.contains point = .ok true ∧
            (onLine 0 (-1)).objective.evaluate point = .ok value ∧
            value < bound) := by
  have computed : (((onLine 0 (-1)).solve PivotRule.first 4 ()).toOption.map
      fun result => result.1.status) = some .unbounded := by
    decide +kernel
  have ended :
      (onLine 0 (-1)).solve PivotRule.first 4 () ≠ .error .budget := by
    intro stopped
    rw [stopped] at computed
    cases computed
  exact solve_unbounded_iff (onLine 0 (-1)) PivotRule.respects_first ended

end LinearProgram

end RationalSimplex
