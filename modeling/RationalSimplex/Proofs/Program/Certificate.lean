import RationalSimplex.Proofs.Program.Invariant

/-!
# Certificates in final tableaux

The reduced costs of the slack variables in a final tableau are multipliers of
the constraints.  They show on their own that a plan is optimal or that no plan
exists.  A column with a negative reduced cost shows a direction in which the
objective grows without bound.

The multipliers are read off by looking at the objective of the tableau at the
points of the program with their slacks: there it is linear with known
coefficients, although the slacks need not be nonnegative.
-/

namespace RationalSimplex

namespace LinearProgram

/-- The coefficients of a variable in the constraints. -/
def columnOf (program : LinearProgram) (index : Nat) : List Rat :=
  program.constraints.map fun constraint =>
    constraint.expression.coefficients.getD index 0

/-- The right-hand sides of the constraints. -/
def constants (program : LinearProgram) : List Rat :=
  program.constraints.map Constraint.constant

/-- Multipliers under which the constraints bound the objective by the value,
and which are complementary to the plan. -/
structure CertifiesOptimum (program : LinearProgram)
    (multipliers plan : List Rat) (value : Rat) : Prop where
  length_eq : multipliers.length = program.constraints.length
  nonneg : ∀ number ∈ multipliers, 0 ≤ number
  covers : ∀ index < program.width,
    program.objective.expression.coefficients.getD index 0 ≤
      dot multipliers (program.columnOf index)
  value_eq : dot multipliers program.constants = value
  row_slack : ∀ {row : Nat} {constraint : Constraint},
    program.constraints[row]? = some constraint →
      multipliers.getD row 0 * (constraint.constant -
        dot constraint.expression.coefficients plan) = 0
  column_slack : ∀ index < program.width,
    (dot multipliers (program.columnOf index) -
      program.objective.expression.coefficients.getD index 0) *
        plan.getD index 0 = 0

/-- Multipliers under which the constraints ask for a sum of nonnegative
numbers to be negative. -/
structure CertifiesInfeasible (program : LinearProgram)
    (multipliers : List Rat) : Prop where
  length_eq : multipliers.length = program.constraints.length
  nonneg : ∀ number ∈ multipliers, 0 ≤ number
  covers : ∀ index < program.width,
    0 ≤ dot multipliers (program.columnOf index)
  negative : dot multipliers program.constants < 0

/-- A direction that improves the objective and leads away from no
constraint. -/
structure CertifiesUnbounded (program : LinearProgram)
    (direction : List Rat) : Prop where
  length_eq : direction.length = program.width
  nonneg : ∀ number ∈ direction, 0 ≤ number
  keeps : ∀ constraint ∈ program.constraints,
    dot constraint.expression.coefficients direction ≤ 0
  improves : 0 < dot program.objective.expression.coefficients direction

end LinearProgram

namespace Tableau

/-- The reduced costs of the slack variables. -/
def slackCosts (tableau : Tableau) (program : LinearProgram) :
    Except Fault (List Rat) :=
  (List.range program.constraints.length).mapM fun (row : Nat) =>
    tableau.reducedCost (program.width + row : Nat)

/-- What the final tableau shows about the outcome, with the reduced costs of
its slack variables.  Every column with a negative reduced cost has a ray. -/
def Certifies (tableau : Tableau) (program : LinearProgram)
    (multipliers : List Rat) : Outcome → Prop
  | .optimal plan value => program.CertifiesOptimum multipliers plan value
  | .infeasible => program.CertifiesInfeasible multipliers
  | .unbounded => ∃ columns, tableau.improvingColumns = .ok columns ∧
      columns ≠ [] ∧ ∀ entering ∈ columns,
        (∀ column, 0 ≤ tableau.ray entering column) ∧
          program.CertifiesUnbounded
            ((List.range program.width).map (tableau.ray entering))

variable {tableau initial : Tableau} {program : LinearProgram}

/-! ## Reading the multipliers -/

/-- The entries of the objective row in the columns of the slack variables. -/
def multipliers (tableau : Tableau) (program : LinearProgram) : List Rat :=
  (List.range program.constraints.length).map fun row =>
    tableau.entry tableau.constraintCount (program.width + row)

@[simp] theorem length_multipliers (tableau : Tableau)
    (program : LinearProgram) :
    (tableau.multipliers program).length = program.constraints.length := by
  simp [multipliers]

theorem getD_multipliers {row : Nat}
    (inside : row < program.constraints.length) :
    (tableau.multipliers program).getD row 0 =
      tableau.entry tableau.constraintCount (program.width + row) := by
  simp [multipliers, inside]

theorem Shaped.slackCosts_eq_ok (shaped : tableau.Shaped)
    (fits : program.width + program.constraints.length ≤
      tableau.columnCount) :
    tableau.slackCosts program = .ok (tableau.multipliers program) := by
  apply mapM_eq_ok
  intro row member
  have inside := List.mem_range.mp member
  exact shaped.reducedCost_eq_ok (by omega)

theorem multipliers_nonneg (none : tableau.improving = [])
    (fits : program.width + program.constraints.length ≤
      tableau.columnCount) :
    ∀ number ∈ tableau.multipliers program, 0 ≤ number := by
  intro number member
  obtain ⟨row, listed, rfl⟩ := List.mem_map.mp member
  have inside := List.mem_range.mp listed
  exact costs_nonneg_of_improving_eq_nil none (by omega)

theorem objectiveAt_withSlacks (fits : program.width +
    program.constraints.length ≤ tableau.columnCount) (point : List Rat) :
    tableau.objectiveAt (program.withSlacks point) =
      tableau.level tableau.constraintCount -
        (∑ column ∈ Finset.range program.width,
          tableau.entry tableau.constraintCount column * point.getD column 0 +
        dot (tableau.multipliers program)
          (program.constraints.map fun constraint => constraint.constant -
            dot constraint.expression.coefficients point)) := by
  obtain ⟨rest, columns⟩ := Nat.exists_eq_add_of_le fits
  have ofSlacks : ∑ row ∈ Finset.range program.constraints.length,
      tableau.entry tableau.constraintCount (program.width + row) *
        program.withSlacks point (program.width + row) =
      dot (tableau.multipliers program)
        (program.constraints.map fun constraint => constraint.constant -
          dot constraint.expression.coefficients point) := by
    rw [dot_eq_sum (tableau.length_multipliers program).le]
    apply Finset.sum_congr rfl
    intro row member
    have inside := Finset.mem_range.mp member
    have place := List.getElem?_eq_getElem inside
    rw [getD_multipliers inside, LinearProgram.withSlacks_slack place]
    simp [inside]
  have ofArtificials : ∑ index ∈ Finset.range rest,
      tableau.entry tableau.constraintCount
          (program.width + program.constraints.length + index) *
        program.withSlacks point
          (program.width + program.constraints.length + index) = 0 := by
    apply Finset.sum_eq_zero
    intro index _
    rw [program.withSlacks_artificial point (Nat.le_add_right _ _), mul_zero]
  unfold objectiveAt
  rw [residual_eq, columns, Finset.sum_range_add, Finset.sum_range_add,
    program.sum_withSlacks, ofSlacks, ofArtificials, add_zero]

/-- At the points of the program with their slacks, the last row expresses a
sum of costs. -/
structure Prices (tableau : Tableau) (program : LinearProgram)
    (costs : List Rat) : Prop where
  fits : program.width + program.constraints.length ≤ tableau.columnCount
  objectiveAt_eq : ∀ point,
    tableau.objectiveAt (program.withSlacks point) = dot costs point

namespace Prices

variable {costs : List Rat}

/-- The value of the tableau is that of the multipliers. -/
theorem dot_constants (prices : tableau.Prices program costs) :
    dot (tableau.multipliers program) program.constants =
      tableau.level tableau.constraintCount := by
  have origin := prices.objectiveAt_eq []
  rw [objectiveAt_withSlacks prices.fits] at origin
  simp only [List.getD_nil, mul_zero, Finset.sum_const_zero, zero_add,
    dot_nil_right, sub_zero] at origin
  exact (sub_eq_zero.mp origin).symm

/-- The reduced cost of a variable is what the multipliers make of its column,
less its cost. -/
theorem entry_eq (prices : tableau.Prices program costs)
    (short : costs.length ≤ program.width) {index : Nat}
    (inside : index < program.width) :
    tableau.entry tableau.constraintCount index =
      dot (tableau.multipliers program) (program.columnOf index) -
        costs.getD index 0 := by
  have unit := prices.objectiveAt_eq (unitRow program.width index 1)
  have slacks : (program.constraints.map fun constraint =>
      constraint.constant - dot constraint.expression.coefficients
        (unitRow program.width index 1)) =
      program.constraints.map fun constraint => constraint.constant -
        constraint.expression.coefficients.getD index 0 := by
    apply List.map_congr_left
    intro constraint member
    obtain ⟨row, place⟩ := List.getElem?_of_mem member
    rw [dot_eq_sum (LinearProgram.length_coefficients place).le,
      sum_mul_unitRow inside, mul_one]
  rw [objectiveAt_withSlacks prices.fits, dot_eq_sum short,
    sum_mul_unitRow inside, sum_mul_unitRow inside, mul_one, mul_one, slacks,
    dot_map_sub] at unit
  have constants := prices.dot_constants
  unfold LinearProgram.constants at constants
  unfold LinearProgram.columnOf
  linarith

end Prices

/-! ## The first phase -/

theorem IsOfPhaseOne.prices (isOfPhase : tableau.IsOfPhaseOne initial program)
    (isInitial : initial.IsInitial program) : tableau.Prices program [] where
  fits := by
    rw [isOfPhase.columnCount_eq]
    exact Nat.le_add_right _ _
  objectiveAt_eq := by
    intro point
    have solves := (isOfPhase.solves_iff _).mpr
      (isInitial.solves_withSlacks point)
    rw [isOfPhase.objectiveAt_eq _ solves, ← isInitial.objectiveAt_eq,
      isInitial.objectiveAt_withSlacks, dot_nil_left]

theorem IsOfPhaseOne.certifiesInfeasible
    (isOfPhase : tableau.IsOfPhaseOne initial program)
    (isInitial : initial.IsInitial program) (none : tableau.improving = [])
    (negative : tableau.level tableau.constraintCount < 0) :
    program.CertifiesInfeasible (tableau.multipliers program) := by
  have prices := isOfPhase.prices isInitial
  refine ⟨tableau.length_multipliers program,
    multipliers_nonneg none prices.fits, ?_, ?_⟩
  · intro index inside
    have before : index < tableau.columnCount :=
      lt_of_lt_of_le (Nat.lt_add_right _ inside) prices.fits
    have cost := costs_nonneg_of_improving_eq_nil none before
    rw [prices.entry_eq (Nat.zero_le _) inside, List.getD_nil, sub_zero] at cost
    exact cost
  · rw [prices.dot_constants]
    exact negative

/-! ## The second phase -/

namespace IsOfPhaseTwo

theorem objectiveAt_eq (isOfPhase : tableau.IsOfPhaseTwo initial program)
    {values : Nat → Rat} (solves : tableau.Solves values) :
    tableau.objectiveAt values = dot program.objective.expression.coefficients
      ((List.range program.width).map values) := by
  have evaluated := isOfPhase.evaluate_eq values solves
  exact (Objective.evaluate_eq_ok_iff.mp evaluated).2.symm

/-- A point with its slacks solves the tableau. -/
theorem solves_withSlacks (isOfPhase : tableau.IsOfPhaseTwo initial program)
    (isInitial : initial.IsInitial program) (point : List Rat) :
    tableau.Solves (program.withSlacks point) := by
  have same : program.padded (program.withSlacks point) =
      program.withSlacks point := by
    funext column
    unfold LinearProgram.padded
    split
    · rfl
    · next behind =>
        exact (program.withSlacks_artificial point (not_lt.mp behind)).symm
  rw [isOfPhase.solves_iff, same]
  exact isInitial.solves_withSlacks point

theorem prices (isOfPhase : tableau.IsOfPhaseTwo initial program)
    (isInitial : initial.IsInitial program) :
    tableau.Prices program program.objective.expression.coefficients where
  fits := isOfPhase.columnCount_eq.ge
  objectiveAt_eq := by
    intro point
    have solves := isOfPhase.solves_withSlacks isInitial point
    have fits : program.objective.expression.coefficients.length ≤
        program.width :=
      Nat.le_refl _
    rw [isOfPhase.objectiveAt_eq solves, dot_map_range fits, dot_eq_sum fits,
      program.sum_withSlacks]

/-- The slack variables of a solution are the slacks of the constraints. -/
theorem slack_eq (isOfPhase : tableau.IsOfPhaseTwo initial program)
    (isInitial : initial.IsInitial program) {row : Nat}
    {constraint : Constraint}
    (place : program.constraints[row]? = some constraint)
    {values : Nat → Rat} (solves : tableau.Solves values) :
    values (program.width + row) = constraint.constant -
      dot constraint.expression.coefficients
        ((List.range program.width).map values) := by
  have inside : row < program.constraints.length :=
    (List.getElem?_eq_some_iff.mp place).1
  have zero : ∀ column < initial.columnCount,
      (column : Int) ∈ initial.artificial →
        program.padded values column = 0 := by
    intro column _ artificial
    have behind := (isInitial.mem_artificial_iff.mp artificial).1
    exact if_neg (not_lt.mpr behind)
  have kept : (List.range program.width).map (program.padded values) =
      (List.range program.width).map values := by
    apply List.map_congr_left
    intro column member
    have before := List.mem_range.mp member
    exact if_pos (by omega)
  have slack := isInitial.slack_eq place
    ((isOfPhase.solves_iff values).mp solves) zero
  rw [kept] at slack
  rw [← slack]
  exact (if_pos (by omega)).symm

theorem certifiesOptimum (isOfPhase : tableau.IsOfPhaseTwo initial program)
    (isInitial : initial.IsInitial program) (none : tableau.improving = []) :
    program.CertifiesOptimum (tableau.multipliers program)
      ((List.range program.width).map tableau.basicSolution)
      (tableau.level tableau.constraintCount) := by
  have prices := isOfPhase.prices isInitial
  have costs := fun {index : Nat} (inside : index < program.width) =>
    prices.entry_eq (Nat.le_refl _) inside
  refine ⟨tableau.length_multipliers program,
    multipliers_nonneg none prices.fits, ?_, prices.dot_constants, ?_, ?_⟩
  · intro index inside
    have before : index < tableau.columnCount :=
      lt_of_lt_of_le (Nat.lt_add_right _ inside) prices.fits
    have cost := costs_nonneg_of_improving_eq_nil none before
    rw [costs inside, sub_nonneg] at cost
    exact cost
  · intro row constraint place
    rw [getD_multipliers (List.getElem?_eq_some_iff.mp place).1,
      ← isOfPhase.slack_eq isInitial place isOfPhase.form.solves_basicSolution]
    exact isOfPhase.form.cost_mul_basicValue tableau.level _
  · intro index inside
    rw [← costs inside]
    have plan : ((List.range program.width).map
        tableau.basicSolution).getD index 0 = tableau.basicSolution index := by
      simp [inside]
    rw [plan]
    exact isOfPhase.form.cost_mul_basicValue tableau.level index

/-- Raising a variable with a negative reduced cost leads away from the basic
solution and never out of the polytope. -/
theorem certifiesUnbounded (isOfPhase : tableau.IsOfPhaseTwo initial program)
    (isInitial : initial.IsInitial program)
    (exhausted : tableau.candidates = []) {entering : Nat}
    (improves : entering ∈ tableau.improving) :
    (∀ column, 0 ≤ tableau.ray entering column) ∧
      program.CertifiesUnbounded
        ((List.range program.width).map (tableau.ray entering)) := by
  obtain ⟨inside, negative⟩ := mem_improving_iff.mp improves
  have nonneg : ∀ column, 0 ≤ tableau.ray entering column := by
    apply ray_nonneg isOfPhase.form.toShaped
    intro row rowInside
    exact entry_nonpos_of_candidates_eq_nil exhausted inside negative rowInside
  have before := isOfPhase.form.solves_basicSolution
  have after := isOfPhase.form.solves_raised inside 1
  have difference := isOfPhase.form.ray_eq negative
  have along : ∀ coefficients : List Rat,
      dot coefficients
          ((List.range program.width).map (tableau.ray entering)) =
        dot coefficients
            ((List.range program.width).map (tableau.raised entering 1)) -
          dot coefficients
            ((List.range program.width).map tableau.basicSolution) := by
    intro coefficients
    rw [← dot_map_sub, ← funext difference]
  refine ⟨nonneg, by simp, ?_, ?_, ?_⟩
  · intro number member
    obtain ⟨column, _, rfl⟩ := List.mem_map.mp member
    exact nonneg column
  · intro constraint member
    obtain ⟨row, place⟩ := List.getElem?_of_mem member
    have slack := nonneg (program.width + row)
    rw [difference, isOfPhase.slack_eq isInitial place before,
      isOfPhase.slack_eq isInitial place after] at slack
    rw [along]
    linarith
  · rw [along, ← isOfPhase.objectiveAt_eq after,
      ← isOfPhase.objectiveAt_eq before,
      isOfPhase.form.objectiveAt_raised inside,
      isOfPhase.form.objectiveAt_basicSolution]
    linarith

end IsOfPhaseTwo

end Tableau

/-! ## Ended runs -/

namespace PivotRule

variable {σ : Type} {rule : PivotRule σ} {program : LinearProgram}
  {initial : Tableau} {start : σ} {solution : Solution}

theorem EndsInPhaseOne.certifies {ended : Progress σ}
    (ends : rule.EndsInPhaseOne initial start solution ended)
    (isInitial : initial.IsInitial program) :
    ∃ multipliers, solution.tableau.slackCosts program = .ok multipliers ∧
      solution.tableau.Certifies program multipliers solution.outcome := by
  have isOfPhase := (ends.reached.maintains isInitial).isOfPhaseOne isInitial
  have endsPhase := ends.reached.endsPhaseOne ends.stopped isInitial
  have negative :
      ended.tableau.level ended.tableau.constraintCount < 0 := by
    apply lt_of_le_of_ne (endsPhase.level_nonpos isInitial)
    intro zero
    apply ends.value_ne
    rw [isOfPhase.form.value_eq_ok, zero]
  rw [ends.tableau_eq, ends.outcome_eq]
  refine ⟨ended.tableau.multipliers program, ?_, ?_⟩
  · exact isOfPhase.form.slackCosts_eq_ok (isOfPhase.prices isInitial).fits
  · exact isOfPhase.certifiesInfeasible isInitial
      (endsPhase.improving_eq_nil isInitial) negative

theorem EndsInPhaseTwo.certifies {ended first last : Progress σ}
    (ends : rule.EndsInPhaseTwo initial start solution ended first last)
    (isInitial : initial.IsInitial program) :
    ∃ multipliers, solution.tableau.slackCosts program = .ok multipliers ∧
      solution.tableau.Certifies program multipliers solution.outcome := by
  obtain ⟨prepared, columns, preparation, maintains⟩ :=
    ends.reached.exists_prepared isInitial
  have isOfPhase := maintains.isOfPhaseTwo preparation isInitial
  have shaped := maintains.form.toShaped
  have exhausted := candidates_eq_nil_of_stopped ends.stopped shaped
  have outcome := ends.outcome_eq
  rw [ends.tableau_eq]
  refine ⟨last.tableau.multipliers program,
    shaped.slackCosts_eq_ok (isOfPhase.prices isInitial).fits, ?_⟩
  by_cases none : last.tableau.improving = []
  · have plan : last.tableau.start =
        (List.range program.width).map fun (index : Nat) => (index : Int) :=
      (maintains.equivalent.start_eq.trans preparation.start_eq).trans
        isInitial.start_eq
    rw [shaped.finalOutcome_of_improving_eq_nil none,
      Tableau.basicPlan_eq plan] at outcome
    rw [← Except.ok.inj outcome]
    exact isOfPhase.certifiesOptimum isInitial none
  · rw [shaped.finalOutcome_of_improving_ne_nil none] at outcome
    rw [← Except.ok.inj outcome]
    exact ⟨last.tableau.improving, shaped.improvingColumns_eq_ok, none,
      fun _ improves =>
        isOfPhase.certifiesUnbounded isInitial exhausted improves⟩

/-- With a rule that picks from the offered pivots, every run on a canonical
program that ends leaves a tableau whose reduced costs of the slack variables
certify the outcome, or whose rays do when the program is unbounded. -/
theorem solve_certifies (canonical : program.IsCanonical)
    (respects : rule.Respects) (budget : Nat) (start : σ) :
    ∃ initial, Tableau.ofCanonical program = .ok initial ∧
      (rule.solve budget start initial ≠ .error .budget →
        ∃ solution final multipliers,
          rule.solve budget start initial = .ok (solution, final) ∧
          solution.tableau.slackCosts program = .ok multipliers ∧
          solution.tableau.Certifies program multipliers
            solution.outcome) := by
  obtain ⟨initial, built, isInitial⟩ := Tableau.ofCanonical_eq_ok canonical
  refine ⟨initial, built, ?_⟩
  intro ended
  obtain ⟨⟨solution, final⟩, run, _⟩ :=
    (rule.yields_solve budget start isInitial canonical).exists_of_respects
      respects ended
  have certified : ∃ multipliers,
      solution.tableau.slackCosts program = .ok multipliers ∧
        solution.tableau.Certifies program multipliers solution.outcome := by
    rcases ends_of_solve run with ⟨_, ends⟩ | ⟨_, _, _, ends⟩
    · exact ends.certifies isInitial
    · exact ends.certifies isInitial
  obtain ⟨multipliers, read, certifies⟩ := certified
  exact ⟨solution, final, multipliers, run, read, certifies⟩

/-- All three outcomes occur on the line, each with its certificate. -/
theorem solve_certifies_onLine :
    [(LinearProgram.onLine 2 (-1), Status.optimal),
      (LinearProgram.onLine 2 3, Status.infeasible),
      (LinearProgram.onLine 0 (-1), Status.unbounded)].Forall fun sample =>
        ∃ initial solution final multipliers,
          Tableau.ofCanonical sample.1.canonicalForm.1 = .ok initial ∧
          first.solve 4 () initial = .ok (solution, final) ∧
          solution.outcome.status = sample.2 ∧
          solution.tableau.slackCosts sample.1.canonicalForm.1 =
            .ok multipliers ∧
          solution.tableau.Certifies sample.1.canonicalForm.1 multipliers
            solution.outcome := by
  have computed : ∀ sample ∈ [(LinearProgram.onLine 2 (-1), Status.optimal),
      (LinearProgram.onLine 2 3, Status.infeasible),
      (LinearProgram.onLine 0 (-1), Status.unbounded)],
      ((Tableau.ofCanonical sample.1.canonicalForm.1).toOption.bind
        fun initial => (first.solve 4 () initial).toOption.map
          fun result => result.1.outcome.status) = some sample.2 := by
    decide +kernel
  apply List.forall_iff_forall_mem.mpr
  intro sample member
  obtain ⟨initial, built, certified⟩ := solve_certifies
    sample.1.isCanonical_canonicalForm respects_first 4 ()
  have status := computed sample member
  rw [built] at status
  obtain ⟨⟨solution, final⟩, found, same⟩ := Option.map_eq_some_iff.mp status
  have run := toOption_eq_some_iff.mp found
  have ended : first.solve 4 () initial ≠ .error .budget := by
    intro stopped
    rw [stopped] at run
    cases run
  obtain ⟨other, last, multipliers, ran, read, certifies⟩ := certified ended
  rw [run] at ran
  cases ran
  exact ⟨initial, solution, final, multipliers, built, run, same, read,
    certifies⟩

end PivotRule

end RationalSimplex
