import Mathlib.Algebra.Order.BigOperators.Group.Finset
import Mathlib.Tactic.Linarith
import RationalSimplex.Proofs.Program.Meaning
import RationalSimplex.Proofs.Simplex.Phase
import RationalSimplex.Proofs.Tableau.BasicSolution
import RationalSimplex.Simplex.Solve

/-!
# What a final tableau shows

Without negative reduced costs the value of a tableau bounds its objective, and
the basic solution attains the bound.  When pivots have come to an end at a
column with a negative reduced cost, raising its variable improves the
objective without bound.  The outcome that is read off a final tableau is
therefore that of the program which the tableau expresses.
-/

namespace RationalSimplex.Tableau

variable {tableau : Tableau}

/-- The reduced costs bound the objective on nonnegative assignments. -/
theorem objectiveAt_le_level
    (costs : ∀ column < tableau.columnCount,
      0 ≤ tableau.entry tableau.constraintCount column)
    {values : Nat → Rat} (nonnegative : ∀ column, 0 ≤ values column) :
    tableau.objectiveAt values ≤ tableau.level tableau.constraintCount := by
  have products : 0 ≤ ∑ column ∈ Finset.range tableau.columnCount,
      tableau.entry tableau.constraintCount column * values column := by
    apply Finset.sum_nonneg
    intro column member
    exact mul_nonneg (costs column (Finset.mem_range.mp member))
      (nonnegative column)
  unfold objectiveAt
  rw [residual_eq]
  linarith

theorem costs_nonneg_of_improving_eq_nil (none : tableau.improving = [])
    {column : Nat} (inside : column < tableau.columnCount) :
    0 ≤ tableau.entry tableau.constraintCount column := by
  by_contra negative
  have member : column ∈ tableau.improving :=
    mem_improving_iff.mpr ⟨inside, not_le.mp negative⟩
  rw [none] at member
  exact List.not_mem_nil member

theorem exists_amount {cost : Rat} (negative : cost < 0) (value bound : Rat) :
    ∃ amount, 0 ≤ amount ∧ bound < value - amount * cost := by
  have positive : 0 < -cost := neg_pos.mpr negative
  refine ⟨(|bound - value| + 1) / -cost, ?_, ?_⟩
  · apply div_nonneg _ positive.le
    have magnitude := abs_nonneg (bound - value)
    linarith
  · have product : (|bound - value| + 1) / -cost * cost =
        -(|bound - value| + 1) := by
      rw [div_neg, neg_mul, div_mul_cancel₀ _ negative.ne]
    have difference := le_abs_self (bound - value)
    rw [product]
    linarith

/-- A column where pivots came to an end improves the objective beyond every
bound. -/
theorem exists_solution_beyond (form : tableau.BasicForm)
    (feasible : tableau.Feasible) (exhausted : tableau.candidates = [])
    {column : Nat} (improves : column ∈ tableau.improving) (bound : Rat) :
    ∃ values, tableau.Solves values ∧ (∀ place, 0 ≤ values place) ∧
      bound < tableau.objectiveAt values := by
  obtain ⟨inside, negative⟩ := mem_improving_iff.mp improves
  have nonpositive : ∀ row < tableau.constraintCount,
      tableau.entry row column ≤ 0 := by
    intro row rowInside
    exact entry_nonpos_of_candidates_eq_nil exhausted inside negative rowInside
  obtain ⟨amount, nonnegative, beyond⟩ := exists_amount negative
    (tableau.level tableau.constraintCount) bound
  refine ⟨tableau.raised column amount, form.solves_raised inside amount,
    feasible.raised_nonneg form.toShaped nonpositive nonnegative, ?_⟩
  rw [form.objectiveAt_raised inside]
  exact beyond

/-- The nonnegative solutions of a tableau are, up to slack variables, the
points of a program that maximises, and the last row expresses its
objective. -/
structure Expresses (tableau : Tableau) (program : LinearProgram) : Prop where
  maximize : program.objective.maximize = true
  start_eq : tableau.start =
    (List.range program.width).map fun (index : Nat) => (index : Int)
  sound : ∀ values, tableau.Solves values → (∀ place, 0 ≤ values place) →
    program.Attains ((List.range program.width).map values)
      (tableau.objectiveAt values)
  complete : ∀ point value, program.Attains point value →
    ∃ values, tableau.Solves values ∧ (∀ place, 0 ≤ values place) ∧
      tableau.objectiveAt values = value

theorem Expresses.of_equivalent {source : Tableau} {program : LinearProgram}
    (expresses : source.Expresses program)
    (equivalent : tableau.Equivalent source) :
    tableau.Expresses program where
  maximize := expresses.maximize
  start_eq := equivalent.start_eq.trans expresses.start_eq
  sound := by
    intro values solves nonnegative
    have sourceSolves := (equivalent.solves_iff values).mp solves
    rw [equivalent.objectiveAt_eq values sourceSolves]
    exact expresses.sound values sourceSolves nonnegative
  complete := by
    intro point value attains
    obtain ⟨values, solves, nonnegative, objective⟩ :=
      expresses.complete point value attains
    refine ⟨values, (equivalent.solves_iff values).mpr solves, nonnegative, ?_⟩
    rw [equivalent.objectiveAt_eq values solves]
    exact objective

theorem basicPlan_eq {count : Nat}
    (start : tableau.start =
      (List.range count).map fun (index : Nat) => (index : Int)) :
    tableau.basicPlan = (List.range count).map tableau.basicSolution := by
  unfold basicPlan
  rw [start, List.map_map]
  rfl

theorem Shaped.finalOutcome_of_improving_eq_nil (shaped : tableau.Shaped)
    (none : tableau.improving = []) :
    tableau.finalOutcome = .ok (.optimal tableau.basicPlan
      (tableau.level tableau.constraintCount)) := by
  unfold finalOutcome
  rw [shaped.improvingColumns_eq_ok, none, shaped.plan_eq_ok,
    shaped.value_eq_ok]
  rfl

theorem Shaped.finalOutcome_of_improving_ne_nil (shaped : tableau.Shaped)
    (some : tableau.improving ≠ []) :
    tableau.finalOutcome = .ok .unbounded := by
  obtain ⟨first, rest, equal⟩ := List.exists_cons_of_ne_nil some
  unfold finalOutcome
  rw [shaped.improvingColumns_eq_ok, equal]
  rfl

theorem Shaped.finalOutcome_exists_ok (shaped : tableau.Shaped) :
    ∃ outcome, tableau.finalOutcome = .ok outcome := by
  by_cases none : tableau.improving = []
  · exact ⟨_, shaped.finalOutcome_of_improving_eq_nil none⟩
  · exact ⟨_, shaped.finalOutcome_of_improving_ne_nil none⟩

/-- The outcome that is read off a tableau without admissible pivots is true of
the program that the tableau expresses. -/
theorem Expresses.finalOutcome_eq_ok {program : LinearProgram}
    (expresses : tableau.Expresses program) (form : tableau.BasicForm)
    (feasible : tableau.Feasible) (exhausted : tableau.candidates = []) :
    ∃ outcome, tableau.finalOutcome = .ok outcome ∧
      program.IsSolvedBy outcome := by
  have solution := form.solves_basicSolution
  have nonnegative := feasible.basicSolution_nonneg form.toShaped
  have attained := expresses.sound _ solution nonnegative
  by_cases none : tableau.improving = []
  · refine ⟨_, form.finalOutcome_of_improving_eq_nil none, ?_, ?_, ?_⟩
    · rw [basicPlan_eq expresses.start_eq]
      simp
    · rw [basicPlan_eq expresses.start_eq, ← form.objectiveAt_basicSolution]
      exact attained
    · intro point other attains
      obtain ⟨values, _, valuesNonnegative, objective⟩ :=
        expresses.complete point other attains
      have bounded := objectiveAt_le_level
        (fun column inside => costs_nonneg_of_improving_eq_nil none inside)
        valuesNonnegative
      rw [LinearProgram.not_better_iff, if_pos expresses.maximize,
        ← objective]
      exact bounded
  · refine ⟨.unbounded, form.finalOutcome_of_improving_ne_nil none, ?_, ?_⟩
    · exact ⟨_, attained.1⟩
    · intro bound
      obtain ⟨column, rest, equal⟩ := List.exists_cons_of_ne_nil none
      have improves : column ∈ tableau.improving := by
        rw [equal]
        exact List.mem_cons_self
      obtain ⟨values, solves, valuesNonnegative, beyond⟩ :=
        exists_solution_beyond form feasible exhausted improves bound
      refine ⟨_, _, expresses.sound values solves valuesNonnegative, ?_⟩
      unfold LinearProgram.Better
      rw [if_pos expresses.maximize]
      exact beyond

end RationalSimplex.Tableau
