import Mathlib.Algebra.Order.Ring.Rat
import RationalSimplex.Program.Basic
import RationalSimplex.Program.Canonical
import RationalSimplex.Proofs.Linear.Points
import RationalSimplex.Simplex.Solve

/-!
# The meaning of linear programs

What it means for a program to be infeasible, to be unbounded or to have an
optimal value is said in terms of its own checks: a point counts when it is
found to lie in the polytope, and its value is what the objective evaluates to
there.
-/

namespace RationalSimplex.LinearProgram

/-- The point lies in the polytope and the objective has the value there. -/
def Attains (program : LinearProgram) (point : List Rat) (value : Rat) : Prop :=
  program.polytope.contains point = .ok true ∧
    program.objective.evaluate point = .ok value

/-- The first value is better than the second. -/
def Better (program : LinearProgram) (first second : Rat) : Prop :=
  if program.objective.maximize then second < first else first < second

/-- No point lies in the polytope. -/
def IsInfeasible (program : LinearProgram) : Prop :=
  ∀ point, program.polytope.contains point ≠ .ok true

/-- There are points, and their values are better than any bound. -/
def IsUnbounded (program : LinearProgram) : Prop :=
  (∃ point, program.polytope.contains point = .ok true) ∧
    ∀ bound, ∃ point value,
      program.Attains point value ∧ program.Better value bound

/-- The value is attained, and none that is attained is better. -/
def HasOptimum (program : LinearProgram) (value : Rat) : Prop :=
  (∃ point, program.Attains point value) ∧
    ∀ point other, program.Attains point other → ¬program.Better other value

/-- The outcome tells the truth about the program. -/
def IsSolvedBy (program : LinearProgram) : Outcome → Prop
  | .optimal plan value =>
      plan.length = program.width ∧ program.Attains plan value ∧
        ∀ point other, program.Attains point other →
          ¬program.Better other value
  | .infeasible => program.IsInfeasible
  | .unbounded => program.IsUnbounded

variable {program : LinearProgram}

theorem contains_iff {point : List Rat} :
    program.polytope.contains point = .ok true ↔
      program.width ≤ point.length ∧ program.polytope.Contains point := by
  rw [Polytope.contains_eq_ok_true_iff, ← program.objective_width]
  rfl

/-- The objective has a value at every point of the polytope. -/
theorem attains_iff {point : List Rat} {value : Rat} :
    program.Attains point value ↔
      program.width ≤ point.length ∧ program.polytope.Contains point ∧
        dot program.objective.expression.coefficients point = value := by
  unfold Attains
  rw [contains_iff, Objective.evaluate_eq_ok_iff]
  constructor
  · rintro ⟨⟨long, inside⟩, _, value⟩
    exact ⟨long, inside, value⟩
  · rintro ⟨long, inside, value⟩
    exact ⟨⟨long, inside⟩, long, value⟩

theorem attains_of_contains {point : List Rat}
    (inside : program.polytope.contains point = .ok true) :
    program.Attains point
      (dot program.objective.expression.coefficients point) := by
  obtain ⟨long, contained⟩ := contains_iff.mp inside
  exact attains_iff.mpr ⟨long, contained, rfl⟩

theorem not_better_iff {first second : Rat} :
    ¬program.Better first second ↔
      if program.objective.maximize then first ≤ second
      else second ≤ first := by
  unfold Better
  split
  · exact not_lt
  · exact not_lt

/-- The three outcomes exclude each other. -/
theorem IsUnbounded.not_isInfeasible (unbounded : program.IsUnbounded) :
    ¬program.IsInfeasible := by
  intro infeasible
  obtain ⟨⟨point, inside⟩, _⟩ := unbounded
  exact infeasible point inside

theorem HasOptimum.not_isUnbounded {value : Rat}
    (optimum : program.HasOptimum value) : ¬program.IsUnbounded := by
  intro unbounded
  obtain ⟨point, other, attains, better⟩ := unbounded.2 value
  exact optimum.2 point other attains better

theorem HasOptimum.not_isInfeasible {value : Rat}
    (optimum : program.HasOptimum value) : ¬program.IsInfeasible := by
  intro infeasible
  obtain ⟨point, attains⟩ := optimum.1
  exact infeasible point attains.1

theorem IsSolvedBy.hasOptimum {plan : List Rat} {value : Rat}
    (solved : program.IsSolvedBy (.optimal plan value)) :
    program.HasOptimum value :=
  ⟨⟨plan, solved.2.1⟩, solved.2.2⟩

/-- A true outcome is infeasible exactly when the program is. -/
theorem IsSolvedBy.status_eq_infeasible_iff {outcome : Outcome}
    (solved : program.IsSolvedBy outcome) :
    outcome.status = .infeasible ↔ program.IsInfeasible := by
  cases outcome with
  | optimal plan value =>
      simp [Outcome.status, solved.hasOptimum.not_isInfeasible]
  | infeasible =>
      have infeasible : program.IsInfeasible := solved
      simp [Outcome.status, infeasible]
  | unbounded =>
      have unbounded : program.IsUnbounded := solved
      simp [Outcome.status, unbounded.not_isInfeasible]

/-- A true outcome is unbounded exactly when the program is. -/
theorem IsSolvedBy.status_eq_unbounded_iff {outcome : Outcome}
    (solved : program.IsSolvedBy outcome) :
    outcome.status = .unbounded ↔ program.IsUnbounded := by
  cases outcome with
  | optimal plan value =>
      simp [Outcome.status, solved.hasOptimum.not_isUnbounded]
  | infeasible =>
      have infeasible : program.IsInfeasible := solved
      have bounded : ¬program.IsUnbounded := fun unbounded =>
        unbounded.not_isInfeasible infeasible
      simp [Outcome.status, bounded]
  | unbounded =>
      have unbounded : program.IsUnbounded := solved
      simp [Outcome.status, unbounded]

end RationalSimplex.LinearProgram
