import RationalSimplex.Linear.Polytope
import RationalSimplex.Proofs.Linear.Dot
import RationalSimplex.Proofs.Success

/-!
# Points of polytopes

The calculations at a point succeed when the point has a coordinate for every
variable.  Whether a point lies in a polytope is then decided by the meaning of
its constraints, and a point that is too short lies in no polytope, because
there is a constraint to be looked at.
-/

namespace RationalSimplex

theorem Expression.evaluate_eq_ok_iff {expression : Expression}
    {point : List Rat} {value : Rat} :
    expression.evaluate point = .ok value ↔
      expression.width ≤ point.length ∧
        dot expression.coefficients point = value := by
  unfold evaluate
  split
  · next short => simp [Nat.not_le.mpr short]
  · next long => simp [Nat.not_lt.mp long]

theorem Objective.evaluate_eq_ok_iff {objective : Objective}
    {point : List Rat} {value : Rat} :
    objective.evaluate point = .ok value ↔
      objective.expression.width ≤ point.length ∧
        dot objective.expression.coefficients point = value :=
  Expression.evaluate_eq_ok_iff

theorem Constraint.satisfied_eq_ok {constraint : Constraint}
    {point : List Rat} (long : constraint.width ≤ point.length) :
    constraint.satisfied point =
      .ok (decide (constraint.SatisfiedBy point)) := by
  have evaluated : constraint.expression.evaluate point =
      .ok (dot constraint.expression.coefficients point) :=
    Expression.evaluate_eq_ok_iff.mpr ⟨long, rfl⟩
  unfold satisfied
  rw [evaluated]
  rfl

theorem Constraint.satisfied_eq_error {constraint : Constraint}
    {point : List Rat} (short : point.length < constraint.width) :
    constraint.satisfied point =
      .error (.model (.shortPoint point.length constraint.width)) := by
  have refused : constraint.expression.evaluate point =
      .error (.model (.shortPoint point.length constraint.width)) :=
    if_pos short
  unfold satisfied
  rw [refused]

namespace Polytope

theorem contains_eq_ok {polytope : Polytope} {point : List Rat}
    (long : polytope.dimension ≤ point.length) :
    polytope.contains point = .ok (decide (polytope.Contains point)) := by
  have constraints : (polytope.constraints.allM fun constraint =>
      constraint.satisfied point) =
        .ok (polytope.constraints.all fun constraint =>
          decide (constraint.SatisfiedBy point)) := by
    apply allM_eq_ok
    intro constraint member
    apply Constraint.satisfied_eq_ok
    rw [polytope.width_eq constraint member]
    exact long
  unfold contains
  rw [constraints]
  cases satisfied : polytope.constraints.all fun constraint =>
      decide (constraint.SatisfiedBy point) with
  | false =>
      have violated : ¬polytope.Contains point := by
        intro inside
        have all := inside.1
        simp only [List.all_eq_false, decide_eq_true_eq] at satisfied
        obtain ⟨constraint, member, broken⟩ := satisfied
        exact broken (all constraint member)
      simp [violated]
  | true =>
      have all : ∀ constraint ∈ polytope.constraints,
          constraint.SatisfiedBy point := by
        simpa using satisfied
      have meaning : decide (polytope.Contains point) =
          polytope.nonnegative.toList.all fun index =>
            decide (0 ≤ point.getD index 0) := by
        apply Bool.eq_iff_iff.mpr
        simp only [List.all_eq_true, decide_eq_true_eq, IndexSet.mem_toList]
        exact ⟨And.right, fun nonnegative => ⟨all, nonnegative⟩⟩
      rw [meaning]
      apply allM_eq_ok
      intro index member
      have inside : index < point.length :=
        Nat.lt_of_lt_of_le (polytope.nonnegative_lt index member) long
      simp [inside]

theorem contains_ne_ok {polytope : Polytope} {point : List Rat}
    (short : point.length < polytope.dimension) (answer : Bool) :
    polytope.contains point ≠ .ok answer := by
  obtain ⟨first, rest, equality⟩ :=
    List.exists_cons_of_ne_nil polytope.constraints_ne_nil
  have width : first.width = polytope.dimension :=
    polytope.width_eq first (by simp [equality])
  have firstShort : point.length < first.width := by omega
  have refused := Constraint.satisfied_eq_error firstShort
  simp [contains, equality, refused]

/-- A point is found to lie in a polytope exactly when it has a coordinate for
every variable and satisfies what the polytope asks for. -/
theorem contains_eq_ok_true_iff {polytope : Polytope} {point : List Rat} :
    polytope.contains point = .ok true ↔
      polytope.dimension ≤ point.length ∧ polytope.Contains point := by
  rcases Nat.lt_or_ge point.length polytope.dimension with short | long
  · constructor
    · intro contained
      exact absurd contained (contains_ne_ok short true)
    · intro ⟨long, _⟩
      omega
  · simp [contains_eq_ok long, long]

end Polytope

end RationalSimplex
