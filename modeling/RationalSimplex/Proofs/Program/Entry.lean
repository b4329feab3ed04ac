import RationalSimplex.Fault.Message
import RationalSimplex.Proofs.Program.Canonize

/-!
# Entering programs

A program is entered as an objective with constraints, or as rows of values
that are still to be read.  Parts that fit together make a program, and any
others have the fault of an invalid program.  Rows that hold fractions are the
same as the constraints with these fractions.
-/

namespace RationalSimplex

@[simp] theorem IndexSet.ofInts_toList (indices : IndexSet) :
    ofInts (indices.toList.map fun (index : Nat) => (index : Int)) =
      indices := by
  rw [ofInts_natCast]
  apply eq_of_mem_iff
  intro index
  rw [mem_ofList, mem_toList]

theorem IndexSet.mem_casts {indices : IndexSet} {bound : Nat}
    (below : ∀ index ∈ indices, index < bound) :
    ∀ index ∈ indices.toList.map fun (index : Nat) => (index : Int),
      0 ≤ index ∧ index < (bound : Int) := by
  intro index member
  obtain ⟨number, listed, rfl⟩ := List.mem_map.mp member
  exact ⟨Int.natCast_nonneg number, Int.ofNat_lt.mpr (below number listed)⟩

namespace LinearProgram

/-- A program without artificial marks is made of its parts. -/
theorem ofParts_eq_ok (program : LinearProgram)
    (unmarked : program.artificial = []) :
    ofParts program.objective program.constraints
        (program.polytope.nonnegative.toList.map
          fun (index : Nat) => (index : Int))
        (program.integers.toList.map fun (index : Nat) => (index : Int)) =
      .ok program := by
  have nonempty : ¬program.constraints.isEmpty := by
    simpa [constraints] using program.polytope.constraints_ne_nil
  have polytope := program.polytope.make_eq_ok
    (IndexSet.mem_casts program.polytope.nonnegative_lt)
    (IndexSet.ofInts_toList _)
  have integers : ∀ index ∈ program.integers, index < program.width := by
    intro index member
    rw [width, program.objective_width]
    exact program.integers_lt index member
  have made := program.make_eq_ok (IndexSet.mem_casts integers)
    (IndexSet.ofInts_toList _)
  rw [unmarked] at made
  unfold ofParts
  rw [if_neg nonempty]
  simp only [constraints, polytope, mapError_ok]
  exact made

/-- Parts that fit together are those of a program. -/
theorem exists_of_parts {objective : Objective} {constraints : List Constraint}
    {nonnegative integers : IndexSet} (nonempty : constraints ≠ [])
    (even : ∀ constraint ∈ constraints,
      constraint.width = objective.expression.width)
    (nonnegative_lt : ∀ index ∈ nonnegative,
      index < objective.expression.width)
    (integers_lt : ∀ index ∈ integers, index < objective.expression.width) :
    ∃ program : LinearProgram, program.objective = objective ∧
      program.constraints = constraints ∧
      program.polytope.nonnegative = nonnegative ∧
      program.integers = integers ∧ program.artificial = [] := by
  let polytope : Polytope :=
    ⟨objective.expression.width, constraints, nonnegative, nonempty, even,
      nonnegative_lt⟩
  exact ⟨⟨objective, polytope, integers, [], rfl, integers_lt⟩,
    rfl, rfl, rfl, rfl, rfl⟩

/-! ## Parts that do not fit -/

theorem make_kind {objective : Objective} {polytope : Polytope}
    {integers artificial : List Int} {fault : ModelFault}
    (failed : make objective polytope integers artificial = .error fault) :
    fault.kind = .invalidProgram := by
  unfold make at failed
  split at failed
  · split at failed
    · cases failed
      rfl
    · cases failed
  · cases failed
    rfl

/-- Whatever is wrong with the parts makes an invalid program. -/
theorem ofParts_kind {objective : Objective} {constraints : List Constraint}
    {nonnegative integers : List Int} {fault : ModelFault}
    (failed : ofParts objective constraints nonnegative integers =
      .error fault) :
    fault.kind = .invalidProgram := by
  unfold ofParts at failed
  by_cases empty : constraints.isEmpty
  · rw [if_pos empty] at failed
    cases failed
    rfl
  · rw [if_neg empty] at failed
    rcases bind_eq_error_iff.mp failed with uneven | ⟨polytope, _, failed⟩
    · obtain ⟨reason, _, rfl⟩ := mapError_eq_error_iff.mp uneven
      rfl
    · exact make_kind failed

end LinearProgram

/-! ## Rows of fractions -/

/-- The value whose members are the given fractions. -/
def Value.ofFractions (numbers : List Rat) : Value :=
  .list (numbers.map .fraction)

/-- The row that holds the parts of a constraint. -/
def Row.ofConstraint (constraint : Constraint) : Row where
  coefficients := .ofFractions constraint.expression.coefficients
  relation := .relation constraint.relation
  constant := .fraction constraint.constant

@[simp] theorem Expression.ofValue_ofFractions (numbers : List Rat) :
    ofValue (.ofFractions numbers) = .ok ⟨numbers⟩ := by
  have read : Value.toRats (numbers.map .fraction) = .ok numbers := by
    unfold Value.toRats
    rw [List.mapM_map]
    have each : (numbers.mapM fun number => (Value.fraction number).toRat) =
        .ok (numbers.map id) := mapM_eq_ok fun _ _ => rfl
    rwa [List.map_id] at each
  simp only [ofValue, Value.ofFractions, Value.members?, read]

@[simp] theorem Row.toConstraint_ofConstraint (constraint : Constraint) :
    (ofConstraint constraint).toConstraint = .ok constraint := by
  unfold toConstraint ofConstraint
  rw [Expression.ofValue_ofFractions]
  rfl

/-- Rows that hold fractions are entered as the constraints with these
fractions are. -/
theorem LinearProgram.ofRows_ofConstraint (objective : Objective)
    (constraints : List Constraint) (nonnegative integers : List Int) :
    ofRows (.ofFractions objective.expression.coefficients)
        (constraints.map Row.ofConstraint) nonnegative objective.maximize
        integers =
      (ofParts objective constraints nonnegative integers).mapError .model := by
  have rows : (constraints.map Row.ofConstraint).mapM Row.toConstraint =
      .ok constraints := by
    rw [List.mapM_map]
    have each : constraints.mapM (Row.toConstraint ∘ Row.ofConstraint) =
        .ok (constraints.map id) :=
      mapM_eq_ok fun constraint _ => Row.toConstraint_ofConstraint constraint
    rwa [List.map_id] at each
  unfold ofRows ofParts
  simp only [rows, ok_bind, Expression.ofValue_ofFractions]
  cases constraints with
  | nil => rfl
  | cons first rest =>
      cases Polytope.make (first :: rest) nonnegative with
      | error fault => rfl
      | ok polytope => rfl

end RationalSimplex
