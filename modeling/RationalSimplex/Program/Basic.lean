import RationalSimplex.Linear.Polytope

/-!
# Linear programs

A linear program optimises an objective over a polytope of the same dimension.
Some of its variables may be marked as integers or as artificial; the marks do
not change what is feasible.
-/

namespace RationalSimplex

/-- An objective over a polytope. -/
structure LinearProgram where
  objective : Objective
  polytope : Polytope
  integers : IndexSet
  artificial : List Int
  objective_width : objective.expression.width = polytope.dimension
  integers_lt : ∀ index ∈ integers, index < polytope.dimension
deriving DecidableEq

/-- The coefficients, the relation and the constant of a constraint as they were
entered. -/
structure Row where
  coefficients : Value
  relation : Value
  constant : Value

namespace Row

/-- The relation of a row, which may be written as text. -/
def readRelation (row : Row) : Except Fault Relation :=
  match row.relation with
  | .relation sign => .ok sign
  | other => Relation.read other

/-- The constraint that was entered. -/
def toConstraint (row : Row) : Except Fault Constraint := do
  let relation ← row.readRelation
  let expression ← Expression.ofValue row.coefficients
  let constant ← row.constant.toRat.mapError .number
  return ⟨expression, relation, constant⟩

end Row

namespace LinearProgram

/-- The number of variables. -/
def width (program : LinearProgram) : Nat :=
  program.objective.expression.width

/-- The constraints of the polytope. -/
def constraints (program : LinearProgram) : List Constraint :=
  program.polytope.constraints

/-- The least listed index that is no variable. -/
def integerOutOfRange? (width : Nat) (indices : List Int) : Option Int :=
  (indices.filter fun index => decide (index < 0 ∨ (width : Int) ≤ index)).min?

theorem lt_of_integerOutOfRange?_eq_none {width : Nat} {indices : List Int}
    (absent : integerOutOfRange? width indices = none) {index : Int}
    (member : index ∈ indices) :
    0 ≤ index ∧ index < width := by
  unfold integerOutOfRange? at absent
  rw [List.min?_eq_none_iff] at absent
  have := List.filter_eq_nil_iff.mp absent index member
  simp at this
  omega

/-- The program of an objective and a polytope with marked variables. -/
def make (objective : Objective) (polytope : Polytope)
    (integers artificial : List Int) : Except ModelFault LinearProgram :=
  if widths : objective.expression.width = polytope.dimension then
    match inRange : integerOutOfRange? objective.expression.width integers with
    | some index => .error (.integerOutOfRange index)
    | none => .ok {
        objective := objective
        polytope := polytope
        integers := .ofInts integers
        artificial := artificial
        objective_width := widths
        integers_lt := fun _ member =>
          Nat.lt_of_lt_of_eq
            (IndexSet.lt_of_mem_ofInts
              (fun _ => lt_of_integerOutOfRange?_eq_none inRange) member)
            widths }
  else
    .error (.unevenObjective objective.expression.width polytope.dimension)

/-- The same program with other artificial marks. -/
def withArtificial (program : LinearProgram) (artificial : List Int) :
    LinearProgram :=
  { program with artificial := artificial }

/-- The program of an objective and constraints, checked in this order: there is
a constraint, the constraints make a polytope, the objective fits it, and the
marked variables exist. -/
def ofParts (objective : Objective) (constraints : List Constraint)
    (nonnegative integers : List Int) : Except ModelFault LinearProgram := do
  if constraints.isEmpty then
    throw .noConstraint
  let polytope ← (Polytope.make constraints nonnegative).mapError .polytope
  make objective polytope integers []

/-- The program that was entered: its constraints are read in order, then the
objective. -/
def ofRows (objective : Value) (rows : List Row) (nonnegative : List Int)
    (maximize : Bool) (integers : List Int) : Except Fault LinearProgram := do
  let constraints ← rows.mapM Row.toConstraint
  if constraints.isEmpty then
    throw (.model .noConstraint)
  let polytope ←
    (Polytope.make constraints nonnegative).mapError (.model ∘ .polytope)
  let expression ← Expression.ofValue objective
  (make ⟨expression, maximize⟩ polytope integers []).mapError .model

/-- The program over the same polytope with a given objective. -/
def optimizing (polytope : Polytope) (objective : Objective)
    (objective_width : objective.expression.width = polytope.dimension) :
    LinearProgram where
  objective := objective
  polytope := polytope
  integers := .empty
  artificial := []
  objective_width := objective_width
  integers_lt := fun _ member => absurd member IndexSet.not_mem_empty

end LinearProgram

end RationalSimplex
