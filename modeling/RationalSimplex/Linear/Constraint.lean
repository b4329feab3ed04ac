import RationalSimplex.Linear.Expression
import RationalSimplex.Text.Characters
import RationalSimplex.Text.LowerCase
import RationalSimplex.Value.Text

/-!
# Constraints

A constraint relates a linear expression to a constant.
-/

namespace RationalSimplex

/-- Read a relation from the plain text of a value, without regard to blanks
around it and capitals. -/
def Relation.read (source : Value) : Except Fault Relation :=
  match ofSpelling? (Text.lowerCase (Text.trim source.plainText)) with
  | some relation => .ok relation
  | none => .error (.model (.unknownRelation source))

/-- A linear expression and a constant in a relation. -/
structure Constraint where
  expression : Expression
  relation : Relation
  constant : Rat
deriving DecidableEq

namespace Constraint

/-- A constraint whose constant and relation are values; a relation is not read
from text here. -/
def ofValues (expression : Expression) (relation constant : Value) :
    Except Fault Constraint := do
  let number ← constant.toRat.mapError .number
  match relation with
  | .relation sign => return ⟨expression, sign, number⟩
  | other => throw (.model (.notRelation other))

/-- A constraint as it is entered: a relation written as text is read before
anything else. -/
def enter (coefficients relation constant : Value) :
    Except Fault Constraint := do
  let relation ←
    match relation with
    | .text _ | .status _ => (Relation.read relation).map Value.relation
    | other => pure other
  let expression ← Expression.ofValue coefficients
  ofValues expression relation constant

/-- The number of variables. -/
def width (constraint : Constraint) : Nat :=
  constraint.expression.width

/-- Both sides negated and the relation turned round. -/
def negated (constraint : Constraint) : Constraint :=
  ⟨constraint.expression.negated, constraint.relation.flipped,
    -constraint.constant⟩

/-- The constraint with the other inequality sign; an equation stays as it
is. -/
def reversed (constraint : Constraint) : Constraint :=
  if constraint.relation = .eq then constraint else constraint.negated

/-- The two inequalities that make up an equation. -/
def halves (constraint : Constraint) : Constraint × Constraint :=
  (⟨constraint.expression, .le, constraint.constant⟩,
    ⟨constraint.expression.negated, .le, -constraint.constant⟩)

/-- Split an equation into two inequalities. -/
def inequalities (constraint : Constraint) :
    Except Fault (Constraint × Constraint) :=
  if constraint.relation = .eq then
    .ok constraint.halves
  else
    .error (.model .notEquality)

/-- Split the listed variables. -/
def splitVariables (constraint : Constraint) (indices : List Nat) :
    Constraint :=
  ⟨constraint.expression.splitVariables indices, constraint.relation,
    constraint.constant⟩

/-- Split the variable at a position. -/
def splitVariable (constraint : Constraint) (position : Int) :
    Except Fault Constraint :=
  match constraint.expression.splitVariable position with
  | .ok expression => .ok ⟨expression, constraint.relation, constraint.constant⟩
  | .error fault => .error fault

/-- The point satisfies the constraint. -/
def SatisfiedBy (constraint : Constraint) (point : List Rat) : Prop :=
  constraint.relation.Holds
    (dot constraint.expression.coefficients point) constraint.constant

instance (constraint : Constraint) (point : List Rat) :
    Decidable (constraint.SatisfiedBy point) := by
  unfold SatisfiedBy
  infer_instance

/-- Whether a point, which needs enough coordinates, satisfies the
constraint. -/
def satisfied (constraint : Constraint) (point : List Rat) :
    Except Fault Bool :=
  match constraint.expression.evaluate point with
  | .ok value =>
      .ok (decide (constraint.relation.Holds value constraint.constant))
  | .error fault => .error fault

/-- The point where the boundary lines of two constraints in the plane cross, if
they do. -/
def crossingPoint? (first second : Constraint) : Option (Rat × Rat) :=
  match first.expression.coefficients, second.expression.coefficients with
  | [a, b], [c, d] =>
      let determinant := a * d - b * c
      if determinant = 0 then
        none
      else
        some ((first.constant * d - b * second.constant) / determinant,
          (a * second.constant - first.constant * c) / determinant)
  | _, _ => none

/-- The crossing point of two constraints, which have to be in two variables. -/
def crossing (first second : Constraint) : Except Fault (Option (Rat × Rat)) :=
  if first.width = 2 ∧ second.width = 2 then
    .ok (first.crossingPoint? second)
  else
    .error (.model .notPlanar)

/-- The text of the constraint. -/
def text (constraint : Constraint) : String :=
  constraint.expression.text ++ " " ++ constraint.relation.symbol ++ " " ++
    fractionText constraint.constant

end Constraint

end RationalSimplex
