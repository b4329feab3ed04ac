import RationalSimplex.Linear.Polytope
import RationalSimplex.Value.Elementwise

/-!
# Points given by values

A point may be any value with members.  Its coordinates are multiplied as they
are, so that they have to be integers or fractions; where they are arrays, the
values at a point are arrays as well.  For rational coordinates everything is
decided by the expression, constraint or polytope itself.
-/

namespace RationalSimplex

/-- The members of a value that has to have a length. -/
def Value.coordinates (point : Value) : Except Fault (List Value) :=
  match point.members? with
  | some members => .ok members
  | none => .error (.operand (.noLength point.kind))

namespace Expression

/-- The sum of the products of coefficients and coordinates. -/
def sumTerms (coefficients : List Rat) (coordinates : List Value) :
    Except Fault (Grid Rat) :=
  (coefficients.zip coordinates).foldlM
    (fun total term => do
      let product ← Value.calculateAll .multiply (.fraction term.1) term.2
      total.combine (fun left right => .ok (left + right)) product)
    (.single 0)

/-- The value at a point, which needs a coordinate for every variable and may
have more. -/
def evaluateAt (expression : Expression) (point : Value) :
    Except Fault (Grid Rat) := do
  let coordinates ← point.coordinates
  match (coordinates.take expression.width).mapM Value.operand? with
  | some numbers =>
      let value ← expression.evaluate numbers
      return .single value
  | none =>
      if coordinates.length < expression.width then
        throw (.model (.shortPoint coordinates.length expression.width))
      sumTerms expression.coefficients coordinates

end Expression

namespace Constraint

/-- Whether a point satisfies the constraint. -/
def satisfiedAt (constraint : Constraint) (point : Value) :
    Except Fault (Grid Bool) := do
  let value ← constraint.expression.evaluateAt point
  return value.map fun number =>
    decide (constraint.relation.Holds number constraint.constant)

end Constraint

namespace Polytope

/-- Whether the coordinate at an index is not negative. -/
def admitsSign (point : Value) (coordinates : List Value) (index : Nat) :
    Except Fault Bool :=
  match point, coordinates[index]? with
  | .set _, _ => .error (.operand (.noItems .set))
  | _, none => .error (.index .coefficient)
  | _, some coordinate =>
      match coordinate.asRat with
      | .ok number => .ok (decide (0 ≤ number))
      | .error fault => .error (.number fault)

/-- Whether a point with coordinates that are not all rational lies in the
polytope. -/
def containsEntries (polytope : Polytope) (point : Value) :
    Except Fault Bool := do
  let coordinates ← point.coordinates
  let satisfied ← polytope.constraints.allM fun constraint => do
    let satisfied ← constraint.satisfiedAt point
    satisfied.truth
  if satisfied then
    polytope.nonnegative.toList.allM (admitsSign point coordinates)
  else
    return false

/-- Whether a point, which needs enough coordinates, lies in the polytope. -/
def containsAt (polytope : Polytope) (point : Value) : Except Fault Bool :=
  match point with
  | .list items =>
      match (items.take polytope.dimension).mapM Value.operand? with
      | some numbers => polytope.contains numbers
      | none => polytope.containsEntries point
  | _ => polytope.containsEntries point

end Polytope

end RationalSimplex
