import RationalSimplex.Program.Solved
import RationalSimplex.Value.Collections
import RationalSimplex.Value.Elementwise

/-!
# Reference solutions

A solver in doubles takes a program as arrays of doubles: upper bounds, with
lower bounds negated, and equations.  Which one it is stays open.  Its solution
agrees with an exact one when both have the same status and, for an optimum,
values that are close in relation to their size.
-/

namespace RationalSimplex

/-- A program in doubles. -/
structure DoubleProgram where
  objective : List Float
  upperRows : List (List Float)
  upperConstants : List Float
  equalRows : List (List Float)
  equalConstants : List Float

namespace DoubleProgram

/-- The doubles nearest to the numbers, or the fault of the first that is too
large. -/
def doubles (numbers : List Rat) : Except NumberFault (List Float) :=
  numbers.mapM Value.doubleOfRat

/-- Add a constraint at the end. -/
def addConstraint (program : DoubleProgram) (constraint : Constraint) :
    Except NumberFault DoubleProgram := do
  let row ← doubles constraint.expression.coefficients
  let constant ← Value.doubleOfRat constraint.constant
  match constraint.relation with
  | .le => return { program with
      upperRows := program.upperRows ++ [row]
      upperConstants := program.upperConstants ++ [constant] }
  | .ge => return { program with
      upperRows := program.upperRows ++ [row.map fun number => -number]
      upperConstants := program.upperConstants ++ [-constant] }
  | .eq => return { program with
      equalRows := program.equalRows ++ [row]
      equalConstants := program.equalConstants ++ [constant] }

/-- The program in doubles: its constraints in order, then its objective.  It
needs a variable. -/
def ofProgram (program : LinearProgram) : Except Fault DoubleProgram := do
  let rows ←
    (program.constraints.foldlM addConstraint ⟨[], [], [], [], []⟩).mapError
      .number
  if program.width = 0 then
    throw (.model .noColumn)
  let objective ←
    (doubles program.objective.expression.coefficients).mapError .number
  return { rows with objective := objective }

end DoubleProgram

/-- What a solver in doubles answers: a code for its status, a message, and a
point, which counts for an optimum. -/
structure DoubleAnswer where
  code : Int
  message : String
  point : List Float

/-- A solver in doubles. -/
structure DoubleSolver where
  /-- Minimise the objective of a program whose listed variables, each marked
  in its place, may not be negative. -/
  minimize : DoubleProgram → List Bool → DoubleAnswer
  /-- The sum of the products of two lists, added up in an order of its own. -/
  dot : List Float → List Float → Float

/-- The status of a solve in doubles, and its objective value, which is a double
for an optimum. -/
structure Reference where
  status : Value
  objective : Value

namespace Reference

/-- The status that a code stands for, where the solve came to an end. -/
def statusOfCode? : Int → Option Status
  | 0 => some .optimal
  | 2 => some .infeasible
  | 3 => some .unbounded
  | _ => none

/-- The reference solution of a program: a maximum is found as the minimum of
the negated objective. -/
def ofProgram (solver : DoubleSolver) (program : LinearProgram) :
    Except Fault Reference := do
  let arrays ← DoubleProgram.ofProgram program
  let sense : Float := if program.objective.maximize then -1.0 else 1.0
  let signed := { arrays with objective := arrays.objective.map (sense * ·) }
  let nonnegative := (List.range program.width).map fun index =>
    decide (index ∈ program.polytope.nonnegative)
  let answer := solver.minimize signed nonnegative
  match statusOfCode? answer.code with
  | none => throw (.unsolved answer.message)
  | some .optimal =>
      return ⟨.text Status.optimal.word,
        .double (solver.dot arrays.objective answer.point)⟩
  | some status => return ⟨.text status.word, .null⟩

/-- How far two values may be apart in relation to their size. -/
def defaultTolerance : Value := .double 1e-7

/-- The difference between an objective value, which has to be a real number,
and a double. -/
def difference (objective : Value) (number : Float) : Except Fault Float :=
  match objective with
  | .double _ | .integer _ | .boolean _ => do
      let own ← objective.toDouble
      return own - number
  | other => .error (.operand (Value.refusal .subtract other (.double number)))

/-- The size of an objective value, at least one; an integer stays an
integer. -/
def atLeastOne (objective : Value) : Value :=
  match objective with
  | .double number =>
      if 1.0 < number.abs then .double number.abs else .double 1.0
  | .integer number =>
      if 1 < number.natAbs then .integer number.natAbs else .double 1.0
  | _ => .double 1.0

/-- A size times a tolerance.  Doubles make the product a double; integers and
fractions multiply integers exactly, and a sequence is repeated. -/
def allowance (tolerance size : Value) : Except Fault Value :=
  match tolerance, size with
  | .double first, second => do
      let second ← second.toDouble
      return .double (first * second)
  | .integer _, .double second | .boolean _, .double second => do
      let first ← tolerance.toDouble
      return .double (first * second)
  | .integer first, .integer second => .ok (.integer (first * second))
  | .boolean truth, .integer second =>
      .ok (.integer (if truth then second else 0))
  | .fraction first, .integer second => .ok (.fraction (first * (second : Rat)))
  | .text characters, .integer _ => .ok (.text characters)
  | .status result, .integer _ => .ok (.text result.word)
  | .list items, .integer _ => .ok (.list items)
  | .tuple items, .integer _ => .ok (.tuple items)
  | first, second => .error (.operand (Value.refusal .multiply first second))

/-- Whether a double is not greater than an integer. -/
def isAtMost (number : Float) (bound : Int) : Bool :=
  match readDouble number with
  | .notANumber => false
  | .infinite negative => negative
  | .finite negative magnitude =>
      decide (Numeral.signed negative magnitude.value ≤ (bound : Rat))

/-- Whether a distance keeps within an allowance, which has to be a real
number. -/
def isWithin (distance : Float) (allowed : Value) : Except Fault Bool :=
  match allowed with
  | .double bound => .ok (decide (distance ≤ bound))
  | .integer bound => .ok (isAtMost distance bound)
  | other => .error (.operand (.incomparable .lessOrEqual .double other.kind))

/-- Which entries of an objective value are close enough to a value.  An array
of several entries has no size. -/
def closeEntries (objective value tolerance : Value) :
    Except Fault (Grid Bool) := do
  let number ← value.toDouble
  let distances ← objective.entriesOf.mapM fun own => difference own number
  let sizes ← match objective.entriesOf.entries with
    | [_] => .ok (objective.entriesOf.map atLeastOne)
    | entries => .error (.array (.undecided entries.length))
  let allowances ← tolerance.entriesOf.combine allowance sizes
  distances.combine (fun distance allowed => isWithin distance.abs allowed)
    allowances

/-- Whether the reference agrees with a status and a value, for every entry
where these are arrays. -/
def agrees (reference : Reference) (status value tolerance : Value) :
    Except Fault (Grid Bool) :=
  if !reference.status.isSameMember status then
    .ok (.single false)
  else if !status.isSameMember (.text Status.optimal.word) then
    .ok (.single true)
  else
    closeEntries reference.objective value tolerance

end Reference

end RationalSimplex
