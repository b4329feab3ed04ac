import RationalSimplex.Value.Number

/-!
# Exact arithmetic

Arithmetic on rational numbers with its faults, and the operators and
comparisons between values of any kind.  Only integers and fractions take part;
anything else is refused by kind, and equal to no number.
-/

namespace RationalSimplex

/-- The fraction of two arguments, which have to be integers. -/
def makeFraction (numerator denominator : Value) : Except NumberFault Rat := do
  let above ← numerator.asInteger "numerator"
  let below ← denominator.asInteger "denominator"
  if below = 0 then
    throw (.zeroDenominator above)
  return (above : Rat) / (below : Rat)

/-- The quotient, for a divisor that is not zero. -/
def divide (dividend divisor : Rat) : Except NumberFault Rat :=
  if divisor = 0 then
    .error (.dividedByZero dividend)
  else
    .ok (dividend / divisor)

/-- The inverse of a number that is not zero. -/
def invert (number : Rat) : Except NumberFault Rat :=
  if number = 0 then .error .zeroInverse else .ok (1 / number)

/-- A natural power, by squaring. -/
def naturalPower (base : Rat) (exponent : Nat) : Rat :=
  if exponent = 0 then
    1
  else
    let half := naturalPower base (exponent / 2)
    if exponent % 2 = 0 then half * half else half * half * base

/-- An integer power; zero has no negative powers. -/
def power (number : Rat) (exponent : Int) : Except NumberFault Rat :=
  if number = 0 ∧ exponent < 0 then
    .error .zeroInverse
  else
    match exponent with
    | .ofNat steps => .ok (naturalPower number steps)
    | .negSucc steps => .ok (1 / naturalPower number (steps + 1))

/-- The sign of a number: one, zero or minus one. -/
def signOf (number : Rat) : Int :=
  if 0 < number then 1 else if number < 0 then -1 else 0

namespace Value

/-- The kind of a sequence, which can be joined and repeated. -/
def sequenceKind? : Value → Option Kind
  | .text _ | .status _ => some .text
  | .list _ => some .list
  | .tuple _ => some .tuple
  | _ => none

/-- Why an operation refuses its operands. -/
def refusal (operator : Operator) (left right : Value) : OperandFault :=
  match operator, left.sequenceKind?, right.sequenceKind? with
  | .multiply, some _, _ => .repeatedBy right.kind
  | .multiply, none, some _ => .repeatedBy left.kind
  | .add, some sequence, _ => .joined sequence right.kind
  | _, _, _ => .unsupported operator left.kind right.kind

/-- An operation between two values, one of which is a fraction.  Only a
fraction has powers, and only integral ones. -/
def calculate (operator : Operator) (left right : Value) : Except Fault Rat :=
  match operator, left, right with
  | .power, .fraction base, .integer exponent =>
      (power base exponent).mapError .number
  | .power, _, _ => .error (.operand (refusal .power left right))
  | _, _, _ =>
      match left.operand?, right.operand? with
      | some first, some second =>
          match operator with
          | .add => .ok (first + second)
          | .subtract => .ok (first - second)
          | .multiply => .ok (first * second)
          | _ => (divide first second).mapError .number
      | _, _ => .error (.operand (refusal operator left right))

/-- A comparison of order between two values. -/
def compare (comparison : Comparison) (left right : Value) :
    Except Fault Bool :=
  match left.operand?, right.operand? with
  | some first, some second => .ok (decide (comparison.Holds first second))
  | _, _ => .error (.operand (.incomparable comparison left.kind right.kind))

/-- Whether the value is an operand with the given number. -/
def equalsNumber (source : Value) (number : Rat) : Bool :=
  source.operand? = some number

end Value

end RationalSimplex
