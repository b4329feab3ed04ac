import RationalSimplex.Fault.Basic
import RationalSimplex.Value.Text

/-!
# Messages of faults

The message, the kind and the underlying cause of every fault.
-/

namespace RationalSimplex

namespace NumberFault

/-- The message of a number fault. -/
def message : NumberFault → String
  | .zeroDenominator numerator =>
      "fraction " ++ toString numerator ++ "/0 has a zero denominator"
  | .dividedByZero dividend =>
      "cannot divide " ++ fractionText dividend ++ " by zero"
  | .zeroInverse => "zero has no inverse"
  | .notInteger role found => role ++ " must be an int, got " ++ found.word
  | .notText found => "expected a string, got " ++ found.word
  | .zeroDenominatorIn text => "zero denominator in " ++ text.shown
  | .unreadable text => "not a fraction: " ++ text.shown
  | .notFinite number => "not a finite number: " ++ (Value.double number).shown
  | .notDouble text => "could not convert string to float: " ++ text.shown
  | .truthValue => "booleans are not numbers here"
  | .unreadableKind found => "cannot read " ++ found.word ++ " as a fraction"
  | .tooLarge => "integer division result too large for a float"
  | .integerTooLarge => "int too large to convert to float"

/-- The kind of a number fault. -/
def kind : NumberFault → FaultKind
  | .zeroDenominator _ | .dividedByZero _ | .zeroInverse => .divisionByZero
  | .notInteger _ _ | .notText _ | .truthValue | .unreadableKind _ =>
      .malformedArgument
  | .zeroDenominatorIn _ | .unreadable _ | .notFinite _ => .unreadableNumber
  | .notDouble _ => .invalidValue
  | .tooLarge | .integerTooLarge => .overflow

/-- The kind of the fault that caused a number fault. -/
def cause? : NumberFault → Option FaultKind
  | .zeroDenominator _ => some .zeroDenominator
  | .zeroDenominatorIn _ => some .divisionByZero
  | .unreadable _ => some .invalidValue
  | _ => none

end NumberFault

namespace OperandFault

/-- The message of an operand fault. -/
def message : OperandFault → String
  | .unsupported operator left right =>
      "unsupported operand type(s) for " ++ operator.symbol ++ ": '" ++
        left.fullWord ++ "' and '" ++ right.fullWord ++ "'"
  | .incomparable comparison left right =>
      "'" ++ comparison.symbol ++ "' not supported between instances of '" ++
        left.fullWord ++ "' and '" ++ right.fullWord ++ "'"
  | .repeatedBy found =>
      "can't multiply sequence by non-int of type '" ++ found.fullWord ++ "'"
  | .joined sequence found =>
      "can only concatenate " ++ sequence.word ++ " (not \"" ++
        found.fullWord ++ "\") to " ++ sequence.word
  | .notIterable found => "'" ++ found.fullWord ++ "' object is not iterable"
  | .noLength found => "object of type '" ++ found.fullWord ++ "' has no len()"
  | .noItems found => "'" ++ found.fullWord ++ "' object is not subscriptable"
  | .notReal found =>
      "float() argument must be a string or a real number, not '" ++
        found.fullWord ++ "'"
  | .missingAttribute found name =>
      "'" ++ found.fullWord ++ "' object has no attribute '" ++ name ++ "'"
  | .notSeed found =>
      "SeedSequence expects int or sequence of ints for entropy not " ++
        found.plainText

/-- The kind of an operand fault. -/
def kind : OperandFault → FaultKind
  | .missingAttribute _ _ => .missingAttribute
  | _ => .wrongKind

end OperandFault

namespace ArrayFault

/-- The lengths of axes in a row. -/
def axesText (axes : List Nat) : String :=
  match axes with
  | [size] => "(" ++ toString size ++ ",)"
  | axes => "(" ++ ",".intercalate (axes.map toString) ++ ")"

/-- The message of an array fault. -/
def message : ArrayFault → String
  | .unmatched left right =>
      "operands could not be broadcast together with shapes " ++
        axesText left ++ " " ++ axesText right ++ " "
  | .unassignable source target =>
      "could not broadcast input array from shape " ++ axesText source ++
        " into shape " ++ axesText target
  | .uneven axes =>
      "setting an array element with a sequence. The requested array has an " ++
        "inhomogeneous shape after " ++ toString axes.length ++
        " dimensions. The detected shape was " ++
        (Value.tuple (axes.map fun (size : Nat) => .integer size)).shown ++
        " + inhomogeneous part."
  | .undecided 0 =>
      "The truth value of an empty array is ambiguous. Use `array.size > 0` " ++
        "to check that an array is not empty."
  | .undecided _ =>
      "The truth value of an array with more than one element is ambiguous. " ++
        "Use a.any() or a.all()"
  | .notSingle => "only 0-dimensional arrays can be converted to Python scalars"

/-- The kind of an array fault. -/
def kind : ArrayFault → FaultKind
  | .notSingle => .wrongKind
  | _ => .invalidValue

end ArrayFault

/-- The number of an axis. -/
def Axis.number : Axis → Nat
  | .row => 0
  | .column => 1

/-- The message of an index fault. -/
def IndexFault.message : IndexFault → String
  | .coefficient => "tuple index out of range"
  | .entry => "list index out of range"
  | .assignment => "list assignment index out of range"
  | .beyond index axis size =>
      "index " ++ toString index ++ " is out of bounds for axis " ++
        toString axis.number ++ " with size " ++ toString size
  | .oversized => "cannot fit 'int' into an index-sized integer"
  | .unsignedWord => "Python int too large to convert to C long"
  | .noWord =>
      "only integers, slices (`:`), ellipsis (`...`), numpy.newaxis " ++
        "(`None`) and integer or boolean arrays are valid indices"

/-- The kind of an index fault. -/
def IndexFault.kind : IndexFault → FaultKind
  | .unsignedWord => .overflow
  | _ => .outOfRange

namespace ModelFault

/-- The message of a model fault. -/
def message : ModelFault → String
  | .noTerm => "expression has no nonzero coefficient"
  | .shortPoint coordinates width =>
      "point has " ++ toString coordinates ++
        " coordinates, expression needs " ++ toString width
  | .unknownRelation spelling => "unknown relation: " ++ spelling.shown
  | .notRelation found => "relation must be a Relation, got " ++ found.shown
  | .notEquality => "only equality constraints can be split"
  | .notPlanar => "intersection is defined for two-variable constraints only"
  | .noHalfSpace => "a polytope needs at least one constraint"
  | .unevenConstraint number coefficients width =>
      "constraint " ++ toString number ++ " has " ++ toString coefficients ++
        " coefficients, expected " ++ toString width
  | .nonnegativeOutOfRange index =>
      "nonnegative variable index " ++ toString index ++ " out of range"
  | .noConstraint => "a problem needs at least one constraint"
  | .polytope reason => reason.message
  | .unevenObjective coefficients width =>
      "objective has " ++ toString coefficients ++
        " coefficients but constraints have " ++ toString width
  | .integerOutOfRange index =>
      "integer variable index " ++ toString index ++ " out of range"
  | .verticesOfHigherDimension =>
      "vertex enumeration is implemented for two variables only"
  | .noColumn => "cannot reshape array of size 0 into shape (0)"

/-- The kind of a model fault. -/
def kind : ModelFault → FaultKind
  | .noTerm => .emptyExpression
  | .notRelation _ => .malformedArgument
  | .noConstraint | .polytope _ | .unevenObjective _ _ | .integerOutOfRange _ =>
      .invalidProgram
  | _ => .invalidValue

/-- The kind of the fault that caused a model fault. -/
def cause? : ModelFault → Option FaultKind
  | .polytope _ => some .invalidValue
  | _ => none

end ModelFault

namespace EngineFault

/-- The message of an engine fault. -/
def message : EngineFault → String
  | .emptyMatrix => "matrix must have at least one row and one column"
  | .unevenRows => "all matrix rows must have the same length"
  | .basisSize count rows =>
      toString count ++ " basic variables for " ++ toString rows ++
        " constraint rows"
  | .notCanonical => "the simplex table is built from a canonical-form problem"
  | .invalidPivot answer =>
      "pivot chooser returned " ++ (Value.tuple (answer.map .integer)).shown ++
        ", which is not a valid pivot"
  | .nonzeroArtificial row =>
      "artificial variable in row " ++ toString row ++
        " is basic at a nonzero level"

/-- The kind of an engine fault. -/
def kind : EngineFault → FaultKind
  | .invalidPivot _ | .nonzeroArtificial _ => .engineFailure
  | _ => .invalidValue

end EngineFault

namespace SettingFault

/-- The message of a setting fault. -/
def message : SettingFault → String
  | .notMapping path => "configuration must be a mapping: " ++ path
  | .sectionKind key found => key ++ " must be a mapping, got " ++ found.word
  | .pivotRule name => "unsupported pivot rule: " ++ name
  | .seed found => "solver seed must be an integer, got " ++ found.shown
  | .negativeSeed => "expected non-negative integer"
  | .sense word =>
      "objective sense must be 'max' or 'min', got " ++ Text.quoted word
  | .noCoefficients place => place ++ " must be a nonempty list of coefficients"
  | .coefficientCount place found expected =>
      place ++ " has " ++ toString found ++ " coefficients, expected " ++
        toString expected
  | .coefficient place found _ =>
      "wrong coefficient " ++ place ++ ": " ++ found.shown
  | .constraintsKind found => "constraints must be a list, got " ++ found.word
  | .noConstraints => "at least one constraint is required"
  | .constraintKind number =>
      "constraint " ++ toString number ++ " must be a mapping"
  | .noConstant number => "constraint " ++ toString number ++ " has no rhs"
  | .indexList name found =>
      name ++ " must be a list of indices or \"all\", got " ++ found.shown
  | .indexItem name found =>
      "error in the " ++ name ++ " list: " ++ found.shown ++
        " is not an integer"
  | .indexTooSmall name index =>
      name ++ " index " ++ toString index ++ " is less than 1"
  | .indexTooLarge name index size =>
      name ++ " index " ++ toString index ++
        " is bigger than the number of variables (" ++ toString size ++ ")"
  | .program reason => reason.message

/-- The kind of the fault that caused a setting fault. -/
def cause? : SettingFault → Option FaultKind
  | .coefficient _ _ reason => some reason.kind
  | .program reason => some reason.kind
  | _ => none

end SettingFault

/-- The message of a trace fault. -/
def TraceFault.message : TraceFault → String
  | .unserialisable found =>
      "object of type <class '" ++ found.word ++ "'> is not JSON serializable"
  | .malformed => "the text is not a JSON document"

/-- The kind of a trace fault. -/
def TraceFault.kind : TraceFault → FaultKind
  | .unserialisable _ => .wrongKind
  | .malformed => .invalidJson

namespace Fault

/-- The message of a fault. -/
def message : Fault → String
  | .number fault => fault.message
  | .operand fault => fault.message
  | .array fault => fault.message
  | .index fault => fault.message
  | .model fault => fault.message
  | .engine fault => fault.message
  | .setting fault => fault.message
  | .trace fault => fault.message
  | .unsolved message => message

/-- The kind of a fault; whatever is wrong with a configuration is an invalid
value. -/
def kind : Fault → FaultKind
  | .number fault => fault.kind
  | .operand fault => fault.kind
  | .array fault => fault.kind
  | .index fault => fault.kind
  | .model fault => fault.kind
  | .engine fault => fault.kind
  | .setting _ => .invalidValue
  | .trace fault => fault.kind
  | .unsolved _ => .referenceFailure

/-- The kind of the fault that caused a fault, where another one did. -/
def cause? : Fault → Option FaultKind
  | .number fault => fault.cause?
  | .model fault => fault.cause?
  | .setting fault => fault.cause?
  | _ => none

end Fault

end RationalSimplex
