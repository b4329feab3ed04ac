import RationalSimplex.Index
import RationalSimplex.Value.Basic
import RationalSimplex.Vocabulary

/-!
# Faults

Everything that can go wrong is a value that says what was found and what was
wanted.  The faults are grouped by the part of the library that finds them.
-/

namespace RationalSimplex

/-- Faults of numbers, and of texts that should be numbers. -/
inductive NumberFault where
  /-- A fraction was built with the denominator zero. -/
  | zeroDenominator (numerator : Int)
  | dividedByZero (dividend : Rat)
  | zeroInverse
  /-- The argument in the given role has to be an integer. -/
  | notInteger (role : String) (found : Kind)
  | notText (found : Kind)
  | zeroDenominatorIn (text : Value)
  | unreadable (text : Value)
  | notFinite (number : Float)
  /-- A text that should be a double. -/
  | notDouble (text : Value)
  | truthValue
  | unreadableKind (found : Kind)
  /-- The nearest double of a fraction would be infinite. -/
  | tooLarge
  /-- The nearest double of an integer would be infinite. -/
  | integerTooLarge

/-- Faults of operations on values of the wrong kind. -/
inductive OperandFault where
  | unsupported (operator : Operator) (left right : Kind)
  | incomparable (comparison : Comparison) (left right : Kind)
  /-- A sequence can be repeated an integral number of times only. -/
  | repeatedBy (found : Kind)
  /-- A sequence can be joined to a sequence of its own kind only. -/
  | joined (sequence found : Kind)
  | notIterable (found : Kind)
  | noLength (found : Kind)
  | noItems (found : Kind)
  | notReal (found : Kind)
  | missingAttribute (found : Kind) (name : String)
  /-- A random rule starts from an integer. -/
  | notSeed (found : Value)

/-- Faults of arrays, whose axes have to match. -/
inductive ArrayFault where
  | unmatched (left right : List Nat)
  | unassignable (source target : List Nat)
  /-- Lists of different lengths, or lists beside other things, behind some even
  axes. -/
  | uneven (axes : List Nat)
  /-- Only a single truth value decides. -/
  | undecided (count : Nat)
  | notSingle
deriving DecidableEq

/-- The axes of a matrix. -/
inductive Axis where
  | row
  | column
deriving DecidableEq

/-- Positions outside the thing that they point into. -/
inductive IndexFault where
  | coefficient
  | entry
  | assignment
  | beyond (index : Int) (axis : Axis) (size : Nat)
  /-- The position of an element does not fit a word. -/
  | oversized
  /-- The position of a row or column does not fit a word with a sign. -/
  | unsignedWord
  /-- The position of a row or column does not fit any word. -/
  | noWord
deriving DecidableEq

/-- The fault of a position in a list where no element is found; no list reaches
beyond a word. -/
def IndexFault.missing (fault : IndexFault) (position : Int) : IndexFault :=
  if FitsWord position then fault else .oversized

/-- The fault of a position that no row or column can have, whatever the size of
the matrix. -/
def IndexFault.unfit? (position : Int) : Option IndexFault :=
  if FitsWord position then none
  else if FitsUnsigned position then some .unsignedWord
  else some .noWord

/-- Faults of expressions, constraints, polytopes and programs. -/
inductive ModelFault where
  | noTerm
  | shortPoint (coordinates width : Nat)
  | unknownRelation (spelling : Value)
  | notRelation (found : Value)
  | notEquality
  | notPlanar
  | noHalfSpace
  | unevenConstraint (number coefficients width : Nat)
  | nonnegativeOutOfRange (index : Int)
  | noConstraint
  /-- The constraints of a program make no polytope. -/
  | polytope (reason : ModelFault)
  | unevenObjective (coefficients width : Nat)
  | integerOutOfRange (index : Int)
  | verticesOfHigherDimension
  /-- Arrays of doubles have at least one column. -/
  | noColumn

/-- Faults of matrices, tableaux and the pivoting loop. -/
inductive EngineFault where
  | emptyMatrix
  | unevenRows
  | basisSize (count : Nat) (rows : Int)
  | notCanonical
  /-- The pivot rule answered with something that was not offered. -/
  | invalidPivot (answer : List Int)
  | nonzeroArtificial (row : Nat)
deriving DecidableEq

/-- Faults of a configuration. -/
inductive SettingFault where
  | notMapping (path : String)
  | sectionKind (key : String) (found : Kind)
  | pivotRule (name : String)
  | seed (found : Value)
  | negativeSeed
  | sense (word : String)
  | noCoefficients (place : String)
  | coefficientCount (place : String) (found expected : Nat)
  | coefficient (place : String) (found : Value) (reason : NumberFault)
  | constraintsKind (found : Kind)
  | noConstraints
  | constraintKind (number : Nat)
  | noConstant (number : Nat)
  | indexList (name : String) (found : Value)
  | indexItem (name : String) (found : Value)
  | indexTooSmall (name : String) (index : Int)
  | indexTooLarge (name : String) (index : Int) (size : Nat)
  | program (reason : ModelFault)

/-- Faults of trace files. -/
inductive TraceFault where
  | unserialisable (found : Kind)
  | malformed

/-- Any fault. -/
inductive Fault where
  | number (fault : NumberFault)
  | operand (fault : OperandFault)
  | array (fault : ArrayFault)
  | index (fault : IndexFault)
  | model (fault : ModelFault)
  | engine (fault : EngineFault)
  | setting (fault : SettingFault)
  | trace (fault : TraceFault)
  /-- The solver in doubles came to no end, and says why. -/
  | unsolved (message : String)

/-- The sorts of faults that a caller may want to tell apart. -/
inductive FaultKind where
  | divisionByZero
  | zeroDenominator
  | malformedArgument
  | unreadableNumber
  | emptyExpression
  | invalidProgram
  | engineFailure
  | referenceFailure
  | invalidValue
  | invalidJson
  | wrongKind
  | missingAttribute
  | overflow
  | outOfRange
deriving DecidableEq

end RationalSimplex
