import RationalSimplex.Decimal.Conversion
import RationalSimplex.Fault.Basic
import RationalSimplex.Numeral
import RationalSimplex.Text.LowerCase
import RationalSimplex.Value.Text

/-!
# Numbers among the values

Integers, fractions, texts and finite doubles are read as exact rational
numbers.  A double stands for its shortest decimal, which is what was written
when it was entered.  Operands of exact arithmetic are integers and fractions
only.
-/

namespace RationalSimplex.Value

/-- Read a text as a fraction; `source` is the value that a fault shows. -/
def ratOfText (source : Value) (text : String) : Except NumberFault Rat :=
  match Numeral.ofText? text.toList with
  | none => .error (.unreadable source)
  | some numeral =>
      match numeral.value? with
      | none => .error (.zeroDenominatorIn source)
      | some number => .ok number

/-- Read a value that has to be a text as a fraction. -/
def readRat (source : Value) : Except NumberFault Rat :=
  match source with
  | .text characters => ratOfText source characters
  | .status result => ratOfText source result.word
  | other => .error (.notText other.kind)

/-- The exact number of a double. -/
def ratOfDouble (number : Float) : Except NumberFault Rat :=
  match readDouble number with
  | .finite negative magnitude =>
      .ok (Numeral.signed negative magnitude.shortest.value)
  | _ => .error (.notFinite number)

/-- The exact number of a value. -/
def toRat (source : Value) : Except NumberFault Rat :=
  match source with
  | .fraction number => .ok number
  | .integer number => .ok (number : Rat)
  | .double number => ratOfDouble number
  | .text characters => ratOfText source characters
  | .status result => ratOfText source result.word
  | .boolean _ => .error .truthValue
  | .entry .double _ => ratOfText (.text source.shown) source.shown
  | other => .error (.unreadableKind other.kind)

/-- The exact numbers of all values, or the first fault. -/
def toRats (sources : List Value) : Except NumberFault (List Rat) :=
  sources.mapM toRat

/-- An argument that has to be an integer. -/
def asInteger (role : String) : Value → Except NumberFault Int
  | .integer number => .ok number
  | other => .error (.notInteger role other.kind)

/-- An argument that has to be an operand of exact arithmetic. -/
def asRat : Value → Except NumberFault Rat
  | .fraction number => .ok number
  | .integer number => .ok (number : Rat)
  | other => .error (.notInteger "value" other.kind)

/-- A value as it takes part in operations, where an entry of an array stands
for its number. -/
def bare : Value → Value
  | .entry storage number =>
      match storage, nearestDouble? (number : Rat) with
      | .double, some nearest => .double nearest
      | _, _ => .integer number
  | other => other

/-- The number of an operand of exact arithmetic. -/
def operand? : Value → Option Rat
  | .fraction number => some number
  | .integer number => some (number : Rat)
  | _ => none

/-- The double nearest to a fraction. -/
def doubleOfRat (number : Rat) : Except NumberFault Float :=
  match nearestDouble? number with
  | some nearest => .ok nearest
  | none => .error .tooLarge

/-- The double that a text writes: a decimal, or a word for a double that is not
finite. -/
def doubleOfText? (text : String) : Option Float :=
  let sign := Numeral.takeSign (Text.trimSpaces text.toList)
  let signed (number : Float) : Float := if sign.1 then -number else number
  let word := Text.lowerCase (String.ofList sign.2)
  if word = "inf" ∨ word = "infinity" then
    some (signed (1.0 / 0.0))
  else if word = "nan" then
    some (0.0 / 0.0)
  else
    match Numeral.ofUnsigned? sign.1 sign.2 with
    | some (.decimal _ whole places exponent) =>
        some (signed (Decimal.nearestDouble
          ⟨Numeral.ofDigits (whole ++ places),
            exponent - (places.length : Int)⟩))
    | _ => none

/-- The double nearest to an integer. -/
def doubleOfInteger (number : Int) : Except Fault Float :=
  match nearestDouble? (number : Rat) with
  | some nearest => .ok nearest
  | none => .error (.number .integerTooLarge)

/-- The double nearest to a number. -/
def toDouble (source : Value) : Except Fault Float :=
  match source with
  | .double number => .ok number
  | .fraction number => (doubleOfRat number).mapError .number
  | .integer number => doubleOfInteger number
  | .boolean truth => .ok (if truth then 1.0 else 0.0)
  | .text characters =>
      match doubleOfText? characters with
      | some number => .ok number
      | none => .error (.number (.notDouble source))
  | .status _ => .error (.number (.notDouble source))
  | .array _ _ => .error (.array .notSingle)
  | .entry _ number => doubleOfInteger number
  | other => .error (.operand (.notReal other.kind))

end RationalSimplex.Value
