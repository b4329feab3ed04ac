import RationalSimplex.Decimal.Basic
import RationalSimplex.Text.Characters

/-!
# Numerals

A number is written as a quotient of two natural numbers, or as a decimal with
an optional exponent.  A sign may stand in front and blanks around the whole.
Digits of every script are read, and single underscores may separate digits.
A rational number is written in lowest terms with its sign in front; an integer
has no denominator.
-/

namespace RationalSimplex

/-! ## Writing -/

/-- The text of a rational number. -/
def fractionText (number : Rat) : String :=
  if number.den = 1 then
    toString number.num
  else
    toString number.num ++ "/" ++ toString number.den

/-- Several numbers behind one another. -/
def fractionTexts (separator : String) (numbers : List Rat) : String :=
  separator.intercalate (numbers.map fractionText)

/-! ## Reading -/

/-- A number as it is written. -/
inductive Numeral where
  | quotient (negative : Bool) (numerator denominator : List Nat)
  | decimal (negative : Bool) (whole fraction : List Nat) (exponent : Int)
deriving DecidableEq

namespace Numeral

/-- The natural number with the given decimal digits, the leading one first. -/
def ofDigits (digits : List Nat) : Nat :=
  digits.foldl (fun number digit => 10 * number + digit) 0

/-- A number with its sign. -/
def signed (negative : Bool) (number : Rat) : Rat :=
  if negative then -number else number

/-- The number that is written; a quotient by zero writes none. -/
def value? : Numeral → Option Rat
  | .quotient negative numerator denominator =>
      if ofDigits denominator = 0 then
        none
      else
        some (signed negative
          ((ofDigits numerator : Rat) / (ofDigits denominator : Rat)))
  | .decimal negative whole fraction exponent =>
      some (signed negative
        (Decimal.value
          ⟨ofDigits (whole ++ fraction), exponent - (fraction.length : Int)⟩))

/-- The digits that continue a number, and the characters after them. -/
def continueDigits : List Char → List Nat × List Char
  | '_' :: character :: rest =>
      match Text.digitValue? character with
      | some digit =>
          let run := continueDigits rest
          (digit :: run.1, run.2)
      | none => ([], '_' :: character :: rest)
  | character :: rest =>
      match Text.digitValue? character with
      | some digit =>
          let run := continueDigits rest
          (digit :: run.1, run.2)
      | none => ([], character :: rest)
  | [] => ([], [])

/-- The digits in front, with single underscores between them, and the
characters after them. -/
def takeDigits : List Char → List Nat × List Char
  | character :: rest =>
      match Text.digitValue? character with
      | some digit =>
          let run := continueDigits rest
          (digit :: run.1, run.2)
      | none => ([], character :: rest)
  | [] => ([], [])

/-- An optional sign and the characters after it; `true` is a minus. -/
def takeSign : List Char → Bool × List Char
  | '-' :: rest => (true, rest)
  | '+' :: rest => (false, rest)
  | rest => (false, rest)

/-- An optional exponent and the characters after it. -/
def takeExponent (characters : List Char) : Option (Int × List Char) :=
  match characters with
  | mark :: rest =>
      if mark = 'e' ∨ mark = 'E' then
        let sign := takeSign rest
        let run := takeDigits sign.2
        if run.1.isEmpty then
          none
        else
          let exponent : Int := ofDigits run.1
          some (if sign.1 then -exponent else exponent, run.2)
      else
        some (0, characters)
  | [] => some (0, [])

/-- Read a number without sign and blanks, up to its end. -/
def ofUnsigned? (negative : Bool) (characters : List Char) : Option Numeral :=
  let whole := takeDigits characters
  match whole.2 with
  | '/' :: rest =>
      let denominator := takeDigits rest
      if whole.1.isEmpty ∨ denominator.1.isEmpty ∨ ¬ denominator.2.isEmpty then
        none
      else
        some (.quotient negative whole.1 denominator.1)
  | '.' :: rest =>
      let fraction := takeDigits rest
      if whole.1.isEmpty ∧ fraction.1.isEmpty then
        none
      else
        match takeExponent fraction.2 with
        | some (exponent, []) =>
            some (.decimal negative whole.1 fraction.1 exponent)
        | _ => none
  | rest =>
      if whole.1.isEmpty then
        none
      else
        match takeExponent rest with
        | some (exponent, []) => some (.decimal negative whole.1 [] exponent)
        | _ => none

/-- Read a number: blanks, a sign, the number and blanks again. -/
def ofText? (characters : List Char) : Option Numeral :=
  let sign := takeSign (Text.trimBlanks characters)
  ofUnsigned? sign.1 sign.2

/-- Read an integer: spaces, a sign, digits and spaces again. -/
def integer? (characters : List Char) : Option Int :=
  let sign := takeSign (Text.trimSpaces characters)
  let digits := takeDigits sign.2
  if digits.1.isEmpty ∨ ¬ digits.2.isEmpty then
    none
  else
    let magnitude : Int := ofDigits digits.1
    some (if sign.1 then -magnitude else magnitude)

end Numeral

end RationalSimplex
