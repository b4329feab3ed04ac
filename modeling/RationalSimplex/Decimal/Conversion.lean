import RationalSimplex.Decimal.Basic

/-!
# Decimals of doubles and doubles of decimals

The shortest decimal of a double is the one with the fewest digits that reads
back as the double; of two such decimals the nearer one, and of two equally near
ones the one with the even last digit.  For one digit, then two and so on, the
two neighbours of the exact value on the grid of that many digits are tested
against the interval of the double.

A rational number is rounded to the nearest double; half-way cases go to the
even significand.  Below the least normal number the spacing stays the same, so
that small numbers become subnormal or zero.

A double is written with its shortest digits.  Numbers whose leading digit
stands between the fourth place after the point and the sixteenth before it are
written with a point and at least one digit after it; all others with an
exponent of at least two digits.
-/

namespace RationalSimplex

/-! ## Shortest decimals -/

namespace Binary

/-- The place before the leading digit: a positive number is less than ten to
this power, and not less than a tenth of that. -/
def leadingPlace (number : Rat) : Int :=
  let estimate : Int :=
    (digitCount number.num.natAbs : Int) - (digitCount number.den : Int)
  if number < integerPower 10 estimate then estimate else estimate + 1

/-- The multiple of ten to the `place` that lies nearest to the magnitude in its
interval. -/
def nearestOn? (magnitude : Binary) (place : Int) : Option Nat :=
  let scaled := magnitude.value / integerPower 10 place
  let below := scaled.floor.toNat
  let fits (digits : Nat) : Bool :=
    decide (magnitude.Owns (Decimal.value ⟨digits, place⟩))
  if fits below then
    if fits (below + 1) then
      let remainder := scaled - (below : Rat)
      if remainder < 1 / 2 then some below
      else if 1 / 2 < remainder then some (below + 1)
      else if below % 2 = 0 then some below
      else some (below + 1)
    else
      some below
  else if fits (below + 1) then
    some (below + 1)
  else
    none

/-- The shortest decimal that reads back as the magnitude; seventeen digits
always do. -/
def shortest (magnitude : Binary) : Decimal :=
  if magnitude.significand = 0 then
    ⟨0, 0⟩
  else
    let leading := leadingPlace magnitude.value
    let found := (List.range 17).findSome? fun shorter =>
      let place := leading - (shorter + 1 : Nat)
      (magnitude.nearestOn? place).map fun digits =>
        Decimal.stripZeros 17 ⟨digits, place⟩
    found.getD ⟨0, 0⟩

end Binary

/-! ## Nearest doubles -/

/-- The nearest natural number; half-way cases go to the even one. -/
def roundHalfEven (number : Rat) : Nat :=
  let below := number.floor.toNat
  let remainder := number - (below : Rat)
  if remainder < 1 / 2 then below
  else if 1 / 2 < remainder then below + 1
  else if below % 2 = 0 then below
  else below + 1

/-- The exponent of the last place of the doubles around a positive number. -/
def lastPlace (number : Rat) : Int :=
  let estimate : Int :=
    (Nat.log2 number.num.natAbs : Int) - (Nat.log2 number.den : Int)
  let leading :=
    if number < integerPower 2 estimate then estimate - 1 else estimate
  max (leading - 52) (-1074)

/-- The bits of the double nearest to a nonnegative number, if that double is
finite. -/
def magnitudeBits? (number : Rat) : Option Nat :=
  if number = 0 then
    some 0
  else
    let place := lastPlace number
    let significand := roundHalfEven (number / integerPower 2 place)
    let bits := (place + 1074).toNat * 0x10000000000000 + significand
    if bits < 0x7FF0000000000000 then some bits else none

/-- The double nearest to a rational number, unless it would be infinite. -/
def nearestDouble? (number : Rat) : Option Float :=
  if number < 0 then
    (magnitudeBits? (-number)).map fun bits =>
      Float.ofBits (0x8000000000000000 + bits).toUInt64
  else
    (magnitudeBits? number).map fun bits => Float.ofBits bits.toUInt64

/-- The double nearest to a decimal, infinite where no finite double is near.
Decimals far outside the range of the doubles are decided by the place of their
leading digit. -/
def Decimal.nearestDouble (decimal : Decimal) : Float :=
  let leading : Int := decimal.exponent + (digitCount decimal.digits : Int)
  if decimal.digits = 0 ∨ leading < -400 then
    0.0
  else if 400 < leading then
    1.0 / 0.0
  else
    (nearestDouble? decimal.value).getD (1.0 / 0.0)

/-! ## Texts of doubles -/

/-- The words for the doubles that are not finite. -/
structure DoubleWords where
  notANumber : String
  infinity : String

namespace Decimal

/-- An exponent with its sign and at least two digits. -/
def exponentText (exponent : Int) : String :=
  let magnitude := toString exponent.natAbs
  let padded := if magnitude.length < 2 then "0" ++ magnitude else magnitude
  "e" ++ (if exponent < 0 then "-" else "+") ++ padded

/-- The digits with a point behind the first one, if there are more. -/
def pointAfterFirst : List Char → List Char
  | [] => []
  | [digit] => [digit]
  | digit :: rest => digit :: '.' :: rest

/-- A decimal without zeros at the end of its digits, laid out as text. -/
def layout (decimal : Decimal) : String :=
  let digits := (toString decimal.digits).toList
  let leading : Int := decimal.exponent + (digits.length : Int) - 1
  if leading < -4 ∨ 16 ≤ leading then
    String.ofList (pointAfterFirst digits) ++ exponentText leading
  else if leading < 0 then
    "0." ++ String.ofList (List.replicate (-leading - 1).toNat '0' ++ digits)
  else if 0 ≤ decimal.exponent then
    String.ofList (digits ++ List.replicate decimal.exponent.toNat '0') ++ ".0"
  else
    let whole := (leading + 1).toNat
    String.ofList (digits.take whole ++ '.' :: digits.drop whole)

end Decimal

/-- The text of a double. -/
def doubleText (words : DoubleWords) (number : Float) : String :=
  let signed (negative : Bool) (text : String) :=
    if negative then "-" ++ text else text
  match readDouble number with
  | .notANumber => words.notANumber
  | .infinite negative => signed negative words.infinity
  | .finite negative magnitude => signed negative magnitude.shortest.layout

end RationalSimplex
