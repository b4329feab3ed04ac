/-!
# Decimal and double-precision numbers

A decimal number is a natural number of digits, moved by a power of ten.  Its
value is the exact rational number that it writes.  The bits of a double are
read as a sign and an exact binary magnitude.  Every magnitude owns an interval
of rational numbers, those that lie closer to it than to its neighbours; the
ends of the interval belong to it exactly when its significand is even.
-/

namespace RationalSimplex

/-! ## Decimals -/

/-- The integer power of a base, for exponents of either sign. -/
def integerPower (base : Nat) : Int → Rat
  | .ofNat exponent => (Nat.pow base exponent : Nat)
  | .negSucc exponent => 1 / (Nat.pow base (exponent + 1) : Nat)

/-- The number `digits` times ten to the `exponent`. -/
structure Decimal where
  digits : Nat
  exponent : Int
deriving DecidableEq

/-- The rational number that is written. -/
def Decimal.value (decimal : Decimal) : Rat :=
  (decimal.digits : Rat) * integerPower 10 decimal.exponent

/-- How many digits the number has; zero has one. -/
def digitCount (number : Nat) : Nat :=
  (Nat.toDigits 10 number).length

/-- Move the zeros at the end of the digits into the exponent, at most `bound`
of them. -/
def Decimal.stripZeros : Nat → Decimal → Decimal
  | 0, decimal => decimal
  | bound + 1, decimal =>
      if decimal.digits ≠ 0 ∧ decimal.digits % 10 = 0 then
        stripZeros bound ⟨decimal.digits / 10, decimal.exponent + 1⟩
      else
        decimal

/-! ## Doubles -/

/-- The magnitude `significand` times two to the `exponent`. -/
structure Binary where
  significand : Nat
  exponent : Int
  /-- The gap to the magnitude below is half the gap to the one above. -/
  narrowBelow : Bool
deriving DecidableEq

/-- What the bits of a double stand for. -/
inductive DoubleReading where
  | notANumber
  | infinite (negative : Bool)
  | finite (negative : Bool) (magnitude : Binary)
deriving DecidableEq

namespace DoubleReading

/-- Read the sixty-four bits of a double: a sign, eleven bits of exponent and
the fraction. -/
def ofBits (bits : Nat) : DoubleReading :=
  let negative := bits / 0x8000000000000000 % 2 == 1
  let exponent := bits / 0x10000000000000 % 0x800
  let fraction := bits % 0x10000000000000
  if exponent == 0x7FF then
    if fraction == 0 then .infinite negative else .notANumber
  else if exponent == 0 then
    .finite negative ⟨fraction, -1074, false⟩
  else
    .finite negative ⟨fraction + 0x10000000000000, (exponent : Int) - 1075,
      fraction == 0 && decide (1 < exponent)⟩

end DoubleReading

/-- What a double stands for. -/
def readDouble (number : Float) : DoubleReading :=
  .ofBits number.toBits.toNat

namespace Binary

/-- One unit of the significand. -/
def unit (magnitude : Binary) : Rat :=
  integerPower 2 magnitude.exponent

/-- The magnitude as a rational number. -/
def value (magnitude : Binary) : Rat :=
  (magnitude.significand : Rat) * magnitude.unit

/-- The lower end of the interval of the magnitude. -/
def lowerEnd (magnitude : Binary) : Rat :=
  magnitude.value - magnitude.unit / (if magnitude.narrowBelow then 4 else 2)

/-- The upper end of the interval of the magnitude. -/
def upperEnd (magnitude : Binary) : Rat :=
  magnitude.value + magnitude.unit / 2

/-- The rational number is nearest to this magnitude. -/
def Owns (magnitude : Binary) (number : Rat) : Prop :=
  if magnitude.significand % 2 = 0 then
    magnitude.lowerEnd ≤ number ∧ number ≤ magnitude.upperEnd
  else
    magnitude.lowerEnd < number ∧ number < magnitude.upperEnd

instance (magnitude : Binary) (number : Rat) :
    Decidable (magnitude.Owns number) := by
  unfold Owns
  infer_instance

end Binary

end RationalSimplex
