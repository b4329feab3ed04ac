import Mathlib.Algebra.Field.Rat
import Mathlib.Data.Nat.Digits.Defs
import Mathlib.Tactic.FieldSimp
import Mathlib.Tactic.Ring
import RationalSimplex.Fault.Message
import RationalSimplex.Proofs.Numeral.Reading
import RationalSimplex.Value.Number

/-!
# The number that a numeral denotes

Digits count by their places.  A quotient denotes the quotient of its two
numbers unless the lower one is zero, and a decimal its whole part and the
fraction after the point, moved by the exponent.  A text is read as the number
that its numeral denotes, and the fault of any other text tells a quotient by
zero from a text that writes no numeral at all.
-/

namespace RationalSimplex.Numeral

/-- The natural number of decimal digits, the leading one first. -/
def place (digits : List Nat) : Nat :=
  Nat.ofDigits 10 digits.reverse

/-- What a numeral stands for.  Rational numbers are in lowest terms. -/
inductive Denotes : Numeral → Rat → Prop where
  | quotient {negative : Bool} {numerator denominator : List Nat} :
      place denominator ≠ 0 →
      Denotes (.quotient negative numerator denominator)
        (signed negative ((place numerator : Rat) / (place denominator : Rat)))
  | decimal {negative : Bool} {whole fraction : List Nat} {exponent : Int} :
      Denotes (.decimal negative whole fraction exponent)
        (signed negative
          (((place whole : Rat) +
              (place fraction : Rat) / 10 ^ fraction.length) *
            10 ^ exponent))

section

variable {digits whole fraction : List Nat} {numeral : Numeral} {number : Rat}

theorem ofDigits_eq_place (digits : List Nat) :
    ofDigits digits = place digits := by
  rw [ofDigits, place, Nat.ofDigits_eq_foldr, List.foldr_reverse]
  congr 1
  funext number digit
  simp [Nat.add_comm]

theorem place_append (whole fraction : List Nat) :
    place (whole ++ fraction) =
      place whole * 10 ^ fraction.length + place fraction := by
  rw [place, List.reverse_append, Nat.ofDigits_append, List.length_reverse]
  simp [place]
  ring

theorem integerPower_eq_zpow (base : Nat) (exponent : Int) :
    integerPower base exponent = (base : Rat) ^ exponent := by
  cases exponent with
  | ofNat exponent => simp [integerPower]
  | negSucc exponent => simp [integerPower, zpow_negSucc]

theorem value_decimal (whole fraction : List Nat) (exponent : Int) :
    (Decimal.mk (ofDigits (whole ++ fraction))
        (exponent - (fraction.length : Int))).value =
      ((place whole : Rat) + (place fraction : Rat) / 10 ^ fraction.length) *
        10 ^ exponent := by
  have ten : (10 : Rat) ≠ 0 := by norm_num
  rw [Decimal.value, ofDigits_eq_place, place_append, integerPower_eq_zpow]
  push_cast
  rw [zpow_sub₀ ten, zpow_natCast]
  field_simp

theorem value?_eq_some_iff :
    numeral.value? = some number ↔ numeral.Denotes number := by
  constructor
  · intro found
    cases numeral with
    | quotient negative numerator denominator =>
        simp only [value?, ofDigits_eq_place] at found
        split at found
        · cases found
        · next nonzero =>
            obtain rfl := Option.some.inj found
            exact .quotient nonzero
    | decimal negative whole fraction exponent =>
        simp only [value?, value_decimal] at found
        obtain rfl := Option.some.inj found
        exact .decimal
  · intro denotes
    cases denotes with
    | quotient nonzero =>
        simp only [value?, ofDigits_eq_place]
        rw [if_neg nonzero]
    | decimal =>
        simp only [value?, value_decimal]

end

/-- The number that a text writes. -/
def Means (characters : List Char) (number : Rat) : Prop :=
  ∃ numeral, Writes characters numeral ∧ numeral.Denotes number

/-- A quotient whose lower number is zero. -/
def WritesQuotientByZero (characters : List Char) : Prop :=
  ∃ negative numerator denominator,
    Writes characters (.quotient negative numerator denominator) ∧
      place denominator = 0

theorem WritesQuotientByZero.not_means {characters : List Char} {number : Rat}
    (byZero : WritesQuotientByZero characters) : ¬Means characters number := by
  rintro ⟨numeral, writes, denotes⟩
  obtain ⟨negative, numerator, denominator, writesQuotient, isZero⟩ := byZero
  have same : numeral = .quotient negative numerator denominator := by
    apply Option.some.inj
    rw [← ofText?_eq_some_iff.mpr writes,
      ofText?_eq_some_iff.mpr writesQuotient]
  subst same
  cases denotes with
  | quotient nonzero => exact nonzero isZero

/-- Every numeral but a quotient by zero denotes a number. -/
theorem writesQuotientByZero_of_value? {characters : List Char}
    {numeral : Numeral} (writes : Writes characters numeral)
    (none : numeral.value? = none) : WritesQuotientByZero characters := by
  cases numeral with
  | quotient negative numerator denominator =>
      refine ⟨negative, numerator, denominator, writes, ?_⟩
      rw [← ofDigits_eq_place]
      by_contra nonzero
      simp [value?, nonzero] at none
  | decimal negative whole fraction exponent => cases none

end RationalSimplex.Numeral

namespace RationalSimplex.Value

open Numeral

variable {source : Value} {text : String} {number : Rat}

theorem ratOfText_eq_ok_iff :
    ratOfText source text = .ok number ↔ Means text.toList number := by
  unfold ratOfText Means
  simp only [← ofText?_eq_some_iff, ← value?_eq_some_iff]
  cases read : ofText? text.toList with
  | none => simp
  | some numeral =>
      cases found : numeral.value? with
      | none => simp [found]
      | some number => simp [found]

theorem not_means_of_ofText? (unread : ofText? text.toList = none) :
    (∀ number, ¬Means text.toList number) ∧
      ¬WritesQuotientByZero text.toList := by
  have writesNone : ∀ numeral, ¬Writes text.toList numeral := by
    intro numeral writes
    rw [ofText?_eq_some_iff.mpr writes] at unread
    cases unread
  constructor
  · rintro number ⟨numeral, writes, _⟩
    exact writesNone numeral writes
  · rintro ⟨_, _, _, writes, _⟩
    exact writesNone _ writes

/-- The two faults of a text share no text. -/
theorem ratOfText_eq_error_iff {fault : NumberFault} :
    ratOfText source text = .error fault ↔
      fault = .zeroDenominatorIn source ∧ WritesQuotientByZero text.toList ∨
      fault = .unreadable source ∧ (∀ number, ¬Means text.toList number) ∧
        ¬WritesQuotientByZero text.toList := by
  unfold ratOfText
  cases read : ofText? text.toList with
  | none =>
      obtain ⟨meansNone, notByZero⟩ := not_means_of_ofText? read
      simp [meansNone, notByZero, eq_comm]
  | some numeral =>
      have writes := ofText?_eq_some_iff.mp read
      cases found : numeral.value? with
      | none =>
          have byZero := writesQuotientByZero_of_value? writes found
          simp [found, byZero, eq_comm]
      | some number =>
          have meant : Means text.toList number :=
            ⟨numeral, writes, value?_eq_some_iff.mp found⟩
          have notByZero : ¬WritesQuotientByZero text.toList :=
            fun byZero => byZero.not_means meant
          have meansSome : ¬∀ number, ¬Means text.toList number :=
            fun meansNone => meansNone number meant
          simp [found, notByZero, -not_forall, meansSome]

theorem ratOfText_kind {fault : NumberFault}
    (failed : ratOfText source text = .error fault) :
    fault.kind = .unreadableNumber := by
  rcases ratOfText_eq_error_iff.mp failed with ⟨rfl, _⟩ | ⟨rfl, _⟩
  · rfl
  · rfl

/-- A value that is no number is unreadable or of the wrong kind. -/
theorem toRat_kind {fault : NumberFault}
    (failed : source.toRat = .error fault) :
    fault.kind = .unreadableNumber ∨ fault.kind = .malformedArgument := by
  unfold toRat at failed
  split at failed
  · cases failed
  · cases failed
  · unfold ratOfDouble at failed
    split at failed
    · cases failed
    · cases failed
      exact .inl rfl
  · exact .inl (ratOfText_kind failed)
  · exact .inl (ratOfText_kind failed)
  · cases failed
    exact .inr rfl
  · exact .inl (ratOfText_kind failed)
  · cases failed
    exact .inr rfl

/-- The result is the fault of an unreadable number with the given cause. -/
def IsUnreadable (result : Except NumberFault Rat) (cause : FaultKind) : Prop :=
  ∃ fault, result = .error fault ∧ fault.kind = .unreadableNumber ∧
    fault.cause? = some cause

/-- A text is read as the number that it writes.  A division by zero is the
cause when it writes a quotient by zero, and the text itself when it writes
nothing. -/
theorem readRat_text (text : String) :
    (∀ number, readRat (.text text) = .ok number ↔ Means text.toList number) ∧
      (IsUnreadable (readRat (.text text)) .divisionByZero ↔
        WritesQuotientByZero text.toList) ∧
      (IsUnreadable (readRat (.text text)) .invalidValue ↔
        (∀ number, ¬Means text.toList number) ∧
          ¬WritesQuotientByZero text.toList) := by
  have read : readRat (.text text) = ratOfText (.text text) text := rfl
  rw [read]
  refine ⟨fun _ => ratOfText_eq_ok_iff, ⟨?_, ?_⟩, ⟨?_, ?_⟩⟩
  · rintro ⟨fault, failed, _, cause⟩
    rcases ratOfText_eq_error_iff.mp failed with ⟨rfl, byZero⟩ | ⟨rfl, _⟩
    · exact byZero
    · cases cause
  · intro byZero
    exact ⟨_, ratOfText_eq_error_iff.mpr (.inl ⟨rfl, byZero⟩), rfl, rfl⟩
  · rintro ⟨fault, failed, _, cause⟩
    rcases ratOfText_eq_error_iff.mp failed with ⟨rfl, _⟩ | ⟨rfl, other⟩
    · cases cause
    · exact other
  · intro other
    exact ⟨_, ratOfText_eq_error_iff.mpr (.inr ⟨rfl, other⟩), rfl, rfl⟩

example : (readRat (.text " -1_2/8\n")).toOption = some (-3 / 2) := by
  decide +kernel

example : (readRat (.text "+.5e-1")).toOption = some (1 / 20) := by
  decide +kernel

end RationalSimplex.Value
