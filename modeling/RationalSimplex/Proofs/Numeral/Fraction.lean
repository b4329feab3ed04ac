import RationalSimplex.Numeral
import RationalSimplex.Proofs.Numeral.Value

/-!
# Texts of fractions read back

A natural number is written with ASCII digits and without needless zeros in
front, and an integer with a minus before them when it is negative.  The text
of a fraction writes the quotient of two such numbers, or a single one, and is
therefore read as the fraction itself.
-/

namespace RationalSimplex.Numeral

/-! ## Integers -/

section Integers

variable {character : Char} {characters : List Char}

/-- The decimal digits of a natural number, the leading one first. -/
def digitsOf (number : Nat) : List Nat :=
  (Nat.toDigits 10 number).map fun digit => digit.toNat - 0x30

/-- The minus in front of a negative integer. -/
def minusOf (number : Int) : List Char :=
  if number < 0 then ['-'] else []

theorem digitValue?_of_isDigit (ascii : character.isDigit) :
    Text.digitValue? character = some (character.toNat - 0x30) := by
  have first : Text.digitZeros = 0x30 :: Text.digitZeros.tail := rfl
  have inRun : 0x30 ≤ character.toNat ∧ character.toNat ≤ 0x30 + 9 := by
    simpa [Char.isDigit, UInt32.le_iff_toNat_le] using ascii
  unfold Text.digitValue?
  rw [first, List.find?_cons_of_pos (by simpa using inRun)]
  rfl

theorem writesDigits_of_isDigit (some : characters ≠ [])
    (ascii : ∀ character ∈ characters, character.isDigit) :
    WritesDigits characters
      (characters.map fun digit => digit.toNat - 0x30) := by
  induction characters with
  | nil => exact absurd rfl some
  | cons first rest induction =>
      have found := digitValue?_of_isDigit (ascii first List.mem_cons_self)
      cases rest with
      | nil => exact .last found
      | cons second rest =>
          exact .digit found (induction (List.cons_ne_nil _ _)
            fun other member => ascii other (List.mem_cons_of_mem _ member))

theorem isDigit_of_mem_toDigits {number : Nat}
    (member : character ∈ Nat.toDigits 10 number) : character.isDigit :=
  Nat.isDigit_of_mem_toDigits (by decide) (by decide) member

theorem writesDigits_toDigits (number : Nat) :
    WritesDigits (Nat.toDigits 10 number) (digitsOf number) :=
  writesDigits_of_isDigit Nat.toDigits_ne_nil fun _ => isDigit_of_mem_toDigits

@[simp] theorem ofDigits_digitsOf (number : Nat) :
    ofDigits (digitsOf number) = number := by
  rw [ofDigits, digitsOf, List.foldl_map]
  exact Nat.ofDigitChars_eq_foldl.symm.trans Nat.ofDigitChars_ten_toDigits

@[simp]
theorem place_digitsOf (number : Nat) : place (digitsOf number) = number := by
  rw [← ofDigits_eq_place, ofDigits_digitsOf]

/-- Only zero is written with a leading zero. -/
theorem head?_toDigits_ne_zero {number : Nat} (nonzero : number ≠ 0) :
    (Nat.toDigits 10 number).head? ≠ some '0' := by
  induction number using Nat.strongRecOn with
  | ind number induction =>
      rcases Nat.lt_or_ge number 10 with single | several
      · rw [Nat.toDigits_of_lt_base single]
        simpa using nonzero
      · have smaller : number / 10 < number := by omega
        have stillNonzero : number / 10 ≠ 0 := by omega
        have shorter := induction _ smaller stillNonzero
        rw [Nat.toDigits_of_base_le (by decide) several,
          List.head?_append_of_ne_nil _ Nat.toDigits_ne_nil]
        exact shorter

@[simp] theorem toList_toString (number : Nat) :
    (toString number).toList = Nat.toDigits 10 number := by
  rw [Nat.toString_eq_ofList_toDigits, String.toList_ofList]

@[simp] theorem toList_toString_int (number : Int) :
    (toString number).toList =
      minusOf number ++ Nat.toDigits 10 number.natAbs := by
  cases number with
  | ofNat number => exact toList_toString number
  | negSucc number =>
      have written : toString (Int.negSucc number) =
          "-" ++ toString (number + 1) := rfl
      rw [written, String.toList_append, toList_toString, minusOf,
        if_pos (Int.negSucc_lt_zero number)]
      rfl

theorem writesSign_minusOf (number : Int) :
    WritesSign (minusOf number) (decide (number < 0)) := by
  unfold minusOf
  split
  · next negative => simpa [negative] using WritesSign.minus
  · next natural => simpa [natural] using WritesSign.none

@[simp] theorem signed_abs (number : Int) :
    signed (decide (number < 0)) |(number : Rat)| = number := by
  unfold signed
  split
  · next negative =>
      have below : (number : Rat) < 0 := by simpa using negative
      rw [abs_of_neg below, neg_neg]
  · next natural =>
      have above : 0 ≤ (number : Rat) := by simpa using natural
      rw [abs_of_nonneg above]

theorem signed_div (negative : Bool) (above below : Rat) :
    signed negative (above / below) = signed negative above / below := by
  cases negative with
  | false => rfl
  | true => exact (neg_div below above).symm

end Integers

/-! ## Fractions -/

/-- The number that a text without a sign writes behind a sign. -/
def MeansUnsigned (negative : Bool) (characters : List Char)
    (number : Rat) : Prop :=
  ∃ numeral, WritesUnsigned negative characters numeral ∧
    numeral.Denotes number

theorem MeansUnsigned.means {before sign body after : List Char}
    {negative : Bool} {number : Rat}
    (means : MeansUnsigned negative body number)
    (blankBefore : ∀ character ∈ before, Text.isBlank character)
    (signed : WritesSign sign negative)
    (blankAfter : ∀ character ∈ after, Text.isBlank character) :
    Means (before ++ (sign ++ body) ++ after) number := by
  obtain ⟨numeral, writes, denotes⟩ := means
  exact ⟨numeral, .intro blankBefore signed writes blankAfter, denotes⟩

/-- Digits write an integer as a decimal without places. -/
theorem meansUnsigned_integer (number : Int) :
    MeansUnsigned (decide (number < 0)) (Nat.toDigits 10 number.natAbs)
      number := by
  refine ⟨.decimal (decide (number < 0)) (digitsOf number.natAbs) [] 0, ?_, ?_⟩
  · have digits := writesDigits_toDigits number.natAbs
    have starts : StartsNumber (Nat.toDigits 10 number.natAbs ++ [] ++ []) := by
      simpa using (digits.startsNumber_append []).1
    have unsigned : WritesUnsigned (decide (number < 0))
        (Nat.toDigits 10 number.natAbs ++ [] ++ [])
        (.decimal (decide (number < 0)) (digitsOf number.natAbs) [] 0) :=
      .decimal (.digits digits) .none .none starts
    simpa using unsigned
  · rw [← value?_eq_some_iff]
    have value := value_decimal (digitsOf number.natAbs) [] 0
    simp only [value?, value, place_digitsOf]
    simp [place]

/-- The quotient of two integers, the lower one without a sign. -/
theorem meansUnsigned_quotient (above : Int) {below : Nat}
    (nonzero : below ≠ 0) :
    MeansUnsigned (decide (above < 0))
      (Nat.toDigits 10 above.natAbs ++ '/' :: Nat.toDigits 10 below)
      (above / below) := by
  refine ⟨.quotient (decide (above < 0)) (digitsOf above.natAbs)
    (digitsOf below), ?_, ?_⟩
  · exact .quotient (writesDigits_toDigits above.natAbs)
      (writesDigits_toDigits below)
  · rw [← value?_eq_some_iff]
    simp only [value?, ofDigits_digitsOf]
    rw [if_neg nonzero, signed_div, Nat.cast_natAbs, Int.cast_abs, signed_abs]

/-- The text of a fraction without its sign. -/
def bodyOf (number : Rat) : List Char :=
  Nat.toDigits 10 number.num.natAbs ++
    if number.den = 1 then [] else '/' :: Nat.toDigits 10 number.den

@[simp] theorem toList_fractionText (number : Rat) :
    (fractionText number).toList = minusOf number.num ++ bodyOf number := by
  unfold fractionText bodyOf
  split
  · rw [toList_toString_int, List.append_nil]
  · rw [String.toList_append, String.toList_append, toList_toString_int,
      toList_toString, List.append_assoc, List.append_assoc]
    rfl

theorem meansUnsigned_bodyOf (number : Rat) :
    MeansUnsigned (decide (number.num < 0)) (bodyOf number) number := by
  unfold bodyOf
  split
  · next integral =>
      have means := meansUnsigned_integer number.num
      rw [Rat.coe_int_num_of_den_eq_one integral] at means
      simpa using means
  · have means := meansUnsigned_quotient number.num number.den_nz
    rwa [Rat.num_div_den] at means

/-- The text of a fraction writes it. -/
theorem means_fractionText (number : Rat) :
    Means (fractionText number).toList number := by
  have means := (meansUnsigned_bodyOf number).means (List.forall_mem_nil _)
    (writesSign_minusOf number.num) (List.forall_mem_nil _)
  rw [toList_fractionText]
  simpa using means

/-- Digits and a minus are no strokes. -/
theorem mem_fractionText_iff (number : Rat) :
    '/' ∈ (fractionText number).toList ↔ number.den ≠ 1 := by
  have noDigit : ∀ natural : Nat, '/' ∉ Nat.toDigits 10 natural := by
    intro natural member
    exact absurd (isDigit_of_mem_toDigits member) (by decide)
  have noMinus : '/' ∉ minusOf number.num := by
    unfold minusOf
    split
    · decide
    · exact List.not_mem_nil
  rw [toList_fractionText, bodyOf]
  by_cases integral : number.den = 1
  · simp [integral, noDigit, noMinus]
  · simp [integral]

end RationalSimplex.Numeral

namespace RationalSimplex.Value

/-- A fraction is read back from its text. -/
theorem readRat_fractionText (number : Rat) :
    readRat (.text (fractionText number)) = .ok number :=
  ratOfText_eq_ok_iff.mpr (Numeral.means_fractionText number)

end RationalSimplex.Value
