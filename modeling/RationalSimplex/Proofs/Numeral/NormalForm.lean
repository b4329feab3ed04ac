import RationalSimplex.Proofs.Numeral.Fraction
import RationalSimplex.Proofs.Success

/-!
# Normal forms of numerals

Many texts write the same number: terms need not be lowest, a decimal may take
the place of a quotient, and digits of any script may be used.  The text of the
number that a text is read as is its normal form.  It is read as that number
again, also between blanks and behind a plus, so that numbers are equal when
their texts are.
-/

namespace RationalSimplex

namespace Numeral

variable {number : Rat} {characters : List Char}

/-- The text of a fraction between blanks, where a plus may stand in front of it
if there is no minus. -/
inductive Shows (number : Rat) : List Char → Prop where
  | plain {before after : List Char} :
      (∀ character ∈ before, Text.isBlank character) →
      (∀ character ∈ after, Text.isBlank character) →
      Shows number (before ++ (fractionText number).toList ++ after)
  | plus {before after : List Char} :
      0 ≤ number → (∀ character ∈ before, Text.isBlank character) →
      (∀ character ∈ after, Text.isBlank character) →
      Shows number (before ++ '+' :: (fractionText number).toList ++ after)

theorem Shows.means (shown : Shows number characters) :
    Means characters number := by
  have unsigned := meansUnsigned_bodyOf number
  cases shown with
  | plain blankBefore blankAfter =>
      rw [toList_fractionText]
      exact unsigned.means blankBefore (writesSign_minusOf number.num)
        blankAfter
  | plus natural blankBefore blankAfter =>
      have above : ¬number.num < 0 := by simpa using natural
      rw [decide_eq_false above] at unsigned
      rw [toList_fractionText, minusOf, if_neg above, List.nil_append]
      exact unsigned.means blankBefore .plus blankAfter

theorem not_mem_of_blank
    (blank : ∀ character ∈ characters, Text.isBlank character) :
    '/' ∉ characters :=
  fun member => not_isBlank_of_mem_marks '/' (by decide) (blank '/' member)

/-- Neither blanks nor a plus are strokes. -/
theorem Shows.mem_iff (shown : Shows number characters) :
    '/' ∈ characters ↔ '/' ∈ (fractionText number).toList := by
  cases shown with
  | plain blankBefore blankAfter =>
      simp [not_mem_of_blank blankBefore, not_mem_of_blank blankAfter]
  | plus _ blankBefore blankAfter =>
      simp [not_mem_of_blank blankBefore, not_mem_of_blank blankAfter]

/-- The text of an integer has no stroke. -/
theorem mem_fractionText_iff_not_integer (number : Rat) :
    '/' ∈ (fractionText number).toList ↔
      ¬∃ integer : Int, number = integer := by
  rw [mem_fractionText_iff, not_iff_not]
  constructor
  · intro integral
    exact ⟨number.num, (Rat.coe_int_num_of_den_eq_one integral).symm⟩
  · intro integral
    obtain ⟨integer, rfl⟩ := integral
    exact Rat.den_intCast integer

end Numeral

namespace Value

open Numeral

variable {text : String} {number : Rat}

/-- The text of the number that a text is read as. -/
def normalText (text : String) : Except NumberFault String :=
  (readRat (.text text)).map fractionText

theorem readRat_of_shows (shown : Shows number text.toList) :
    readRat (.text text) = .ok number :=
  ratOfText_eq_ok_iff.mpr shown.means

theorem normalText_eq_ok (read : readRat (.text text) = .ok number) :
    normalText text = .ok (fractionText number) := by
  unfold normalText
  rw [read]
  rfl

theorem normalText_fractionText (number : Rat) :
    normalText (fractionText number) = .ok (fractionText number) :=
  normalText_eq_ok (readRat_fractionText number)

theorem fractionText_injective : Function.Injective fractionText := by
  intro first second same
  have readFirst := readRat_fractionText first
  have readSecond := readRat_fractionText second
  rw [← same, readFirst] at readSecond
  exact Except.ok.inj readSecond

/-- The text of a fraction is read as the fraction, also between blanks and
behind a plus, and has a stroke exactly when the fraction is no integer.  Two
texts that are read write the same number exactly when their normal forms are
the same, and a normal form is its own normal form. -/
theorem normalText_exact :
    (∀ number text, Shows number text.toList →
      readRat (.text text) = .ok number ∧
        ('/' ∈ text.toList ↔ ¬∃ integer : Int, number = integer)) ∧
    ∀ first second firstNumber secondNumber,
      readRat (.text first) = .ok firstNumber →
      readRat (.text second) = .ok secondNumber →
        ∃ firstNormal secondNormal, normalText first = .ok firstNormal ∧
          normalText second = .ok secondNormal ∧
          (firstNumber = secondNumber ↔ firstNormal = secondNormal) ∧
          normalText firstNormal = .ok firstNormal := by
  constructor
  · intro number text shown
    refine ⟨readRat_of_shows shown, ?_⟩
    rw [shown.mem_iff]
    exact mem_fractionText_iff_not_integer number
  · intro first second firstNumber secondNumber readFirst readSecond
    exact ⟨fractionText firstNumber, fractionText secondNumber,
      normalText_eq_ok readFirst, normalText_eq_ok readSecond,
      fractionText_injective.eq_iff.symm, normalText_fractionText firstNumber⟩

/-- A negative fraction between blanks, a natural number behind a plus, and a
number that two texts write in different ways. -/
theorem normalText_exact_manifold :
    readRat (.text "\t -3/4\n") = .ok (-3 / 4) ∧
      readRat (.text " +12") = .ok 12 ∧
      ∃ normal, normalText " -1_2/16\n" = .ok normal ∧
        normalText "-7.5e-1" = .ok normal ∧ normalText normal = .ok normal := by
  obtain ⟨surrounded, normalForms⟩ := normalText_exact
  have blanks : ['\t', ' '].all Text.isBlank := by decide
  have lineBreak : ['\n'].all Text.isBlank := by decide
  have space : [' '].all Text.isBlank := by decide
  have shownFraction : Shows (-3 / 4) "\t -3/4\n".toList := by
    have written : "\t -3/4\n".toList =
        ['\t', ' '] ++ (fractionText (-3 / 4)).toList ++ ['\n'] := by
      decide +kernel
    rw [written]
    exact .plain (List.all_eq_true.mp blanks) (List.all_eq_true.mp lineBreak)
  have shownInteger : Shows 12 " +12".toList := by
    have written : " +12".toList =
        [' '] ++ '+' :: (fractionText 12).toList ++ [] := by
      decide +kernel
    rw [written]
    exact .plus (by decide +kernel) (List.all_eq_true.mp space)
      (List.forall_mem_nil _)
  have quotient : (readRat (.text " -1_2/16\n")).toOption = some (-3 / 4) := by
    decide +kernel
  have decimal : (readRat (.text "-7.5e-1")).toOption = some (-3 / 4) := by
    decide +kernel
  obtain ⟨normal, other, first, second, same, again⟩ :=
    normalForms " -1_2/16\n" "-7.5e-1" (-3 / 4) (-3 / 4)
      (toOption_eq_some_iff.mp quotient) (toOption_eq_some_iff.mp decimal)
  obtain rfl := same.mp rfl
  exact ⟨(surrounded _ _ shownFraction).1, (surrounded _ _ shownInteger).1,
    normal, first, second, again⟩

end Value

end RationalSimplex
