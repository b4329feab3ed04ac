import RationalSimplex.Json.Reader
import RationalSimplex.Proofs.Numeral.Fraction

/-!
# Texts and integers read back

A character inside quotes is written as itself or as an escape, and either way
the reader finds it again.  No written character is a control character, and
none but the last one is a quote.  An integer is read back from its digits when
no character behind it could continue a number.
-/

namespace RationalSimplex.JsonValue

/-! ## Control characters -/

section Visible

variable {left right characters : List Char} {character : Char}

/-- No character is a control character. -/
def Visible (characters : List Char) : Prop :=
  ∀ character ∈ characters, 0x20 ≤ character.toNat

theorem visible_nil : Visible [] :=
  List.forall_mem_nil _

theorem Visible.cons (visible : Visible characters)
    (head : 0x20 ≤ character.toNat) : Visible (character :: characters) :=
  List.forall_mem_cons.mpr ⟨head, visible⟩

theorem Visible.append (leftVisible : Visible left)
    (rightVisible : Visible right) : Visible (left ++ right) :=
  List.forall_mem_append.mpr ⟨leftVisible, rightVisible⟩

theorem visible_of_all
    (all : characters.all fun character => decide (0x20 ≤ character.toNat)) :
    Visible characters := by
  intro character member
  exact of_decide_eq_true (List.all_eq_true.mp all character member)

end Visible

/-! ## Characters inside quotes -/

section Characters

variable {character letter : Char}

theorem hexValue?_digitChar :
    ∀ digit < 16, hexValue? (Nat.digitChar digit) = some digit := by
  decide

/-- Four hexadecimal digits are the number that they write. -/
theorem readUnit?_hexDigits {code : Nat} (small : code < 0x10000)
    (rest : List Char) :
    readUnit? (Text.hexDigits 4 code ++ rest) = some (code, rest) := by
  have first := hexValue?_digitChar (code / 16 / 16 / 16 % 16) (by omega)
  have second := hexValue?_digitChar (code / 16 / 16 % 16) (by omega)
  have third := hexValue?_digitChar (code / 16 % 16) (by omega)
  have fourth := hexValue?_digitChar (code % 16) (by omega)
  simp only [Text.hexDigits, List.nil_append, List.cons_append, readUnit?,
    first, second, third, fourth, Option.some.injEq, Prod.mk.injEq, and_true]
  omega

/-- What the escapes are: the letters are no control characters and stand for
what they are written for. -/
theorem of_escapeLetter? (escaped : escapeLetter? character = some letter) :
    unescapeLetter? letter = some character ∧ letter ≠ 'u' ∧
      0x20 ≤ letter.toNat := by
  unfold escapeLetter? at escaped
  split at escaped <;> cases escaped <;>
    exact ⟨rfl, by decide, by decide⟩

/-- Quotes and backslashes have a short escape. -/
theorem ne_of_escapeLetter? (unescaped : escapeLetter? character = none) :
    character ≠ '"' ∧ character ≠ '\\' := by
  constructor
  · rintro rfl
    cases unescaped
  · rintro rfl
    cases unescaped

/-- A character is written by a short escape, by its code, or as it is. -/
inductive Escapes : Char → List Char → Prop where
  | letter {character letter : Char} :
      unescapeLetter? letter = some character → letter ≠ 'u' →
      0x20 ≤ letter.toNat → Escapes character ['\\', letter]
  | code {character : Char} :
      character.toNat < 0x20 →
      Escapes character ('\\' :: 'u' :: Text.hexDigits 4 character.toNat)
  | plain {character : Char} :
      character ≠ '"' → character ≠ '\\' → 0x20 ≤ character.toNat →
      Escapes character [character]

theorem escapes_writeCharacter (character : Char) :
    Escapes character (writeCharacter character) := by
  unfold writeCharacter
  cases escaped : escapeLetter? character with
  | some letter =>
      obtain ⟨meant, different, visible⟩ := of_escapeLetter? escaped
      exact .letter meant different visible
  | none =>
      obtain ⟨noQuote, noBackslash⟩ := ne_of_escapeLetter? escaped
      by_cases control : character.toNat < 0x20
      · simpa only [if_pos control] using Escapes.code control
      · simpa only [if_neg control] using
          Escapes.plain noQuote noBackslash (Nat.not_lt.mp control)

/-- A written character is read back. -/
theorem Escapes.readCharacter?_append {written : List Char}
    (escapes : Escapes character written) (rest : List Char) :
    readCharacter? (written ++ rest) = some (character, rest) := by
  cases escapes with
  | letter meant different _ =>
      rw [List.cons_append, List.singleton_append,
        readCharacter?.eq_2 _ _ (fun same => absurd same different), meant]
      rfl
  | code control =>
      have small : character.toNat < 0x10000 := by omega
      have unit := readUnit?_hexDigits small rest
      have noHigh : ¬(0xD800 ≤ character.toNat ∧ character.toNat ≤ 0xDBFF) := by
        omega
      have noLow : ¬(0xDC00 ≤ character.toNat ∧ character.toNat ≤ 0xDFFF) := by
        omega
      change readCode? (Text.hexDigits 4 character.toNat ++ rest) = _
      unfold readCode?
      simp only [unit, if_neg noHigh, if_neg noLow, Char.ofNat_toNat]
  | plain _ noBackslash visible =>
      rw [List.singleton_append, readCharacter?.eq_3 _ _
        (fun _ same _ => noBackslash same) (fun _ _ same _ => noBackslash same)]
      exact if_neg (by simp [noBackslash, visible])

theorem visible_hexDigits (width number : Nat) :
    Visible (Text.hexDigits width number) := by
  have digits : ∀ digit < 16, 0x20 ≤ (Nat.digitChar digit).toNat := by
    decide
  induction width generalizing number with
  | zero => exact visible_nil
  | succ width induction =>
      have last := digits (number % 16) (Nat.mod_lt _ (by decide))
      exact (induction (number / 16)).append (visible_nil.cons last)

theorem Escapes.visible {written : List Char}
    (escapes : Escapes character written) : Visible written := by
  cases escapes with
  | letter _ _ visible => exact (visible_nil.cons visible).cons (by decide)
  | code _ =>
      exact ((visible_hexDigits 4 _).cons (by decide)).cons (by decide)
  | plain _ _ visible => exact visible_nil.cons visible

/-- What is written for a character is not mistaken for the end. -/
theorem Escapes.exists_cons {written : List Char}
    (escapes : Escapes character written) :
    ∃ first more, written = first :: more ∧ first ≠ '"' := by
  cases escapes with
  | letter _ _ _ => exact ⟨_, _, rfl, by decide⟩
  | code _ => exact ⟨_, _, rfl, by decide⟩
  | plain noQuote _ _ => exact ⟨_, _, rfl, noQuote⟩

end Characters

/-! ## Texts -/

section Texts

variable {characters rest : List Char}

/-- A text is read back up to the closing quote. -/
theorem readText?_writeText {bound : Nat} (enough : characters.length < bound) :
    readText? bound (characters.flatMap writeCharacter ++ '"' :: rest) =
      some (characters, rest) := by
  induction characters generalizing bound with
  | nil =>
      obtain ⟨bound, rfl⟩ :=
        Nat.exists_eq_succ_of_ne_zero (Nat.ne_zero_of_lt enough)
      exact readText?.eq_2 bound rest
  | cons character characters induction =>
      obtain ⟨bound, rfl⟩ :=
        Nat.exists_eq_succ_of_ne_zero (Nat.ne_zero_of_lt enough)
      have escapes := escapes_writeCharacter character
      have read := escapes.readCharacter?_append
        (characters.flatMap writeCharacter ++ '"' :: rest)
      have unclosed : ∀ others, writeCharacter character ++
          (characters.flatMap writeCharacter ++ '"' :: rest) ≠
            '"' :: others := by
        obtain ⟨first, more, same, noQuote⟩ := escapes.exists_cons
        rw [same, List.cons_append]
        intro others equal
        exact noQuote (List.cons.inj equal).1
      have shorter : characters.length < bound := by
        simpa using enough
      rw [List.flatMap_cons, List.append_assoc, readText?.eq_3 _ _ unclosed,
        read]
      simp only [induction shorter, Option.map_some]

theorem length_le_flatMap_writeCharacter (characters : List Char) :
    characters.length ≤ (characters.flatMap writeCharacter).length := by
  induction characters with
  | nil => exact Nat.le_refl 0
  | cons character characters induction =>
      obtain ⟨first, more, same, _⟩ :=
        (escapes_writeCharacter character).exists_cons
      rw [List.flatMap_cons, same]
      simp only [List.length_append, List.length_cons]
      omega

/-- The length of what is left is a bound for every text in front. -/
theorem readText?_length (characters rest : List Char) :
    readText?
        ((characters.flatMap writeCharacter ++ '"' :: rest).length + 1)
        (characters.flatMap writeCharacter ++ '"' :: rest) =
      some (characters, rest) := by
  apply readText?_writeText
  have bounded := length_le_flatMap_writeCharacter characters
  rw [List.length_append]
  omega

theorem writeText_append (characters rest : List Char) :
    writeText characters ++ rest =
      '"' :: (characters.flatMap writeCharacter ++ '"' :: rest) := by
  simp [writeText]

theorem visible_writeText (characters : List Char) :
    Visible (writeText characters) := by
  have inner : Visible (characters.flatMap writeCharacter) := by
    intro character member
    obtain ⟨source, _, listed⟩ := List.mem_flatMap.mp member
    exact (escapes_writeCharacter source).visible character listed
  exact (inner.append (visible_nil.cons (by decide))).cons (by decide)

end Texts

/-! ## Integers -/

section Integers

variable {rest : List Char}

/-- No character in front continues an integer. -/
def StopsNumber (characters : List Char) : Prop :=
  ∀ character ∈ characters.head?,
    ¬character.isDigit ∧ character ∉ ['.', 'e', 'E']

theorem stopsNumber_nil : StopsNumber [] :=
  fun _ first => nomatch first

theorem takeDigits_append {digits : List Char}
    (ascii : ∀ digit ∈ digits, digit.isDigit) (stops : StopsNumber rest) :
    takeDigits (digits ++ rest) =
      (digits.map fun digit => digit.toNat - 0x30, rest) := by
  have nothing : rest.takeWhile Char.isDigit = [] ∧
      rest.dropWhile Char.isDigit = rest := by
    cases rest with
    | nil => exact ⟨rfl, rfl⟩
    | cons first rest =>
        have noDigit := (stops first rfl).1
        exact ⟨List.takeWhile_cons_of_neg noDigit,
          List.dropWhile_cons_of_neg noDigit⟩
  unfold takeDigits
  rw [List.takeWhile_append_of_pos ascii, List.dropWhile_append_of_pos ascii,
    nothing.1, nothing.2, List.append_nil]

open Numeral

/-- The digits of a number are read as far as they go, since only zero starts
with a zero. -/
theorem readWhole?_toDigits (number : Nat) (stops : StopsNumber rest) :
    readWhole? (Nat.toDigits 10 number ++ rest) =
      some (digitsOf number, rest) := by
  rcases Nat.eq_zero_or_pos number with rfl | positive
  · rfl
  · have noZero : ∀ others, Nat.toDigits 10 number ++ rest ≠ '0' :: others := by
      intro others same
      apply head?_toDigits_ne_zero positive.ne'
      rw [← List.head?_append_of_ne_nil _ Nat.toDigits_ne_nil, same]
      rfl
    have taken : takeDigits (Nat.toDigits 10 number ++ rest) =
        (digitsOf number, rest) :=
      takeDigits_append (fun _ => isDigit_of_mem_toDigits) stops
    have some : ¬(digitsOf number).isEmpty := by
      simp [digitsOf, Nat.toDigits_ne_nil]
    rw [readWhole?.eq_2 _ noZero, taken]
    exact if_neg some

theorem StopsNumber.readRat?_eq (stops : StopsNumber rest) :
    readRat? rest = none := by
  apply readRat?.eq_2
  rintro others rfl
  exact (stops '.' rfl).2 (by decide)

theorem StopsNumber.readExponent?_eq (stops : StopsNumber rest) :
    readExponent? rest = none := by
  cases rest with
  | nil => rfl
  | cons first rest =>
      have noMark := (stops first rfl).2
      exact if_neg fun mark => noMark (by rcases mark with rfl | rfl <;> decide)

theorem readMagnitude?_toDigits (negative : Bool) (number : Nat)
    (stops : StopsNumber rest) :
    readMagnitude? negative (Nat.toDigits 10 number ++ rest) =
      some (.integer (if negative then -number else number), rest) := by
  unfold readMagnitude?
  rw [readWhole?_toDigits number stops]
  simp [stops.readRat?_eq, stops.readExponent?_eq]

theorem exists_toDigits_cons (number : Nat) :
    ∃ first more, Nat.toDigits 10 number = first :: more ∧ first.isDigit := by
  cases same : Nat.toDigits 10 number with
  | nil => exact absurd same Nat.toDigits_ne_nil
  | cons first more =>
      have listed : first ∈ Nat.toDigits 10 number := by
        rw [same]
        exact List.mem_cons_self
      exact ⟨first, more, rfl, isDigit_of_mem_toDigits listed⟩

/-- An integer is read back. -/
theorem readNumber?_toString (number : Int) (stops : StopsNumber rest) :
    readNumber? ((toString number).toList ++ rest) =
      some (.integer number, rest) := by
  obtain ⟨first, more, same, ascii⟩ := exists_toDigits_cons number.natAbs
  have noLetter : first ≠ 'I' := by
    rintro rfl
    cases ascii
  have noMinus : first ≠ '-' := by
    rintro rfl
    cases ascii
  have digits := fun negative =>
    readMagnitude?_toDigits negative number.natAbs stops
  rw [toList_toString_int, minusOf]
  rw [same] at digits ⊢
  split
  · next negative =>
      have value : -(number.natAbs : Int) = number := by omega
      change readNumber? ('-' :: (first :: more ++ rest)) = _
      rw [readNumber?.eq_2 _ (by
        intro others equal
        exact noLetter (List.cons.inj equal).1), digits true, if_pos rfl, value]
  · next natural =>
      have value : (number.natAbs : Int) = number := by omega
      rw [List.nil_append, readNumber?.eq_3 _
        (by
          intro others equal
          exact noMinus (List.cons.inj equal).1)
        (by
          intro others equal
          exact noMinus (List.cons.inj equal).1), digits false, value]
      rfl

theorem exists_toString_cons (number : Int) :
    ∃ first more, (toString number).toList = first :: more ∧
      (first = '-' ∨ first.isDigit) := by
  obtain ⟨first, more, same, ascii⟩ := exists_toDigits_cons number.natAbs
  rw [toList_toString_int, minusOf, same]
  split
  · exact ⟨_, _, rfl, .inl rfl⟩
  · exact ⟨first, more, rfl, .inr ascii⟩

theorem visible_toString (number : Int) :
    Visible (toString number).toList := by
  have digits : Visible (Nat.toDigits 10 number.natAbs) := by
    intro digit member
    have ascii := isDigit_of_mem_toDigits member
    have bounds : 0x30 ≤ digit.toNat ∧ digit.toNat ≤ 0x39 := by
      simpa [Char.isDigit, UInt32.le_iff_toNat_le] using ascii
    omega
  rw [toList_toString_int, minusOf]
  split
  · exact digits.cons (by decide)
  · exact digits

end Integers

end RationalSimplex.JsonValue
