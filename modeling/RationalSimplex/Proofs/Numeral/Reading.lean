import RationalSimplex.Proofs.Numeral.Grammar
import RationalSimplex.Proofs.Text.Trimming

/-!
# Texts that read as numerals

No character of a numeral is blank.  The blanks that are taken off a text are
therefore those that the grammar allows around a numeral, and a text reads as
a numeral exactly when it writes it.  Integers allow fewer blanks.
-/

namespace RationalSimplex.Numeral

/-! ## Blanks -/

section Solid

/-- No character is blank. -/
def Solid (characters : List Char) : Prop :=
  ∀ character ∈ characters, ¬Text.isBlank character

variable {left right characters sign : List Char} {digits : List Nat}
  {character : Char} {digit : Nat} {negative : Bool} {exponent : Int}
  {numeral : Numeral}

theorem solid_nil : Solid [] :=
  List.forall_mem_nil _

theorem solid_cons :
    Solid (character :: characters) ↔
      ¬Text.isBlank character ∧ Solid characters :=
  List.forall_mem_cons

theorem Solid.append (leftSolid : Solid left) (rightSolid : Solid right) :
    Solid (left ++ right) :=
  List.forall_mem_append.mpr ⟨leftSolid, rightSolid⟩

theorem not_isBlank_of_mem_marks : ∀ mark ∈ marks, ¬Text.isBlank mark := by
  have all : marks.all fun mark => !Text.isBlank mark := by
    decide
  intro mark listed
  simpa using List.all_eq_true.mp all mark listed

theorem Solid.cons_mark (solid : Solid characters)
    (listed : character ∈ marks) :
    Solid (character :: characters) :=
  solid_cons.mpr ⟨not_isBlank_of_mem_marks character listed, solid⟩

theorem Solid.cons_digit (solid : Solid characters)
    (found : Text.digitValue? character = some digit) :
    Solid (character :: characters) :=
  solid_cons.mpr
    ⟨Text.not_isBlank_of_isDigit (isDigit_iff.mpr ⟨digit, found⟩), solid⟩

theorem WritesDigits.solid (writes : WritesDigits characters digits) :
    Solid characters := by
  induction writes with
  | last found => exact solid_nil.cons_digit found
  | digit found _ induction => exact induction.cons_digit found
  | underscore found _ induction =>
      exact (induction.cons_mark (by decide)).cons_digit found

theorem MayWriteDigits.solid (writes : MayWriteDigits characters digits) :
    Solid characters := by
  cases writes with
  | none => exact solid_nil
  | digits writes => exact writes.solid

theorem WritesSign.solid (writes : WritesSign sign negative) : Solid sign := by
  cases writes with
  | none => exact solid_nil
  | plus => exact solid_nil.cons_mark (by decide)
  | minus => exact solid_nil.cons_mark (by decide)

theorem WritesPlaces.solid (writes : WritesPlaces characters digits) :
    Solid characters := by
  cases writes with
  | none => exact solid_nil
  | point writes => exact writes.solid.cons_mark (by decide)

theorem WritesExponent.solid (writes : WritesExponent characters exponent) :
    Solid characters := by
  cases writes with
  | none => exact solid_nil
  | marked isMark signed writes =>
      have solid := signed.solid.append writes.solid
      rcases isMark with rfl | rfl
      · exact solid.cons_mark (by decide)
      · exact solid.cons_mark (by decide)

theorem WritesUnsigned.solid
    (writes : WritesUnsigned negative characters numeral) :
    Solid characters := by
  cases writes with
  | quotient above below =>
      exact above.solid.append (below.solid.cons_mark (by decide))
  | decimal whole places power _ =>
      exact (whole.solid.append places.solid).append power.solid

end Solid

/-! ## Numerals -/

section Reading

variable {characters : List Char} {negative : Bool} {numeral : Numeral}
  {number : Int}

theorem WritesUnsigned.isUnsigned
    (writes : WritesUnsigned negative characters numeral) :
    IsUnsigned characters := by
  cases writes with
  | quotient above _ => exact (above.startsNumber_append _).1.isUnsigned
  | decimal _ _ _ starts => exact starts.isUnsigned

/-- Text that reads as a numeral is text that writes it. -/
theorem ofText?_eq_some_iff :
    ofText? characters = some numeral ↔ Writes characters numeral := by
  constructor
  · intro read
    obtain ⟨before, after, same, blankBefore, blankAfter⟩ :=
      Text.exists_trimWhile Text.isBlank characters
    obtain ⟨sign, signed, sameInner⟩ :=
      exists_writesSign (Text.trimBlanks characters)
    rw [Text.trimBlanks] at sameInner
    rw [sameInner] at same
    rw [same]
    exact .intro blankBefore signed (writes_of_ofUnsigned? read) blankAfter
  · rintro ⟨blankBefore, signed, writes, blankAfter⟩
    unfold ofText?
    rw [Text.trimBlanks, Text.trimWhile_append blankBefore
      (signed.solid.append writes.solid) blankAfter,
      signed.takeSign_append writes.isUnsigned]
    exact ofUnsigned?_of_writes writes

/-- The blanks around integers. -/
def isSpace (character : Char) : Bool :=
  Text.isBlank character && !Text.isSeparator character

/-- An integer with its sign, between spaces. -/
inductive WritesInteger : List Char → Int → Prop where
  | intro {before sign body after : List Char} {negative : Bool}
      {digits : List Nat} :
      (∀ character ∈ before, isSpace character) →
      WritesSign sign negative → WritesDigits body digits →
      (∀ character ∈ after, isSpace character) →
      WritesInteger (before ++ (sign ++ body) ++ after)
        (integerOf negative digits)

theorem Solid.not_isSpace (solid : Solid characters) :
    ∀ character ∈ characters, ¬isSpace character := by
  intro character member space
  rw [isSpace, Bool.and_eq_true] at space
  exact solid character member space.1

theorem trimSpaces_eq (characters : List Char) :
    Text.trimSpaces characters = Text.trimWhile isSpace characters :=
  rfl

/-- Text that reads as an integer is text that writes it. -/
theorem integer?_eq_some_iff :
    integer? characters = some number ↔ WritesInteger characters number := by
  unfold integer?
  rw [trimSpaces_eq]
  constructor
  · intro read
    obtain ⟨before, after, same, spaceBefore, spaceAfter⟩ :=
      Text.exists_trimWhile isSpace characters
    generalize Text.trimWhile isSpace characters = inner at same read
    obtain ⟨sign, signed, sameInner⟩ := exists_writesSign inner
    cases took : takeSign inner with
    | mk negative rest =>
        simp only [took] at signed sameInner read
        split at read
        · cases read
        · next some =>
            simp only [List.isEmpty_iff, not_or, Decidable.not_not] at some
            obtain ⟨someDigits, ended⟩ := some
            have writes := takeDigits_eq_iff.mp
              ⟨Prod.ext rfl ended, someDigits⟩
            rw [same, sameInner, ← Option.some.inj read]
            exact .intro spaceBefore signed writes spaceAfter
  · rintro ⟨spaceBefore, signed, writes, spaceAfter⟩
    obtain ⟨took, someDigits⟩ := takeDigits_eq_iff.mpr writes
    rw [Text.trimWhile_append spaceBefore
      (signed.solid.append writes.solid).not_isSpace spaceAfter]
    simp only [signed.takeSign_append writes.isUnsigned, took]
    rw [if_neg (by simpa using someDigits)]
    rfl

end Reading

end RationalSimplex.Numeral
