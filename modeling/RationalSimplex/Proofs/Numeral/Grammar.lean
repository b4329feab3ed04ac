import RationalSimplex.Numeral

/-!
# The grammar of numerals

The relations below say which characters write which digits, signs, exponents
and numerals.  They do not say how to read them.  The readers take as many
characters as they can; since no part of a numeral can begin with a character
that could continue the part before it, they take what the grammar says.  Text
that reads as a numeral is therefore exactly text that writes one.
-/

namespace RationalSimplex.Numeral

/-! ## What is written -/

/-- Decimal digits of any script, with single underscores between them. -/
inductive WritesDigits : List Char → List Nat → Prop where
  | last {character : Char} {digit : Nat} :
      Text.digitValue? character = some digit →
      WritesDigits [character] [digit]
  | digit {character : Char} {digit : Nat} {characters : List Char}
      {digits : List Nat} :
      Text.digitValue? character = some digit →
      WritesDigits characters digits →
      WritesDigits (character :: characters) (digit :: digits)
  | underscore {character : Char} {digit : Nat} {characters : List Char}
      {digits : List Nat} :
      Text.digitValue? character = some digit →
      WritesDigits characters digits →
      WritesDigits (character :: '_' :: characters) (digit :: digits)

/-- Digits that may be left out. -/
inductive MayWriteDigits : List Char → List Nat → Prop where
  | none : MayWriteDigits [] []
  | digits {characters : List Char} {digits : List Nat} :
      WritesDigits characters digits → MayWriteDigits characters digits

/-- A sign that may be left out; `true` is a minus. -/
inductive WritesSign : List Char → Bool → Prop where
  | none : WritesSign [] false
  | plus : WritesSign ['+'] false
  | minus : WritesSign ['-'] true

/-- A point with the digits after it, all of which may be left out. -/
inductive WritesPlaces : List Char → List Nat → Prop where
  | none : WritesPlaces [] []
  | point {characters : List Char} {digits : List Nat} :
      MayWriteDigits characters digits →
      WritesPlaces ('.' :: characters) digits

/-- The integer with a sign and digits. -/
def integerOf (negative : Bool) (digits : List Nat) : Int :=
  if negative then -(ofDigits digits : Int) else ofDigits digits

/-- An exponent with its mark, which may be left out. -/
inductive WritesExponent : List Char → Int → Prop where
  | none : WritesExponent [] 0
  | marked {mark : Char} {sign characters : List Char} {negative : Bool}
      {digits : List Nat} :
      mark = 'e' ∨ mark = 'E' →
      WritesSign sign negative → WritesDigits characters digits →
      WritesExponent (mark :: (sign ++ characters)) (integerOf negative digits)

/-- The first character is a digit, or a point before a digit. -/
inductive StartsNumber : List Char → Prop where
  | digit {character : Char} {rest : List Char} :
      Text.isDigit character → StartsNumber (character :: rest)
  | point {character : Char} {rest : List Char} :
      Text.isDigit character → StartsNumber ('.' :: character :: rest)

/-- A numeral without its sign. -/
inductive WritesUnsigned (negative : Bool) : List Char → Numeral → Prop where
  | quotient {above below : List Char} {numerator denominator : List Nat} :
      WritesDigits above numerator → WritesDigits below denominator →
      WritesUnsigned negative (above ++ '/' :: below)
        (.quotient negative numerator denominator)
  | decimal {front places power : List Char} {whole fraction : List Nat}
      {exponent : Int} :
      MayWriteDigits front whole → WritesPlaces places fraction →
      WritesExponent power exponent → StartsNumber (front ++ places ++ power) →
      WritesUnsigned negative (front ++ places ++ power)
        (.decimal negative whole fraction exponent)

/-- A numeral with its sign, between blanks. -/
inductive Writes : List Char → Numeral → Prop where
  | intro {before sign body after : List Char} {negative : Bool}
      {numeral : Numeral} :
      (∀ character ∈ before, Text.isBlank character) →
      WritesSign sign negative → WritesUnsigned negative body numeral →
      (∀ character ∈ after, Text.isBlank character) →
      Writes (before ++ (sign ++ body) ++ after) numeral

/-! ## Digits -/

section Digits

variable {characters rest : List Char} {digits : List Nat} {character : Char}
  {digit : Nat}

/-- The characters of numerals that are no digits. -/
def marks : List Char :=
  ['+', '-', '.', '_', '/', 'e', 'E']

theorem digitValue?_of_mem_marks :
    ∀ mark ∈ marks, Text.digitValue? mark = none := by
  have all : marks.all fun mark => (Text.digitValue? mark).isNone := by
    decide +kernel
  intro mark listed
  exact Option.isNone_iff_eq_none.mp (List.all_eq_true.mp all mark listed)

theorem not_mem_marks (found : Text.digitValue? character = some digit) :
    character ∉ marks := by
  intro listed
  rw [digitValue?_of_mem_marks character listed] at found
  cases found

theorem ne_of_mem_marks (found : Text.digitValue? character = some digit)
    {mark : Char} (listed : mark ∈ marks) : character ≠ mark := by
  rintro rfl
  exact not_mem_marks found listed

theorem ne_underscore (found : Text.digitValue? character = some digit) :
    character ≠ '_' :=
  ne_of_mem_marks found (by decide)

theorem isDigit_iff :
    Text.isDigit character ↔ ∃ digit, Text.digitValue? character = some digit :=
  Option.isSome_iff_exists

theorem continueDigits_cons (found : Text.digitValue? character = some digit)
    (rest : List Char) :
    continueDigits (character :: rest) =
      (digit :: (continueDigits rest).1, (continueDigits rest).2) := by
  rw [continueDigits.eq_2 character rest
    (fun _ _ same => absurd same (ne_underscore found)), found]

theorem continueDigits_underscore
    (found : Text.digitValue? character = some digit) (rest : List Char) :
    continueDigits ('_' :: character :: rest) =
      (digit :: (continueDigits rest).1, (continueDigits rest).2) := by
  rw [continueDigits.eq_1, found]

theorem takeDigits_cons (found : Text.digitValue? character = some digit)
    (rest : List Char) :
    takeDigits (character :: rest) =
      (digit :: (continueDigits rest).1, (continueDigits rest).2) := by
  rw [takeDigits, found]

/-- No digit and no underscore stands in front. -/
def StopsDigits (characters : List Char) : Prop :=
  ∀ character ∈ characters.head?,
    Text.digitValue? character = none ∧ character ≠ '_'

theorem StopsDigits.continueDigits_eq (stops : StopsDigits rest) :
    continueDigits rest = ([], rest) := by
  cases rest with
  | nil => rfl
  | cons first rest =>
      obtain ⟨noDigit, different⟩ := stops first rfl
      rw [continueDigits.eq_2 first rest
        (fun _ _ same => absurd same different), noDigit]

theorem StopsDigits.takeDigits_eq (stops : StopsDigits rest) :
    takeDigits rest = ([], rest) := by
  cases rest with
  | nil => rfl
  | cons first rest =>
      obtain ⟨noDigit, _⟩ := stops first rfl
      rw [takeDigits, noDigit]

theorem WritesDigits.ne_nil (writes : WritesDigits characters digits) :
    digits ≠ [] := by
  cases writes <;> exact List.cons_ne_nil _ _

theorem WritesDigits.exists_cons (writes : WritesDigits characters digits) :
    ∃ character digit rest, Text.digitValue? character = some digit ∧
      characters = character :: rest := by
  cases writes with
  | last found => exact ⟨_, _, _, found, rfl⟩
  | digit found _ => exact ⟨_, _, _, found, rfl⟩
  | underscore found _ => exact ⟨_, _, _, found, rfl⟩

/-- Digits go on in the same way behind an underscore. -/
theorem WritesDigits.continueDigits_underscore
    (writes : WritesDigits characters digits) (rest : List Char) :
    continueDigits ('_' :: (characters ++ rest)) =
      continueDigits (characters ++ rest) := by
  obtain ⟨character, digit, tail, found, rfl⟩ := writes.exists_cons
  rw [List.cons_append, Numeral.continueDigits_underscore found,
    continueDigits_cons found]

theorem WritesDigits.continueDigits_append
    (writes : WritesDigits characters digits) (stops : StopsDigits rest) :
    continueDigits (characters ++ rest) = (digits, rest) := by
  induction writes with
  | last found =>
      rw [List.singleton_append, continueDigits_cons found,
        stops.continueDigits_eq]
  | digit found _ induction =>
      rw [List.cons_append, continueDigits_cons found, induction]
  | underscore found tail induction =>
      rw [List.cons_append, List.cons_append, continueDigits_cons found,
        tail.continueDigits_underscore, induction]

/-- All digits that are written are taken, and no more. -/
theorem WritesDigits.takeDigits_append
    (writes : WritesDigits characters digits) (stops : StopsDigits rest) :
    takeDigits (characters ++ rest) = (digits, rest) := by
  have continued := writes.continueDigits_append stops
  obtain ⟨character, digit, tail, found, rfl⟩ := writes.exists_cons
  rw [List.cons_append] at continued ⊢
  rw [takeDigits_cons found, ← continueDigits_cons found, continued]

/-- A digit and what continues it are digits. -/
theorem exists_writesDigits_cons
    (found : Text.digitValue? character = some digit)
    (continued : continueDigits rest = ([], rest) ∨
      ∃ taken, WritesDigits taken (continueDigits rest).1 ∧
        (rest = taken ++ (continueDigits rest).2 ∨
          rest = '_' :: (taken ++ (continueDigits rest).2))) :
    ∃ taken, WritesDigits taken (digit :: (continueDigits rest).1) ∧
      character :: rest = taken ++ (continueDigits rest).2 := by
  rcases continued with stopped | ⟨taken, writes, same | same⟩
  · rw [stopped]
    exact ⟨[character], .last found, rfl⟩
  · exact ⟨character :: taken, .digit found writes,
      congrArg (character :: ·) same⟩
  · exact ⟨character :: '_' :: taken, .underscore found writes,
      congrArg (character :: ·) same⟩

theorem continueDigits_cases (characters : List Char) :
    continueDigits characters = ([], characters) ∨
      ∃ taken, WritesDigits taken (continueDigits characters).1 ∧
        (characters = taken ++ (continueDigits characters).2 ∨
          characters = '_' :: (taken ++ (continueDigits characters).2)) := by
  induction characters using continueDigits.induct with
  | case1 character rest digit found induction =>
      obtain ⟨taken, writes, same⟩ := exists_writesDigits_cons found induction
      rw [continueDigits_underscore found]
      exact .inr ⟨taken, writes, .inr (congrArg ('_' :: ·) same)⟩
  | case2 character rest missing =>
      left
      rw [continueDigits.eq_1, missing]
  | case3 character rest different digit found induction =>
      obtain ⟨taken, writes, same⟩ := exists_writesDigits_cons found induction
      rw [continueDigits_cons found]
      exact .inr ⟨taken, writes, .inl same⟩
  | case4 character rest different missing =>
      left
      rw [continueDigits.eq_2 character rest different, missing]
  | case5 => exact .inl rfl

/-- What is taken is nothing, or digits that are written in front. -/
theorem exists_mayWriteDigits (characters : List Char) :
    ∃ taken, MayWriteDigits taken (takeDigits characters).1 ∧
      characters = taken ++ (takeDigits characters).2 := by
  cases characters with
  | nil => exact ⟨[], .none, rfl⟩
  | cons character rest =>
      cases found : Text.digitValue? character with
      | none =>
          rw [takeDigits, found]
          exact ⟨[], .none, rfl⟩
      | some digit =>
          obtain ⟨taken, writes, same⟩ :=
            exists_writesDigits_cons found (continueDigits_cases rest)
          rw [takeDigits_cons found]
          exact ⟨taken, .digits writes, same⟩

theorem MayWriteDigits.takeDigits_append
    (writes : MayWriteDigits characters digits) (stops : StopsDigits rest) :
    takeDigits (characters ++ rest) = (digits, rest) := by
  cases writes with
  | none => exact stops.takeDigits_eq
  | digits writes => exact writes.takeDigits_append stops

theorem MayWriteDigits.writesDigits
    (writes : MayWriteDigits characters digits) (some : digits ≠ []) :
    WritesDigits characters digits := by
  cases writes with
  | none => exact absurd rfl some
  | digits writes => exact writes

theorem MayWriteDigits.eq_nil (writes : MayWriteDigits characters []) :
    characters = [] := by
  cases writes with
  | none => rfl
  | digits writes => exact absurd rfl writes.ne_nil

theorem stopsDigits_nil : StopsDigits [] :=
  fun _ member => nomatch member

theorem stopsDigits_cons (listed : character ∈ marks)
    (different : character ≠ '_') (rest : List Char) :
    StopsDigits (character :: rest) := by
  intro first member
  obtain rfl := Option.some.inj member
  exact ⟨digitValue?_of_mem_marks _ listed, different⟩

theorem takeDigits_eq_iff :
    takeDigits characters = (digits, []) ∧ digits ≠ [] ↔
      WritesDigits characters digits := by
  constructor
  · rintro ⟨took, some⟩
    obtain ⟨taken, writes, same⟩ := exists_mayWriteDigits characters
    rw [took] at writes same
    rw [same, List.append_nil]
    exact writes.writesDigits some
  · intro writes
    have took := writes.takeDigits_append stopsDigits_nil
    rw [List.append_nil] at took
    exact ⟨took, writes.ne_nil⟩

end Digits

/-! ## Signs and exponents -/

section Exponents

variable {characters sign rest : List Char} {digits : List Nat}
  {negative : Bool} {exponent : Int}

/-- No sign stands in front. -/
def IsUnsigned (characters : List Char) : Prop :=
  ∀ character ∈ characters.head?, character ≠ '-' ∧ character ≠ '+'

theorem WritesDigits.startsNumber_append
    (writes : WritesDigits characters digits) (rest : List Char) :
    StartsNumber (characters ++ rest) ∧
      StartsNumber ('.' :: (characters ++ rest)) := by
  obtain ⟨character, digit, tail, found, rfl⟩ := writes.exists_cons
  have isDigit := isDigit_iff.mpr ⟨digit, found⟩
  exact ⟨.digit isDigit, .point isDigit⟩

theorem StartsNumber.isUnsigned (starts : StartsNumber characters) :
    IsUnsigned characters := by
  intro first member
  cases starts with
  | digit isDigit =>
      obtain ⟨digit, found⟩ := isDigit_iff.mp isDigit
      obtain rfl := Option.some.inj member
      exact ⟨ne_of_mem_marks found (by decide),
        ne_of_mem_marks found (by decide)⟩
  | point _ =>
      obtain rfl := Option.some.inj member
      decide

theorem WritesDigits.isUnsigned (writes : WritesDigits characters digits) :
    IsUnsigned characters := by
  have starts := (writes.startsNumber_append []).1
  rw [List.append_nil] at starts
  exact starts.isUnsigned

theorem IsUnsigned.takeSign_eq (unsigned : IsUnsigned rest) :
    takeSign rest = (false, rest) := by
  cases rest with
  | nil => rfl
  | cons first rest =>
      obtain ⟨notMinus, notPlus⟩ := unsigned first rfl
      unfold takeSign
      split
      · next same => exact absurd (List.cons.inj same).1 notMinus
      · next same => exact absurd (List.cons.inj same).1 notPlus
      · rfl

theorem WritesSign.takeSign_append (writes : WritesSign sign negative)
    (unsigned : IsUnsigned rest) :
    takeSign (sign ++ rest) = (negative, rest) := by
  cases writes with
  | none => exact unsigned.takeSign_eq
  | plus => rfl
  | minus => rfl

theorem exists_writesSign (characters : List Char) :
    ∃ sign, WritesSign sign (takeSign characters).1 ∧
      characters = sign ++ (takeSign characters).2 := by
  unfold takeSign
  split
  · exact ⟨['-'], .minus, rfl⟩
  · exact ⟨['+'], .plus, rfl⟩
  · exact ⟨[], .none, rfl⟩

theorem takeExponent_eq_some_iff :
    takeExponent characters = some (exponent, []) ↔
      WritesExponent characters exponent := by
  constructor
  · intro took
    unfold takeExponent at took
    split at took
    · next mark rest =>
        split at took
        · next isMark =>
            obtain ⟨sign, signed, same⟩ := exists_writesSign rest
            simp only at took
            split at took
            · cases took
            · next some =>
                obtain ⟨value, ended⟩ := Prod.mk.inj (Option.some.inj took)
                have writes := takeDigits_eq_iff.mp
                  ⟨Prod.ext rfl ended, by simpa using some⟩
                rw [same, ← value]
                exact .marked isMark signed writes
        · cases took
    · cases took
      exact .none
  · intro writes
    cases writes with
    | none => rfl
    | marked isMark signed writes =>
        obtain ⟨took, some⟩ := takeDigits_eq_iff.mpr writes
        unfold takeExponent
        simp only [isMark, if_true,
          signed.takeSign_append writes.isUnsigned, took]
        rw [if_neg (by simpa using some)]
        rfl

theorem WritesExponent.marked_of_mem
    (writes : WritesExponent characters exponent)
    {mark : Char} (member : mark ∈ characters.head?) :
    mark = 'e' ∨ mark = 'E' := by
  cases writes with
  | none => cases member
  | marked isMark _ _ =>
      obtain rfl := Option.some.inj member
      exact isMark

theorem WritesExponent.stopsDigits
    (writes : WritesExponent characters exponent) :
    StopsDigits characters := by
  intro mark member
  rcases writes.marked_of_mem member with rfl | rfl
  · exact ⟨digitValue?_of_mem_marks _ (by decide), by decide⟩
  · exact ⟨digitValue?_of_mem_marks _ (by decide), by decide⟩

end Exponents

/-! ## Numerals -/

section Numerals

variable {characters rest power : List Char} {digits : List Nat}
  {exponent : Int} {negative : Bool} {numeral : Numeral}

theorem WritesExponent.not_startsNumber
    (writes : WritesExponent characters exponent) :
    ¬StartsNumber characters ∧ ¬StartsNumber ('.' :: characters) := by
  have noDigit : ∀ {character : Char} {rest : List Char},
      characters = character :: rest → ¬Text.isDigit character := by
    rintro character rest rfl isDigit
    obtain ⟨digit, found⟩ := isDigit_iff.mp isDigit
    rw [(writes.stopsDigits character rfl).1] at found
    cases found
  constructor
  · intro starts
    cases starts with
    | digit isDigit => exact noDigit rfl isDigit
    | point isDigit =>
        rcases writes.marked_of_mem rfl with same | same <;> cases same
  · intro starts
    cases starts with
    | digit isDigit =>
        obtain ⟨digit, found⟩ := isDigit_iff.mp isDigit
        exact absurd (by decide) (not_mem_marks found)
    | point isDigit => exact noDigit rfl isDigit

theorem WritesPlaces.stopsDigits_append {places : List Char}
    (writes : WritesPlaces places digits)
    (powerWrites : WritesExponent power exponent) :
    StopsDigits (places ++ power) := by
  cases writes with
  | none => exact powerWrites.stopsDigits
  | point _ => exact stopsDigits_cons (by decide) (by decide) _

/-- Where the digits in front are known, what comes next decides how to go
on. -/
theorem ofUnsigned?_of_exponent {whole : List Nat}
    (took : takeDigits characters = (whole, power)) (some : whole ≠ [])
    (powerWrites : WritesExponent power exponent) :
    ofUnsigned? negative characters =
      .some (.decimal negative whole [] exponent) := by
  have noWhole : ¬whole.isEmpty := by simpa using some
  unfold ofUnsigned?
  simp only [took]
  split
  · next same =>
      rcases powerWrites.marked_of_mem rfl with mark | mark <;> cases mark
  · next same =>
      rcases powerWrites.marked_of_mem rfl with mark | mark <;> cases mark
  · rw [if_neg noWhole, takeExponent_eq_some_iff.mpr powerWrites]

theorem ofUnsigned?_of_places {whole fraction : List Nat}
    (took : takeDigits characters = (whole, '.' :: rest))
    (tookPlaces : takeDigits rest = (fraction, power))
    (some : ¬(whole = [] ∧ fraction = []))
    (powerWrites : WritesExponent power exponent) :
    ofUnsigned? negative characters =
      .some (.decimal negative whole fraction exponent) := by
  unfold ofUnsigned?
  simp only [took, tookPlaces, List.isEmpty_iff, if_neg some,
    takeExponent_eq_some_iff.mpr powerWrites]

theorem ofUnsigned?_of_writes
    (writes : WritesUnsigned negative characters numeral) :
    ofUnsigned? negative characters = some numeral := by
  cases writes with
  | @quotient above below numerator denominator aboveWrites belowWrites =>
      have stops : StopsDigits ('/' :: below) :=
        stopsDigits_cons (by decide) (by decide) below
      obtain ⟨tookBelow, some⟩ := takeDigits_eq_iff.mpr belowWrites
      unfold ofUnsigned?
      simp only [aboveWrites.takeDigits_append stops, tookBelow]
      rw [if_neg (by simp [aboveWrites.ne_nil, some])]
  | @decimal front places power whole fraction exponent wholeWrites
      placesWrites powerWrites starts =>
      have took := wholeWrites.takeDigits_append
        (placesWrites.stopsDigits_append powerWrites)
      rw [List.append_assoc] at starts ⊢
      cases placesWrites with
      | none =>
          refine ofUnsigned?_of_exponent took ?_ powerWrites
          rintro rfl
          rw [wholeWrites.eq_nil] at starts
          exact powerWrites.not_startsNumber.1 starts
      | point fractionWrites =>
          refine ofUnsigned?_of_places took
            (fractionWrites.takeDigits_append powerWrites.stopsDigits) ?_
            powerWrites
          rintro ⟨rfl, rfl⟩
          rw [wholeWrites.eq_nil, fractionWrites.eq_nil] at starts
          exact powerWrites.not_startsNumber.2 starts

theorem writesUnsigned_of_exponent {front : List Char} {whole : List Nat}
    (wholeWrites : WritesDigits front whole)
    (powerWrites : WritesExponent power exponent) :
    WritesUnsigned negative (front ++ power)
      (.decimal negative whole [] exponent) := by
  have starts := (wholeWrites.startsNumber_append power).1
  rw [← List.append_nil front] at starts ⊢
  exact .decimal (.digits wholeWrites) .none powerWrites starts

theorem writesUnsigned_of_places {front places : List Char}
    {whole fraction : List Nat} (wholeWrites : MayWriteDigits front whole)
    (fractionWrites : MayWriteDigits places fraction)
    (powerWrites : WritesExponent power exponent)
    (some : ¬(whole = [] ∧ fraction = [])) :
    WritesUnsigned negative (front ++ '.' :: (places ++ power))
      (.decimal negative whole fraction exponent) := by
  have grouped : front ++ '.' :: (places ++ power) =
      front ++ ('.' :: places) ++ power := by
    rw [List.append_assoc, List.cons_append]
  have starts : StartsNumber (front ++ '.' :: (places ++ power)) := by
    cases wholeWrites with
    | none =>
        have someFraction : fraction ≠ [] := fun none => some ⟨rfl, none⟩
        exact ((fractionWrites.writesDigits someFraction).startsNumber_append
          power).2
    | digits writes => exact (writes.startsNumber_append _).1
  rw [grouped] at starts ⊢
  exact .decimal wholeWrites (.point fractionWrites) powerWrites starts

theorem writes_of_ofUnsigned?
    (read : ofUnsigned? negative characters = some numeral) :
    WritesUnsigned negative characters numeral := by
  obtain ⟨front, wholeWrites, same⟩ := exists_mayWriteDigits characters
  cases took : takeDigits characters with
  | mk whole remaining =>
      rw [took] at wholeWrites same
      simp only at wholeWrites same
      subst same
      unfold ofUnsigned? at read
      simp only [took] at read
      split at read
      · next below =>
          split at read
          · cases read
          · next some =>
              simp only [List.isEmpty_iff, not_or, Decidable.not_not] at some
              obtain ⟨someAbove, someBelow, ended⟩ := some
              cases read
              exact .quotient (wholeWrites.writesDigits someAbove)
                (takeDigits_eq_iff.mp ⟨Prod.ext rfl ended, someBelow⟩)
      · next rest =>
          obtain ⟨places, fractionWrites, sameRest⟩ :=
            exists_mayWriteDigits rest
          split at read
          · cases read
          · next some =>
              split at read
              · next exponent tookPower =>
                  have powerWrites := takeExponent_eq_some_iff.mp tookPower
                  have writes : WritesUnsigned negative
                      (front ++ '.' :: (places ++ (takeDigits rest).2)) _ :=
                    writesUnsigned_of_places wholeWrites fractionWrites
                      powerWrites (by simpa using some)
                  rw [← sameRest] at writes
                  cases read
                  exact writes
              · cases read
      · split at read
        · cases read
        · next some =>
            split at read
            · next exponent tookPower =>
                have powerWrites := takeExponent_eq_some_iff.mp tookPower
                cases read
                exact writesUnsigned_of_exponent
                  (wholeWrites.writesDigits (by simpa using some)) powerWrites
            · cases read

end Numerals

end RationalSimplex.Numeral
