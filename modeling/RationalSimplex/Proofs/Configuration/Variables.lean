import RationalSimplex.Configuration.Load
import RationalSimplex.Proofs.Numeral.Reading
import RationalSimplex.Proofs.Success

/-!
# Lists of variables

A configuration names variables by their numbers, which start at one.  The
numbers stand in a list, or as words in a text, or a word stands for all
variables.  The relations below say which values name which variables; the
loader succeeds at exactly these values.
-/

namespace RationalSimplex.Configuration

/-! ## Words -/

/-- A comma or a blank stands between words. -/
def isGap (character : Char) : Bool :=
  character = ',' || Text.isBlank character

/-- The words between the gaps of a text. -/
inductive HasWords : List Char → List (List Char) → Prop where
  | none : HasWords [] []
  | gap {character : Char} {rest : List Char} {words : List (List Char)} :
      isGap character → HasWords rest words →
      HasWords (character :: rest) words
  | last {word : List Char} :
      word ≠ [] → (∀ character ∈ word, ¬isGap character) →
      HasWords word [word]
  | word {word : List Char} {character : Char} {rest : List Char}
      {words : List (List Char)} :
      word ≠ [] → (∀ character ∈ word, ¬isGap character) →
      isGap character → HasWords rest words →
      HasWords (word ++ character :: rest) (word :: words)

section Words

variable {character : Char} {characters word rest : List Char}
  {words : List (List Char)}

/-- A comma becomes a blank. -/
def spaced (character : Char) : Char :=
  if character = ',' then ' ' else character

@[simp] theorem isBlank_spaced (character : Char) :
    Text.isBlank (spaced character) = isGap character := by
  unfold spaced isGap
  by_cases comma : character = ','
  · simp only [comma, if_true]
    decide
  · simp [comma]

theorem spaced_eq (notGap : ¬isGap character) :
    spaced character = character := by
  have notComma : character ≠ ',' := by
    rintro rfl
    exact notGap (by decide)
  exact if_neg notComma

variable {begun : List Char}

theorem splitBlanks_gap (begun : List Char) (gap : isGap character)
    (rest : List Char) :
    Text.splitBlanks begun ((character :: rest).map spaced) =
      if begun.isEmpty then Text.splitBlanks [] (rest.map spaced)
      else begun.reverse :: Text.splitBlanks [] (rest.map spaced) := by
  rw [List.map_cons, Text.splitBlanks, isBlank_spaced, if_pos gap]

theorem splitBlanks_letters (solid : ∀ character ∈ word, ¬isGap character)
    (begun rest : List Char) :
    Text.splitBlanks begun ((word ++ rest).map spaced) =
      Text.splitBlanks (word.reverse ++ begun) (rest.map spaced) := by
  induction word generalizing begun with
  | nil => rfl
  | cons first word induction =>
      obtain ⟨notGap, solidWord⟩ := List.forall_mem_cons.mp solid
      rw [List.cons_append, List.map_cons, Text.splitBlanks, isBlank_spaced,
        if_neg notGap, spaced_eq notGap, induction solidWord,
        List.reverse_cons, List.append_assoc, List.singleton_append]

theorem HasWords.splitBlanks_eq (hasWords : HasWords characters words) :
    Text.splitBlanks [] (characters.map spaced) = words := by
  induction hasWords with
  | none => rfl
  | gap gap _ induction =>
      rw [splitBlanks_gap [] gap, induction]
      rfl
  | @last word nonempty solid =>
      have letters := splitBlanks_letters solid [] []
      rw [List.append_nil] at letters
      rw [letters]
      simp [Text.splitBlanks, nonempty]
  | word nonempty solid gap _ induction =>
      rw [splitBlanks_letters solid, splitBlanks_gap _ gap, induction]
      simp [nonempty]

/-- The word that has begun goes on up to the next gap. -/
theorem hasWords_splitBlanks (solid : ∀ character ∈ begun, ¬isGap character)
    (characters : List Char) :
    HasWords (begun.reverse ++ characters)
      (Text.splitBlanks begun (characters.map spaced)) := by
  have solidReversed : ∀ {letters : List Char},
      (∀ character ∈ letters, ¬isGap character) →
      ∀ character ∈ letters.reverse, ¬isGap character :=
    fun solid character member => solid character (List.mem_reverse.mp member)
  induction characters generalizing begun with
  | nil =>
      cases begun with
      | nil => exact .none
      | cons last begun =>
          rw [List.append_nil]
          exact .last (by simp) (solidReversed solid)
  | cons character characters induction =>
      by_cases gap : isGap character
      · have hasRest := induction (List.forall_mem_nil _)
        rw [splitBlanks_gap begun gap]
        cases begun with
        | nil => exact .gap gap hasRest
        | cons last begun =>
            exact .word (by simp) (solidReversed solid) gap hasRest
      · have hasMore := induction (List.forall_mem_cons.mpr ⟨gap, solid⟩)
        have notGap : ∀ letter ∈ [character], ¬isGap letter := by
          simpa using gap
        have letters := splitBlanks_letters notGap begun characters
        rw [List.singleton_append] at letters
        rw [letters]
        simpa using hasMore

/-- The words of a text after commas have become blanks. -/
theorem words_commasToBlanks (text : String) :
    Text.words (commasToBlanks text) =
      (Text.splitBlanks [] (text.toList.map spaced)).map String.ofList := by
  rw [Text.words, commasToBlanks, String.toList_ofList]
  rfl

end Words

/-! ## Variables -/

/-- The text of a value that counts as a text. -/
inductive IsText : Value → String → Prop where
  | text (characters : String) : IsText (.text characters) characters
  | status (result : Status) : IsText (.status result) result.word

/-- The integer that an item is or writes; a truth value is none. -/
inductive IsInteger : Value → Int → Prop where
  | integer (number : Int) : IsInteger (.integer number) number
  | text {item : Value} {text : String} {number : Int} :
      IsText item text → Numeral.WritesInteger text.toList number →
      IsInteger item number

/-- The number of a variable is one more than its index. -/
def IsVariable (width : Nat) (item : Value) (index : Nat) : Prop :=
  index < width ∧ IsInteger item (index + 1)

/-- Every item is the number of a variable, and these are the variables. -/
def AreVariables (width : Nat) (items : List Value) (chosen : IndexSet) :
    Prop :=
  ∃ indices, List.Forall₂ (IsVariable width) items indices ∧
    ∀ index, index ∈ chosen ↔ index ∈ indices

/-- The word for all variables, without regard to blanks around it and
capitals. -/
def IsAll (text : String) : Prop :=
  Text.lowerCase (Text.trim text) = "all"

/-- The variables that a text names. -/
inductive NamesInText (width : Nat) (text : String) : IndexSet → Prop where
  | all : IsAll text → NamesInText width text (.below width)
  | words {words : List (List Char)} {chosen : IndexSet} :
      ¬IsAll text → HasWords text.toList words →
      AreVariables width (words.map fun word => .text (String.ofList word))
        chosen →
      NamesInText width text chosen

/-- The variables that a value names. -/
inductive NamesVariables (width : Nat) : Value → IndexSet → Prop where
  | null : NamesVariables width .null .empty
  | integer {number : Int} {chosen : IndexSet} :
      AreVariables width [.integer number] chosen →
      NamesVariables width (.integer number) chosen
  | text {value : Value} {text : String} {chosen : IndexSet} :
      IsText value text → NamesInText width text chosen →
      NamesVariables width value chosen
  | list {value : Value} {items : List Value} {chosen : IndexSet} :
      listItems? value = some items → AreVariables width items chosen →
      NamesVariables width value chosen

section Variables

variable {name text : String} {width index : Nat} {item value : Value}
  {number : Int} {items : List Value} {chosen : IndexSet}

theorem loadInteger_eq_ok_iff :
    loadInteger name item = .ok number ↔ IsInteger item number := by
  constructor
  · intro loaded
    unfold loadInteger at loaded
    cases item with
    | integer number =>
        cases loaded
        exact .integer number
    | text characters =>
        cases read : Numeral.integer? characters.toList with
        | none => simp [read] at loaded
        | some number =>
            simp only [read, Except.ok.injEq] at loaded
            exact .text (.text characters)
              (Numeral.integer?_eq_some_iff.mp (loaded ▸ read))
    | status result =>
        cases read : Numeral.integer? result.word.toList with
        | none => simp [read] at loaded
        | some number =>
            simp only [read, Except.ok.injEq] at loaded
            exact .text (.status result)
              (Numeral.integer?_eq_some_iff.mp (loaded ▸ read))
    | _ => cases loaded
  · intro isInteger
    cases isInteger with
    | integer => rfl
    | text isText writes =>
        have read := Numeral.integer?_eq_some_iff.mpr writes
        cases isText with
        | text => simp only [loadInteger, read]
        | status => simp only [loadInteger, read]

theorem loadVariable_eq_ok_iff :
    loadVariable name width item = .ok index ↔ IsVariable width item index := by
  unfold loadVariable IsVariable
  rw [bind_eq_ok_iff]
  simp only [loadInteger_eq_ok_iff]
  constructor
  · rintro ⟨number, isInteger, checked⟩
    by_cases small : number < 1
    · rw [if_pos small] at checked
      cases checked
    · by_cases large : (width : Int) < number
      · rw [if_neg small, if_pos large] at checked
        cases checked
      · rw [if_neg small, if_neg large] at checked
        obtain rfl : (number - 1).toNat = index := Except.ok.inj checked
        have same : ((number - 1).toNat : Int) + 1 = number := by omega
        rw [same]
        exact ⟨by omega, isInteger⟩
  · rintro ⟨inside, isInteger⟩
    refine ⟨_, isInteger, ?_⟩
    have notSmall : ¬(index : Int) + 1 < 1 := by omega
    have notLarge : ¬(width : Int) < index + 1 := by omega
    rw [if_neg notSmall, if_neg notLarge]
    simp

/-- Items are loaded one after the other, and all at once into a set. -/
theorem ofList_of_mapM_eq_ok_iff :
    (items.mapM (loadVariable name width) >>= fun found =>
        .ok (IndexSet.ofList found)) = .ok chosen ↔
      AreVariables width items chosen := by
  unfold AreVariables
  simp only [bind_eq_ok_iff, mapM_eq_ok_iff, loadVariable_eq_ok_iff]
  constructor
  · rintro ⟨indices, named, same⟩
    obtain rfl := Except.ok.inj same
    exact ⟨indices, named, fun _ => IndexSet.mem_ofList⟩
  · rintro ⟨indices, named, mem_iff⟩
    refine ⟨indices, named, congrArg Except.ok ?_⟩
    apply IndexSet.eq_of_mem_iff
    intro index
    rw [IndexSet.mem_ofList, mem_iff]

theorem hasWords_iff {characters : List Char} {words : List (List Char)} :
    HasWords characters words ↔
      Text.splitBlanks [] (characters.map spaced) = words := by
  constructor
  · exact HasWords.splitBlanks_eq
  · rintro rfl
    exact hasWords_splitBlanks (List.forall_mem_nil _) characters

theorem mapM_texts (words : List (List Char)) :
    ((words.map String.ofList).mapM fun word =>
        loadVariable name width (.text word)) =
      (words.map fun word => Value.text (String.ofList word)).mapM
        (loadVariable name width) := by
  rw [List.mapM_map, List.mapM_map]
  rfl

theorem readVariables_eq_ok_iff :
    readVariables name width text = .ok chosen ↔
      NamesInText width text chosen := by
  unfold readVariables
  by_cases isAll : Text.lowerCase (Text.trim text) = "all"
  · rw [if_pos isAll]
    constructor
    · intro same
      cases same
      exact .all isAll
    · intro names
      cases names with
      | all => rfl
      | words notAll => exact absurd isAll notAll
  · rw [if_neg isAll, words_commasToBlanks, mapM_texts]
    change _ >>= (fun found => Except.ok (IndexSet.ofList found)) = _ ↔ _
    rw [ofList_of_mapM_eq_ok_iff]
    constructor
    · exact .words isAll (hasWords_iff.mpr rfl)
    · intro names
      cases names with
      | all written => exact absurd written isAll
      | words _ hasWords are =>
          rw [hasWords_iff.mp hasWords]
          exact are

theorem loadVariables_integer :
    loadVariables name width (.integer number) =
      ([Value.integer number].mapM (loadVariable name width) >>= fun found =>
        .ok (IndexSet.ofList found)) := by
  rw [List.mapM_cons, List.mapM_nil]
  simp only [loadVariables]
  cases loadVariable name width (.integer number) with
  | error fault => rfl
  | ok index => rfl

theorem loadVariables_eq_ok_iff :
    loadVariables name width value = .ok chosen ↔
      NamesVariables width value chosen := by
  constructor
  · intro loaded
    cases value with
    | null =>
        cases loaded
        exact .null
    | integer number =>
        rw [loadVariables_integer] at loaded
        exact .integer (ofList_of_mapM_eq_ok_iff.mp loaded)
    | text characters =>
        exact .text (.text characters) (readVariables_eq_ok_iff.mp loaded)
    | status result =>
        exact .text (.status result) (readVariables_eq_ok_iff.mp loaded)
    | list items => exact .list rfl (ofList_of_mapM_eq_ok_iff.mp loaded)
    | tuple items => exact .list rfl (ofList_of_mapM_eq_ok_iff.mp loaded)
    | _ => cases loaded
  · intro names
    cases names with
    | null => rfl
    | integer are =>
        rw [loadVariables_integer]
        exact ofList_of_mapM_eq_ok_iff.mpr are
    | text isText names =>
        cases isText with
        | text => exact readVariables_eq_ok_iff.mpr names
        | status => exact readVariables_eq_ok_iff.mpr names
    | list listed are =>
        unfold listItems? at listed
        split at listed
        · cases listed
          exact ofList_of_mapM_eq_ok_iff.mpr are
        · cases listed
          exact ofList_of_mapM_eq_ok_iff.mpr are
        · cases listed

end Variables

end RationalSimplex.Configuration
