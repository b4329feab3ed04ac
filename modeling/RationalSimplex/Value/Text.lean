import RationalSimplex.Decimal.Conversion
import RationalSimplex.Numeral
import RationalSimplex.Text.Quoted
import RationalSimplex.Value.ArrayText

/-!
# Texts of values

A message shows a value so that its kind can be seen: texts stand in quotes,
fractions and named values carry their name.  The plain text of a value differs
only in that a text stands for itself, a fraction is written as a number, and a
named value by its name alone.
-/

namespace RationalSimplex.Value

/-- The words for doubles that are not finite, as messages show them. -/
def messageWords : DoubleWords := ⟨"nan", "inf"⟩

/-- The number of an entry. -/
def entryText (storage : Storage) (number : Int) : String :=
  match storage, nearestDouble? (number : Rat) with
  | .double, some nearest => doubleText messageWords nearest
  | _, _ => toString number

mutual

/-- The value as messages show it. -/
def shown : Value → String
  | .null => "None"
  | .boolean truth => if truth then "True" else "False"
  | .integer number => toString number
  | .double number => doubleText messageWords number
  | .text characters => Text.quoted characters
  | .fraction number =>
      "Fraction(" ++ toString number.num ++ ", " ++ toString number.den ++ ")"
  | .relation sign => "<Relation." ++ sign.label ++ ": '" ++ sign.symbol ++ "'>"
  | .status result =>
      "<SolveStatus." ++ result.label ++ ": '" ++ result.word ++ "'>"
  | .list items => "[" ++ ", ".intercalate (shownItems items) ++ "]"
  | .tuple items => match shownItems items with
    | [item] => "(" ++ item ++ ",)"
    | shown => "(" ++ ", ".intercalate shown ++ ")"
  | .array storage entries => arrayText storage entries
  | .entry storage number =>
      "np." ++ storage.word ++ "(" ++ entryText storage number ++ ")"
  | .set items => match shownItems items with
    | [] => "set()"
    | shown => "\x7b" ++ ", ".intercalate shown ++ "\x7d"
  | .mapping entries =>
      "\x7b" ++ ", ".intercalate (shownEntries entries) ++ "\x7d"

/-- The items of a collection as messages show them. -/
def shownItems : List Value → List String
  | [] => []
  | item :: items => item.shown :: shownItems items

/-- The entries of a mapping as messages show them. -/
def shownEntries : List (String × Value) → List String
  | [] => []
  | (key, item) :: entries =>
      (Text.quoted key ++ ": " ++ item.shown) :: shownEntries entries

end

/-- The plain text of a value. -/
def plainText : Value → String
  | .text characters => characters
  | .fraction number => fractionText number
  | .relation sign => "Relation." ++ sign.label
  | .status result => "SolveStatus." ++ result.label
  | .entry storage number => entryText storage number
  | other => other.shown

end RationalSimplex.Value
