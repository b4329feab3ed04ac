import RationalSimplex.Decimal.Conversion
import RationalSimplex.Value.Basic

/-!
# Texts of arrays

An array is shown in brackets, its rows below one another and long rows on
several lines.  Words are padded to the same width; doubles, which occur only
where some are very large, are written with an exponent and the same number of
digits.  How the entries are kept is added where their text does not tell it.
-/

namespace RationalSimplex

/-- The most characters of a line of several entries. -/
def lineWidth : Nat := 75

/-- The most digits behind the point. -/
def mostPlaces : Nat := 8

/-- A number of blanks. -/
def blanks (count : Nat) : String :=
  String.ofList (List.replicate count ' ')

/-- A text filled up with blanks in front. -/
def padLeft (width : Nat) (text : String) : String :=
  blanks (width - text.length) ++ text

/-- The length of the longest text. -/
def longest (texts : List String) : Nat :=
  texts.foldl
    (fun width text => if width < text.length then text.length else width) 0

/-- The decimal of a double with a limited number of digits behind the first
one. -/
def Binary.limited (magnitude : Binary) : Decimal :=
  let shortest := magnitude.shortest
  if digitCount shortest.digits ≤ mostPlaces + 1 then
    shortest
  else
    let place := Binary.leadingPlace magnitude.value - (mostPlaces + 1 : Nat)
    Decimal.stripZeros (mostPlaces + 1)
      ⟨roundHalfEven (magnitude.value / integerPower 10 place), place⟩

namespace ArrayText

/-- A double in parts: the digit in front of the point with its sign, the digits
behind it, and the exponent. -/
structure ExponentForm where
  front : String
  places : List Char
  exponent : Int

/-- The parts of the double nearest to an integer. -/
def exponentForm (number : Int) : ExponentForm :=
  match (nearestDouble? (number : Rat)).map readDouble with
  | some (.finite negative magnitude) =>
      let decimal := magnitude.limited
      let digits := (toString decimal.digits).toList
      { front := (if negative then "-" else "") ++ String.ofList (digits.take 1)
        places := digits.drop 1
        exponent := if decimal.digits = 0 then 0
          else decimal.exponent + (digits.length : Int) - 1 }
  | _ => ⟨"", [], 0⟩

/-- The texts of doubles. -/
def doubleTexts (numbers : List Int) : List String :=
  let forms := numbers.map exponentForm
  let width := longest (forms.map (·.front))
  let places := longest (forms.map fun form => String.ofList form.places)
  forms.map fun form =>
    padLeft width form.front ++ "." ++ String.ofList form.places ++
      String.ofList (List.replicate (places - form.places.length) '0') ++
      Decimal.exponentText form.exponent

/-- The texts of the entries. -/
def entryTexts (storage : Storage) (numbers : List Int) : List String :=
  match storage with
  | .double => doubleTexts numbers
  | .exact => numbers.map toString
  | _ =>
      let texts := numbers.map toString
      texts.map (padLeft (longest texts))

/-- The text without the blanks at its end. -/
def trimEnd (text : String) : String :=
  String.ofList (text.toList.reverse.dropWhile (· == ' ')).reverse

/-- Words behind one another, on a new line where one does not fit the width.
The lines before the open one are `above`; a line starts with the indent. -/
def fillLines (width : Nat) (indent above line : String) : List String → String
  | [] => above ++ line
  | word :: words =>
      let next := if words.isEmpty then word else word ++ ", "
      if indent.length < line.length ∧ width < line.length + word.length then
        fillLines width indent (above ++ trimEnd line ++ "\n") (indent ++ next)
          words
      else
        fillLines width indent above (line ++ next) words

/-- The entries in brackets, to stand behind an indent on a line of the given
width. -/
def bracketed (indent width : Nat) : List Nat → List String → String
  | [], words => words.headD ""
  | [_], words =>
      let filled :=
        fillLines (width - 1) (blanks indent) "" (blanks indent) words
      "[" ++ String.ofList (filled.toList.drop indent) ++ "]"
  | size :: axes, words =>
      let parts := (pieces (volume axes) size words).map
        (bracketed (indent + 1) (width - 1) axes)
      let newLines := String.ofList (List.replicate axes.length '\n')
      "[" ++ ("," ++ newLines ++ blanks indent).intercalate parts ++ "]"

/-- What has to be added to the entries: the axes of an empty array, and how the
entries are kept unless they are words with a sign, or doubles that are
shown. -/
def additions (storage : Storage) (axes : List Nat) : List String :=
  let isEmpty := volume axes = 0
  (if isEmpty ∧ axes.length ≠ 1 then
      ["shape=(" ++ ", ".intercalate (axes.map toString) ++ ")"]
    else []) ++
  (if isEmpty ∨ storage = .unsigned ∨ storage = .exact then
      ["dtype=" ++ storage.word]
    else [])

/-- The number of characters behind the last line break. -/
def lastLineLength (text : String) : Nat :=
  (text.toList.reverse.takeWhile (· ≠ '\n')).length

end ArrayText

open ArrayText in
/-- The text of an array. -/
def arrayText (storage : Storage) (entries : Grid Int) : String :=
  let opening := "array("
  let body :=
    if volume entries.axes = 0 then "[]"
    else bracketed (opening.length + 1) (lineWidth - 1) entries.axes
      (entryTexts storage entries.entries)
  match additions storage entries.axes with
  | [] => opening ++ body ++ ")"
  | added =>
      let text := opening ++ body ++ ","
      let ending := ", ".intercalate added ++ ")"
      let gap := if lineWidth < lastLineLength text + ending.length + 1 then
        "\n" ++ blanks opening.length else " "
      text ++ gap ++ ending

end RationalSimplex
