/-!
# Classes of characters

A class of characters is given by the ranges of code points that make it up.
The blanks are the white space of Unicode with the four separators of files,
groups, records and units.  They surround fractions and keywords, and separate
the words of a list written as text; around integers and doubles the separators
are not allowed.  The decimal digits of Unicode 14 come in runs of ten, from
zero to nine: a character is a decimal digit when it belongs to one of the runs,
and its value is its place there.
-/

namespace RationalSimplex.Text

/-- Whether the character lies in one of the ranges, ends included. -/
def inRanges (ranges : List (Nat × Nat)) (character : Char) : Bool :=
  ranges.any fun range => range.1 ≤ character.toNat && character.toNat ≤ range.2

/-! ## Blanks -/

/-- The code points of all blanks, in ascending order. -/
def blankRanges : List (Nat × Nat) :=
  [(0x9, 0xD), (0x1C, 0x20), (0x85, 0x85), (0xA0, 0xA0), (0x1680, 0x1680),
   (0x2000, 0x200A), (0x2028, 0x2029), (0x202F, 0x202F), (0x205F, 0x205F),
   (0x3000, 0x3000)]

/-- Whether the character is a blank. -/
def isBlank (character : Char) : Bool :=
  inRanges blankRanges character

/-- The characters without those of a class at both ends. -/
def trimWhile (isOuter : Char → Bool) (characters : List Char) : List Char :=
  ((characters.dropWhile isOuter).reverse.dropWhile isOuter).reverse

/-- The characters without the blanks at both ends. -/
def trimBlanks (characters : List Char) : List Char :=
  trimWhile isBlank characters

/-- Whether the character is one of the four separators that are no space. -/
def isSeparator (character : Char) : Bool :=
  inRanges [(0x1C, 0x1F)] character

/-- The characters without the spaces at both ends, which are the blanks but for
separators. -/
def trimSpaces (characters : List Char) : List Char :=
  trimWhile (fun character => isBlank character && !isSeparator character)
    characters

/-- The text without the blanks at both ends. -/
def trim (text : String) : String :=
  String.ofList (trimBlanks text.toList)

/-- The words among the characters, where `word` holds the letters of the open
one in reverse. -/
def splitBlanks : List Char → List Char → List (List Char)
  | word, [] => if word.isEmpty then [] else [word.reverse]
  | word, character :: rest =>
      if isBlank character then
        if word.isEmpty then
          splitBlanks [] rest
        else
          word.reverse :: splitBlanks [] rest
      else
        splitBlanks (character :: word) rest

/-- The longest runs of characters that are not blank, in order. -/
def words (text : String) : List String :=
  (splitBlanks [] text.toList).map String.ofList

/-! ## Decimal digits -/

/-- The zeros of all scripts, in ascending order. -/
def digitZeros : List Nat :=
  [0x30, 0x660, 0x6F0, 0x7C0, 0x966, 0x9E6, 0xA66, 0xAE6, 0xB66, 0xBE6, 0xC66,
   0xCE6, 0xD66, 0xDE6, 0xE50, 0xED0, 0xF20, 0x1040, 0x1090, 0x17E0, 0x1810,
   0x1946, 0x19D0, 0x1A80, 0x1A90, 0x1B50, 0x1BB0, 0x1C40, 0x1C50, 0xA620,
   0xA8D0, 0xA900, 0xA9D0, 0xA9F0, 0xAA50, 0xABF0, 0xFF10, 0x104A0, 0x10D30,
   0x11066, 0x110F0, 0x11136, 0x111D0, 0x112F0, 0x11450, 0x114D0, 0x11650,
   0x116C0, 0x11730, 0x118E0, 0x11950, 0x11C50, 0x11D50, 0x11DA0, 0x16A60,
   0x16AC0, 0x16B50, 0x1D7CE, 0x1D7D8, 0x1D7E2, 0x1D7EC, 0x1D7F6, 0x1E140,
   0x1E2F0, 0x1E950, 0x1FBF0]

/-- The value of a decimal digit of any script. -/
def digitValue? (character : Char) : Option Nat :=
  (digitZeros.find? fun first =>
    first ≤ character.toNat && character.toNat ≤ first + 9).map
    (character.toNat - ·)

/-- Whether the character is a decimal digit of some script. -/
def isDigit (character : Char) : Bool :=
  (digitValue? character).isSome

end RationalSimplex.Text
