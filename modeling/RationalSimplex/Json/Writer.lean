import RationalSimplex.Decimal.Conversion
import RationalSimplex.Text.Quoted

/-!
# Writing documents

A document is written on one line, with a blank after every comma and colon.
Characters beyond ASCII stand for themselves; quotes, backslashes and control
characters are escaped, so that no line break remains.
-/

namespace RationalSimplex

/-- A document: the values that can be exchanged as text. -/
inductive JsonValue where
  | null
  | boolean (truth : Bool)
  | integer (number : Int)
  | double (number : Float)
  | text (characters : String)
  | list (items : List JsonValue)
  | object (entries : List (String × JsonValue))

namespace JsonValue

/-- The letter behind the backslash of a short escape. -/
def escapeLetter? : Char → Option Char
  | '"' => some '"'
  | '\\' => some '\\'
  | '\n' => some 'n'
  | '\r' => some 'r'
  | '\t' => some 't'
  | '\x08' => some 'b'
  | '\x0c' => some 'f'
  | _ => none

/-- A character inside a quoted text. -/
def writeCharacter (character : Char) : List Char :=
  match escapeLetter? character with
  | some letter => ['\\', letter]
  | none =>
      if character.toNat < 0x20 then
        '\\' :: 'u' :: Text.hexDigits 4 character.toNat
      else
        [character]

/-- A quoted text. -/
def writeText (characters : List Char) : List Char :=
  '"' :: (characters.flatMap writeCharacter ++ ['"'])

/-- The words for doubles that are not finite. -/
def documentWords : DoubleWords := ⟨"NaN", "Infinity"⟩

mutual

/-- The characters of a document. -/
def write : JsonValue → List Char
  | .null => "null".toList
  | .boolean truth => if truth then "true".toList else "false".toList
  | .integer number => (toString number).toList
  | .double number => (doubleText documentWords number).toList
  | .text characters => writeText characters.toList
  | .list [] => ['[', ']']
  | .list (item :: items) => '[' :: (write item ++ writeItems items)
  | .object [] => ['\x7b', '\x7d']
  | .object ((key, item) :: entries) =>
      '\x7b' ::
        (writeText key.toList ++
          ':' :: ' ' :: (write item ++ writeEntries entries))

/-- The items behind the first one, up to the end of the list. -/
def writeItems : List JsonValue → List Char
  | [] => [']']
  | item :: items => ',' :: ' ' :: (write item ++ writeItems items)

/-- The entries behind the first one, up to the end of the object. -/
def writeEntries : List (String × JsonValue) → List Char
  | [] => ['\x7d']
  | (key, item) :: entries =>
      ',' :: ' ' ::
        (writeText key.toList ++
          ':' :: ' ' :: (write item ++ writeEntries entries))

end

end JsonValue

end RationalSimplex
