import RationalSimplex.Decimal.Conversion
import RationalSimplex.Json.Writer
import RationalSimplex.Numeral

/-!
# Reading documents

A document may have white space between its parts.  A number with a fraction or
an exponent is read as the nearest double, any other as an integer; of entries
with the same key the last one counts, at the place of the first.  Control
characters have to be escaped, and nothing may follow the document.
-/

namespace RationalSimplex.JsonValue

/-- The white space between the parts of a document. -/
def isSpace (character : Char) : Bool :=
  character == ' ' || character == '\t' || character == '\n' ||
    character == '\r'

/-- The characters behind the white space in front. -/
def skipSpace (characters : List Char) : List Char :=
  characters.dropWhile isSpace

/-- The character that a short escape stands for. -/
def unescapeLetter? : Char → Option Char
  | '"' => some '"'
  | '\\' => some '\\'
  | '/' => some '/'
  | 'n' => some '\n'
  | 'r' => some '\r'
  | 't' => some '\t'
  | 'b' => some '\x08'
  | 'f' => some '\x0c'
  | _ => none

/-- The value of a hexadecimal digit. -/
def hexValue? (character : Char) : Option Nat :=
  let code := character.toNat
  if 0x30 ≤ code ∧ code ≤ 0x39 then some (code - 0x30)
  else if 0x41 ≤ code ∧ code ≤ 0x46 then some (code - 0x41 + 10)
  else if 0x61 ≤ code ∧ code ≤ 0x66 then some (code - 0x61 + 10)
  else none

/-- The number of four hexadecimal digits, and the characters behind them. -/
def readUnit? : List Char → Option (Nat × List Char)
  | a :: b :: c :: d :: rest =>
      match hexValue? a, hexValue? b, hexValue? c, hexValue? d with
      | some first, some second, some third, some fourth =>
          some (((first * 16 + second) * 16 + third) * 16 + fourth, rest)
      | _, _, _, _ => none
  | _ => none

/-- The second half of a pair of units, and the characters behind it. -/
def readLowUnit? : List Char → Option (Nat × List Char)
  | '\\' :: 'u' :: rest =>
      match readUnit? rest with
      | some (unit, rest) =>
          if 0xDC00 ≤ unit ∧ unit ≤ 0xDFFF then some (unit, rest) else none
      | none => none
  | _ => none

/-- The character of an escape by code, and the characters behind it.  Two units
may make up one character. -/
def readCode? (characters : List Char) : Option (Char × List Char) :=
  match readUnit? characters with
  | none => none
  | some (unit, rest) =>
      if 0xD800 ≤ unit ∧ unit ≤ 0xDBFF then
        match readLowUnit? rest with
        | some (low, rest) =>
            let code := 0x10000 + (unit - 0xD800) * 0x400 + (low - 0xDC00)
            some (Char.ofNat code, rest)
        | none => some (Char.ofNat 0xFFFD, rest)
      else if 0xDC00 ≤ unit ∧ unit ≤ 0xDFFF then
        some (Char.ofNat 0xFFFD, rest)
      else
        some (Char.ofNat unit, rest)

/-- The next character inside a quoted text, and the characters behind it. -/
def readCharacter? : List Char → Option (Char × List Char)
  | '\\' :: 'u' :: rest => readCode? rest
  | '\\' :: letter :: rest =>
      (unescapeLetter? letter).map fun character => (character, rest)
  | character :: rest =>
      if character = '\\' ∨ character.toNat < 0x20 then
        none
      else
        some (character, rest)
  | [] => none

/-- The characters up to the closing quote, and those behind it. -/
def readText? : Nat → List Char → Option (List Char × List Char)
  | 0, _ => none
  | _ + 1, '"' :: rest => some ([], rest)
  | bound + 1, characters =>
      match readCharacter? characters with
      | none => none
      | some (character, rest) =>
          (readText? bound rest).map fun read => (character :: read.1, read.2)

/-- The ASCII digits in front, and the characters behind them. -/
def takeDigits (characters : List Char) : List Nat × List Char :=
  ((characters.takeWhile Char.isDigit).map fun digit => digit.toNat - 0x30,
    characters.dropWhile Char.isDigit)

/-- The digits of a natural number without needless zeros in front. -/
def readWhole? : List Char → Option (List Nat × List Char)
  | '0' :: rest => some ([0], rest)
  | characters =>
      let taken := takeDigits characters
      if taken.1.isEmpty then none else some taken

/-- The digits behind a point, if there are any. -/
def readRat? : List Char → Option (List Nat × List Char)
  | '.' :: rest =>
      let taken := takeDigits rest
      if taken.1.isEmpty then none else some taken
  | _ => none

/-- An exponent, if there is one. -/
def readExponent? : List Char → Option (Int × List Char)
  | mark :: rest =>
      if mark = 'e' ∨ mark = 'E' then
        let sign := Numeral.takeSign rest
        let taken := takeDigits sign.2
        let size : Int := Numeral.ofDigits taken.1
        if taken.1.isEmpty then
          none
        else
          some (if sign.1 then -size else size, taken.2)
      else
        none
  | [] => none

/-- A number behind its sign. -/
def readMagnitude? (negative : Bool) (characters : List Char) :
    Option (JsonValue × List Char) :=
  match readWhole? characters with
  | none => none
  | some (whole, rest) =>
      let fraction := readRat? rest
      let digits := (fraction.map (·.1)).getD []
      let rest := (fraction.map (·.2)).getD rest
      let exponent := readExponent? rest
      let rest := (exponent.map (·.2)).getD rest
      if fraction.isNone && exponent.isNone then
        let number : Int := Numeral.ofDigits whole
        some (.integer (if negative then -number else number), rest)
      else
        let decimal : Decimal := ⟨Numeral.ofDigits (whole ++ digits),
          (exponent.map (·.1)).getD 0 - (digits.length : Int)⟩
        let number := decimal.nearestDouble
        some (.double (if negative then -number else number), rest)

/-- A number or one of the words for doubles that are not finite. -/
def readNumber? (characters : List Char) : Option (JsonValue × List Char) :=
  match characters with
  | '-' :: 'I' :: 'n' :: 'f' :: 'i' :: 'n' :: 'i' :: 't' :: 'y' :: rest =>
      some (.double (-(1.0 / 0.0)), rest)
  | '-' :: rest => readMagnitude? true rest
  | rest => readMagnitude? false rest

/-- The entries of an object with one more, which replaces an earlier entry of
the same key. -/
def putEntry (key : String) (item : JsonValue) :
    List (String × JsonValue) → List (String × JsonValue)
  | [] => [(key, item)]
  | entry :: entries =>
      if entry.1 = key then
        (key, item) :: entries
      else
        entry :: putEntry key item entries

mutual

/-- A value, which starts with the first character, and the characters behind
it. -/
def readValue? : Nat → List Char → Option (JsonValue × List Char)
  | 0, _ => none
  | bound + 1, characters =>
      match characters with
      | 'n' :: 'u' :: 'l' :: 'l' :: rest => some (.null, rest)
      | 't' :: 'r' :: 'u' :: 'e' :: rest => some (.boolean true, rest)
      | 'f' :: 'a' :: 'l' :: 's' :: 'e' :: rest => some (.boolean false, rest)
      | 'N' :: 'a' :: 'N' :: rest => some (.double (0.0 / 0.0), rest)
      | 'I' :: 'n' :: 'f' :: 'i' :: 'n' :: 'i' :: 't' :: 'y' :: rest =>
          some (.double (1.0 / 0.0), rest)
      | '"' :: rest =>
          (readText? (rest.length + 1) rest).map fun read =>
            (.text (String.ofList read.1), read.2)
      | '[' :: rest =>
          match skipSpace rest with
          | ']' :: rest => some (.list [], rest)
          | rest =>
              (readItems? bound rest).map fun read => (.list read.1, read.2)
      | '\x7b' :: rest =>
          match skipSpace rest with
          | '\x7d' :: rest => some (.object [], rest)
          | rest =>
              (readEntries? bound [] rest).map fun read =>
                (.object read.1, read.2)
      | _ => readNumber? characters

/-- The items of a list from the first character up to the closing bracket. -/
def readItems? : Nat → List Char → Option (List JsonValue × List Char)
  | 0, _ => none
  | bound + 1, characters =>
      match readValue? bound characters with
      | none => none
      | some (item, rest) =>
          match skipSpace rest with
          | ']' :: rest => some ([item], rest)
          | ',' :: rest =>
              (readItems? bound (skipSpace rest)).map fun read =>
                (item :: read.1, read.2)
          | _ => none

/-- The entries of an object from the first character up to the closing brace,
added to those that were read before. -/
def readEntries? : Nat → List (String × JsonValue) → List Char →
    Option (List (String × JsonValue) × List Char)
  | 0, _, _ => none
  | bound + 1, entries, characters =>
      match characters with
      | '"' :: rest =>
          match readText? (rest.length + 1) rest with
          | none => none
          | some (key, rest) =>
              match skipSpace rest with
              | ':' :: rest =>
                  match readValue? bound (skipSpace rest) with
                  | none => none
                  | some (item, rest) =>
                      let entries := putEntry (String.ofList key) item entries
                      match skipSpace rest with
                      | '\x7d' :: rest => some (entries, rest)
                      | ',' :: rest =>
                          readEntries? bound entries (skipSpace rest)
                      | _ => none
              | _ => none
      | _ => none

end

/-- Read a whole text as one document. -/
def read? (characters : List Char) : Option JsonValue :=
  match readValue? (2 * characters.length + 2) (skipSpace characters) with
  | some (value, rest) => if (skipSpace rest).isEmpty then some value else none
  | none => none

end RationalSimplex.JsonValue
