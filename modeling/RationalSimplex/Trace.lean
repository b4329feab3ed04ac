import RationalSimplex.Decimal.Conversion
import RationalSimplex.Fault.Basic
import RationalSimplex.Json.Reader
import RationalSimplex.Numeral
import RationalSimplex.Text.Characters

/-!
# Traces

A trace is a text with one document on every line.  Fractions are written as
their text, relations and statuses as their word, and every collection but a set
as a list.  A record is written only when all of it can be written.
-/

namespace RationalSimplex

/-- The document of an entry of an array. -/
def entryToJson (storage : Storage) (number : Int) : JsonValue :=
  match storage, nearestDouble? (number : Rat) with
  | .double, some nearest => .double nearest
  | _, _ => .integer number

mutual

/-- The document of a value. -/
def Value.toJson : Value → Except TraceFault JsonValue
  | .null => .ok .null
  | .boolean truth => .ok (.boolean truth)
  | .integer number => .ok (.integer number)
  | .double number => .ok (.double number)
  | .text characters => .ok (.text characters)
  | .fraction number => .ok (.text (fractionText number))
  | .relation sign => .ok (.text sign.symbol)
  | .status result => .ok (.text result.word)
  | .list items | .tuple items => do
      let documents ← itemsToJson items
      return .list documents
  | .array storage entries => .ok (entries.nested (entryToJson storage) .list)
  | .entry storage number => .ok (entryToJson storage number)
  | .set _ => .error (.unserialisable .set)
  | .mapping entries => do
      let documents ← entriesToJson entries
      return .object documents

/-- The documents of several values, or the first fault. -/
def itemsToJson : List Value → Except TraceFault (List JsonValue)
  | [] => .ok []
  | item :: items => do
      let document ← item.toJson
      let documents ← itemsToJson items
      return document :: documents

/-- The documents of several entries, or the first fault. -/
def entriesToJson :
    List (String × Value) → Except TraceFault (List (String × JsonValue))
  | [] => .ok []
  | (key, item) :: entries => do
      let document ← item.toJson
      let documents ← entriesToJson entries
      return (key, document) :: documents

end

mutual

/-- The value of a document. -/
def Value.ofJson : JsonValue → Value
  | .null => .null
  | .boolean truth => .boolean truth
  | .integer number => .integer number
  | .double number => .double number
  | .text characters => .text characters
  | .list items => .list (itemsOfJson items)
  | .object entries => .mapping (entriesOfJson entries)

/-- The values of several documents. -/
def itemsOfJson : List JsonValue → List Value
  | [] => []
  | item :: items => .ofJson item :: itemsOfJson items

/-- The entries of an object. -/
def entriesOfJson : List (String × JsonValue) → List (String × Value)
  | [] => []
  | (key, item) :: entries => (key, .ofJson item) :: entriesOfJson entries

end

namespace Trace

/-- A trace that was written, and how many records it has; or the fault of the
first record that could not be written. -/
structure Written where
  characters : List Char
  result : Except TraceFault Nat

/-- The line of a document. -/
def line (document : JsonValue) : List Char :=
  document.write ++ ['\n']

/-- Write records until one cannot be written. -/
def write : List Value → Written
  | [] => ⟨[], .ok 0⟩
  | record :: records =>
      match record.toJson with
      | .error fault => ⟨[], .error fault⟩
      | .ok document =>
          let rest := write records
          ⟨line document ++ rest.characters, rest.result.map (· + 1)⟩

/-- The lines of a text, where `before` holds the characters of the open line in
reverse.  A line ends with a line feed, a carriage return, or both in this
order. -/
def splitLines (before : List Char) : List Char → List (List Char)
  | [] => if before.isEmpty then [] else [before.reverse]
  | '\r' :: '\n' :: rest => before.reverse :: splitLines [] rest
  | character :: rest =>
      if character = '\n' ∨ character = '\r' then
        before.reverse :: splitLines [] rest
      else
        splitLines (character :: before) rest

/-- Read the documents of several lines; blank lines have none. -/
def readLines : List (List Char) → Except TraceFault (List JsonValue)
  | [] => .ok []
  | line :: lines =>
      if line.all Text.isBlank then
        readLines lines
      else
        match JsonValue.read? line with
        | none => .error .malformed
        | some document => do
            let documents ← readLines lines
            return document :: documents

/-- Read a trace. -/
def read (characters : List Char) : Except TraceFault (List JsonValue) :=
  readLines (splitLines [] characters)

end Trace

end RationalSimplex
