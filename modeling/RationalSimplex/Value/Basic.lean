import RationalSimplex.Grid
import RationalSimplex.Vocabulary

/-!
# Values

Settings, traces and the numbers that a user writes come as values of many
kinds.  A number is an integer, a double or a fraction; a truth value is no
number.  The entries of a mapping keep their order.  An array holds integers,
all kept in one way, which depends on how large they are.
-/

namespace RationalSimplex

/-- How the entries of an array are kept: as words of sixty-four bits with or
without a sign, as doubles, or exactly. -/
inductive Storage where
  | signed
  | unsigned
  | double
  | exact
deriving DecidableEq

/-- A value as it stands in a configuration or a trace record. -/
inductive Value where
  | null
  | boolean (truth : Bool)
  | integer (number : Int)
  | double (number : Float)
  | text (characters : String)
  | fraction (number : Rat)
  | relation (relation : Relation)
  | status (status : Status)
  | list (items : List Value)
  | tuple (items : List Value)
  | array (storage : Storage) (entries : Grid Int)
  /-- A single entry of an array. -/
  | entry (storage : Storage) (number : Int)
  | set (items : List Value)
  | mapping (entries : List (String × Value))

/-- The kinds of values. -/
inductive Kind where
  | null
  | boolean
  | integer
  | double
  | text
  | fraction
  | relation
  | status
  | list
  | tuple
  | array
  | entry (storage : Storage)
  | set
  | mapping
deriving DecidableEq

/-- The word by which messages name a way to keep numbers. -/
def Storage.word : Storage → String
  | .signed => "int64"
  | .unsigned => "uint64"
  | .double => "float64"
  | .exact => "object"

/-- The word by which messages name a kind. -/
def Kind.word : Kind → String
  | .null => "NoneType"
  | .boolean => "bool"
  | .integer => "int"
  | .double => "float"
  | .text => "str"
  | .fraction => "Fraction"
  | .relation => "Relation"
  | .status => "SolveStatus"
  | .list => "list"
  | .tuple => "tuple"
  | .array => "ndarray"
  | .entry storage => storage.word
  | .set => "set"
  | .mapping => "dict"

/-- The longer word by which messages about operations name a kind. -/
def Kind.fullWord : Kind → String
  | .array => "numpy.ndarray"
  | .entry storage => "numpy." ++ storage.word
  | kind => kind.word

namespace Value

/-- The kind of a value. -/
def kind : Value → Kind
  | .null => .null
  | .boolean _ => .boolean
  | .integer _ => .integer
  | .double _ => .double
  | .text _ => .text
  | .fraction _ => .fraction
  | .relation _ => .relation
  | .status _ => .status
  | .list _ => .list
  | .tuple _ => .tuple
  | .array _ _ => .array
  | .entry storage _ => .entry storage
  | .set _ => .set
  | .mapping _ => .mapping

/-- Zeros and empty things count as absent where a default is taken. -/
def isTruthy : Value → Bool
  | .null => false
  | .boolean truth => truth
  | .integer number => number ≠ 0
  | .double number => number != 0.0
  | .text characters => characters ≠ ""
  | .fraction number => number ≠ 0
  | .relation _ => true
  | .status _ => true
  | .list items => !items.isEmpty
  | .tuple items => !items.isEmpty
  | .array _ entries => entries.entries.any (· ≠ 0)
  | .entry _ number => number ≠ 0
  | .set items => !items.isEmpty
  | .mapping entries => !entries.isEmpty

/-- The value of a key; of entries with the same key the last one counts. -/
def lookup? (entries : List (String × Value)) (key : String) : Option Value :=
  entries.reverse.lookup key

/-- The members of an array along its first axis; exact numbers stand for
themselves. -/
def slices (storage : Storage) (entries : Grid Int) : List Value :=
  match entries.axes, storage with
  | [_], .exact => entries.entries.map .integer
  | [_], storage => entries.entries.map (.entry storage)
  | _, storage => entries.slices.map (.array storage)

/-- The members of a collection: characters of a text, keys of a mapping, items
of a list. -/
def members? : Value → Option (List Value)
  | .text characters =>
      some (characters.toList.map fun character => .text character.toString)
  | .status result =>
      some (result.word.toList.map fun character => .text character.toString)
  | .list items => some items
  | .tuple items => some items
  | .array storage entries => some (slices storage entries)
  | .set items => some items
  | .mapping entries => some (entries.map fun entry => .text entry.1)
  | _ => none

end Value

end RationalSimplex
