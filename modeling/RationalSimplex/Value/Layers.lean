import RationalSimplex.Fault.Basic
import RationalSimplex.Index
import RationalSimplex.Value.Number

/-!
# Layers of lists

Lists of lists of the same lengths are laid out as a grid.  All entries of a
grid are kept in the same way, so that entries of different kinds are converted
to a common one: truth values become numbers beside numbers, integers become
doubles beside doubles, and anything becomes text beside text.  Values of other
kinds keep all entries as they are.
-/

namespace RationalSimplex

/-- How an array keeps given integers: as words if they fit, as doubles if they
fit words of different sorts only, and otherwise exactly. -/
def Storage.ofNumbers (numbers : List Int) : Storage :=
  if numbers.isEmpty then .double
  else if numbers.all fun number => decide (FitsWord number) then .signed
  else if numbers.all fun number => decide (FitsUnsigned number) then .unsigned
  else if numbers.all fun number =>
    decide (FitsWord number ∨ FitsUnsigned number) then .double
  else .exact

namespace Value

/-- The items of a value that adds a layer. -/
def layer? : Value → Option (List Value)
  | .list items => some items
  | .tuple items => some items
  | .array storage entries => some (slices storage entries)
  | _ => none

/-- The layers below a list of values: their axes, the values at the bottom, and
whether they are even there.  No more layers than the limit are opened. -/
def openLayers : Nat → List Value → List Nat × List Value × Bool
  | 0, values => ([], values, true)
  | limit + 1, values =>
      match values.mapM layer? with
      | none => ([], values, values.all fun value => value.layer?.isNone)
      | some [] => ([], [], true)
      | some (first :: rest) =>
          if rest.all fun items => items.length == first.length then
            let below := openLayers limit (first :: rest).flatten
            (first.length :: below.1, below.2)
          else
            ([], values, false)

/-- The most axes of a grid. -/
def mostAxes : Nat := 64

/-- The sorts of entries, each of which makes room for those before it. -/
inductive Rank where
  | truth
  | word (storage : Storage)
  | double
  | text
  | any
deriving DecidableEq

/-- The sort of an entry. -/
def rank : Value → Rank
  | .boolean _ => .truth
  | .integer number =>
      match Storage.ofNumbers [number] with
      | .exact => .any
      | storage => .word storage
  | .entry .exact _ => .any
  | .entry .double _ => .double
  | .entry storage _ => .word storage
  | .double _ => .double
  | .text _ | .status _ => .text
  | _ => .any

/-- The common sort of two. -/
def Rank.join : Rank → Rank → Rank
  | .any, _ | _, .any => .any
  | .text, _ | _, .text => .text
  | .double, _ | _, .double => .double
  | .truth, other | other, .truth => other
  | .word left, .word right => if left = right then .word left else .double

/-- An entry converted to a sort that makes room for it. -/
def convert (sort : Rank) (value : Value) : Value :=
  match sort, value.bare with
  | .word _, .boolean truth => .integer (if truth then 1 else 0)
  | .double, number =>
      match number.toDouble with
      | .ok nearest => .double nearest
      | .error _ => number
  | .text, other => .text other.plainText
  | _, other => other

/-- The grid of a value: its layers, and the entries below them converted to
their common sort. -/
def toGrid (source : Value) : Except Fault (Grid Value) :=
  match source with
  | .list _ | .tuple _ | .array _ _ =>
      match openLayers mostAxes [source] with
      | (axes, entries, true) =>
          let sort := (entries.map rank).foldl Rank.join .truth
          .ok ⟨axes, entries.map (convert sort)⟩
      | (axes, _, false) => .error (.array (.uneven axes))
  | other => .ok (.single other)

/-- The array of integers in layers of lists; it has a single empty axis if they
are not even. -/
def arrayOf (layers : List Value) : Value :=
  let below := openLayers mostAxes [.list layers]
  let numbers := below.2.1.filterMap fun
    | .integer number => some number
    | _ => none
  if below.2.2 ∧ numbers.length = volume below.1 then
    .array (.ofNumbers numbers) ⟨below.1, numbers⟩
  else
    .array .double ⟨[0], []⟩

end Value

end RationalSimplex
