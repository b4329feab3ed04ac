import RationalSimplex.Value.Arithmetic
import RationalSimplex.Value.Layers

/-!
# Operations entry by entry

An operation with an array is carried out on each of its entries, and one
between two grids on each pair of matching entries.  A value that is no array
counts as a single entry.
-/

namespace RationalSimplex

/-- Carry out an operation on every pair of matching entries of two grids. -/
def Grid.combine {α β γ : Type} (operation : α → β → Except Fault γ)
    (left : Grid α) (right : Grid β) : Except Fault (Grid γ) :=
  match left.pair? right with
  | some pairs => pairs.mapM fun pair => operation pair.1 pair.2
  | none => .error (.array (.unmatched left.axes right.axes))

/-- The truth of a grid, which has to have a single entry. -/
def Grid.truth (grid : Grid Bool) : Except Fault Bool :=
  match grid.entries with
  | [truth] => .ok truth
  | entries => .error (.array (.undecided entries.length))

namespace Comparison

/-- The comparison with its sides exchanged. -/
def mirrored : Comparison → Comparison
  | .less => .greater
  | .lessOrEqual => .greaterOrEqual
  | .greater => .less
  | .greaterOrEqual => .lessOrEqual

end Comparison

namespace Value

/-- The entries of an array, or a value as a single entry. -/
def entriesOf : Value → Grid Value
  | .array storage entries =>
      entries.map fun number => (Value.entry storage number).bare
  | other => .single other.bare

/-- An operation between values that may be arrays. -/
def calculateAll (operator : Operator) (left right : Value) :
    Except Fault (Grid Rat) :=
  left.entriesOf.combine (calculate operator) right.entriesOf

/-- A comparison of order between values that may be arrays.  An array on the
right compares its entries itself. -/
def compareAll (comparison : Comparison) (left right : Value) :
    Except Fault (Grid Bool) :=
  match right with
  | .array _ _ =>
      right.entriesOf.combine (compare comparison.mirrored) left.entriesOf
  | _ => left.entriesOf.combine (compare comparison) right.entriesOf

/-- Which entries of a value are operands with the given number. -/
def equalsNumberAll (source : Value) (number : Rat) : Grid Bool :=
  source.entriesOf.map fun entry => entry.equalsNumber number

end Value

end RationalSimplex
