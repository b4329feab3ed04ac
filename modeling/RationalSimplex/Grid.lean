/-!
# Grids

A grid lays entries out along axes; the last axis runs fastest.  Without axes
there is a single entry.  Two grids are matched by their last axes: an axis of
length one, and one that is missing, is repeated to the length of the other.
-/

namespace RationalSimplex

/-- The number of entries along axes of the given lengths. -/
def volume : List Nat → Nat
  | [] => 1
  | size :: axes => size * volume axes

/-- The common length of two axes. -/
def commonAxis? (left right : Nat) : Option Nat :=
  if left = right then some left
  else if left = 1 then some right
  else if right = 1 then some left
  else none

/-- The common axes of two lists, which start with the last axis. -/
def commonFromLast? : List Nat → List Nat → Option (List Nat)
  | [], right => some right
  | left, [] => some left
  | left :: lefts, right :: rights =>
      match commonAxis? left right, commonFromLast? lefts rights with
      | some axis, some axes => some (axis :: axes)
      | _, _ => none

/-- The common axes of two grids, if they match. -/
def commonAxes? (left right : List Nat) : Option (List Nat) :=
  (commonFromLast? left.reverse right.reverse).map List.reverse

/-- A number of pieces of a list, all of the same size. -/
def pieces {α : Type} (size : Nat) : Nat → List α → List (List α)
  | 0, _ => []
  | count + 1, items => items.take size :: pieces size count (items.drop size)

/-- Entries along axes. -/
structure Grid (α : Type) where
  axes : List Nat
  entries : List α

namespace Grid

variable {α β : Type}

/-- A single entry. -/
def single (entry : α) : Grid α :=
  ⟨[], [entry]⟩

/-- A row of entries. -/
def row (entries : List α) : Grid α :=
  ⟨[entries.length], entries⟩

/-- Change every entry. -/
def map (change : α → β) (grid : Grid α) : Grid β :=
  ⟨grid.axes, grid.entries.map change⟩

/-- Change every entry in order, up to the first fault. -/
def mapM {ε : Type} (change : α → Except ε β) (grid : Grid α) :
    Except ε (Grid β) :=
  match grid.entries.mapM change with
  | .ok entries => .ok ⟨grid.axes, entries⟩
  | .error fault => .error fault

/-- The parts of a grid along its first axis. -/
def slices (grid : Grid α) : List (Grid α) :=
  match grid.axes with
  | [] => []
  | size :: axes =>
      (pieces (volume axes) size grid.entries).map fun entries =>
        ⟨axes, entries⟩

/-- Entries along own axes repeated along wider ones, of which there are as
many. -/
def spreadEntries : List Nat → List Nat → List α → List α
  | size :: wide, own :: axes, entries =>
      if own = 1 then
        (List.replicate size (spreadEntries wide axes entries)).flatten
      else
        (pieces (volume axes) own entries).flatMap (spreadEntries wide axes)
  | _, _, entries => entries

/-- The entries repeated along wider axes. -/
def spread (wide : List Nat) (grid : Grid α) : List α :=
  let missing := List.replicate (wide.length - grid.axes.length) 1
  spreadEntries wide (missing ++ grid.axes) grid.entries

/-- The pairs of the entries of two grids, if they match. -/
def pair? (left : Grid α) (right : Grid β) : Option (Grid (α × β)) :=
  (commonAxes? left.axes right.axes).map fun axes =>
    ⟨axes, (left.spread axes).zip (right.spread axes)⟩

/-- Entries along axes gathered into lists of lists: one such list, or the bare
entries when there are no axes. -/
def gather (one : α → β) (many : List β → β) : List Nat → List α → List β
  | [], entries => entries.map one
  | size :: axes, entries =>
      [many
        ((pieces (volume axes) size entries).flatMap (gather one many axes))]

/-- The grid as lists of lists. -/
def nested (one : α → β) (many : List β → β) (grid : Grid α) : β :=
  (gather one many grid.axes grid.entries).head?.getD (many [])

end Grid

end RationalSimplex
