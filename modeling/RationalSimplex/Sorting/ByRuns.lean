import RationalSimplex.Sorting.Merge
import RationalSimplex.Sorting.Runs

/-!
# Sorting by runs

A list is sorted by merging its runs.  Which neighbours are merged first is told
by the depth of the boundary between them in the tree that halves the list again
and again: deep boundaries go first.  The sort is stable.  For an order that is
not transitive the result depends on every comparison, and the comparisons are
those that are made here.
-/

namespace RationalSimplex.Sorting

/-- A run in its place, with the depth of the boundary behind it. -/
structure PlacedRun (α : Type) where
  start : Nat
  items : List α
  depth : Nat

/-- The first binary place in which two proper fractions with the same
denominator differ. -/
def differingPlace (denominator : Nat) : Nat → Nat → Nat → Nat
  | 0, _, _ => 0
  | limit + 1, left, right =>
      if denominator ≤ left then
        differingPlace denominator limit (2 * (left - denominator))
          (2 * (right - denominator)) + 1
      else if denominator ≤ right then
        1
      else
        differingPlace denominator limit (2 * left) (2 * right) + 1

/-- The depth of the boundary between two runs, which is where their middles are
told apart. -/
def boundaryDepth (size start first second : Nat) : Nat :=
  differingPlace size size (2 * start + first) (2 * start + 2 * first + second)

/-- Pending runs, the last one first, and the eagerness that merging has
reached. -/
structure Pending (α : Type) where
  eagerness : Nat
  placed : List (PlacedRun α)

namespace Pending

variable {α : Type}

/-- Merge two neighbours; the boundary behind them is that of the second. -/
def join (less : α → α → Bool) (eagerness : Nat) (first second : PlacedRun α) :
    Nat × PlacedRun α :=
  let merged := mergeRuns less eagerness first.items second.items
  (merged.1, ⟨first.start, merged.2, second.depth⟩)

/-- Merge the last two runs as long as the boundary between them lies deeper
than a given one. -/
def mergeDeeper (less : α → α → Bool) (depth eagerness : Nat)
    (last : PlacedRun α) : List (PlacedRun α) → Pending α
  | [] => ⟨eagerness, [last]⟩
  | before :: rest =>
      if depth < before.depth then
        let joined := join less eagerness before last
        mergeDeeper less depth joined.1 joined.2 rest
      else
        ⟨eagerness, last :: before :: rest⟩

/-- Note the depth of the boundary behind the last run. -/
def markLast (depth : Nat) : List (PlacedRun α) → List (PlacedRun α)
  | [] => []
  | last :: rest => { last with depth := depth } :: rest

/-- Add a run at the end, after merging what lies deeper than its boundary. -/
def add (less : α → α → Bool) (size : Nat) (pending : Pending α)
    (run : List α) : Pending α :=
  match pending.placed with
  | [] => ⟨pending.eagerness, [⟨0, run, 0⟩]⟩
  | last :: rest =>
      let depth := boundaryDepth size last.start last.items.length run.length
      let merged := mergeDeeper less depth pending.eagerness last rest
      let start := last.start + last.items.length
      ⟨merged.eagerness, ⟨start, run, 0⟩ :: markLast depth merged.placed⟩

/-- Merge all runs from the end; a run that is shorter than its second successor
is merged with its successor first. -/
def mergeAll (less : α → α → Bool) (limit eagerness : Nat)
    (placed : List (PlacedRun α)) : List α :=
  match limit, placed with
  | limit + 1, last :: middle :: first :: rest =>
      if first.items.length < last.items.length then
        let joined := join less eagerness first middle
        mergeAll less limit joined.1 (last :: joined.2 :: rest)
      else
        let joined := join less eagerness middle last
        mergeAll less limit joined.1 (joined.2 :: first :: rest)
  | _, [last, first] => (join less eagerness first last).2.items
  | _, placed => (placed.map (·.items)).reverse.flatten

end Pending

/-- Sort a list by a relation of precedence. -/
def sortByRuns {α : Type} (less : α → α → Bool) (items : List α) : List α :=
  let pending := (runs less items).foldl (Pending.add less items.length)
    ⟨Merging.leastLeap, []⟩
  Pending.mergeAll less items.length pending.eagerness pending.placed

end RationalSimplex.Sorting
