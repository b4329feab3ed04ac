import RationalSimplex.Sorting.Runs

/-!
# Merging two runs

Two neighbouring runs of a list are merged by taking elements from their fronts,
or from their ends when the second run is the shorter one.  When one run has
given many elements in a row, whole stretches are taken at once.  How many
elements it takes for that is the eagerness; it is adapted while a list is being
sorted.
-/

namespace RationalSimplex.Sorting

/-- Two runs that are being merged, and what was taken from them so far, the
latest first.  An element of the moved run is taken only if it wins against the
one of the kept run. -/
structure Merging (α : Type) where
  kept : List α
  moved : List α
  taken : List α

namespace Merging

variable {α : Type}

/-- Nothing remains to be compared.  A single element of the kept run counts as
the last one. -/
def isSettled (merging : Merging α) : Bool :=
  merging.moved.isEmpty || decide (merging.kept.length ≤ 1)

/-- The merged run, when nothing remains to be compared. -/
def finish (merging : Merging α) : List α :=
  match merging.kept with
  | [last] => merging.taken.reverse ++ merging.moved ++ [last]
  | kept => merging.taken.reverse ++ kept ++ merging.moved

/-- Take elements from the front of the kept run. -/
def takeKept (merging : Merging α) (count : Nat) : Merging α where
  kept := merging.kept.drop count
  moved := merging.moved
  taken := (merging.kept.take count).reverse ++ merging.taken

/-- Take elements from the front of the moved run. -/
def takeMoved (merging : Merging α) (count : Nat) : Merging α where
  kept := merging.kept
  moved := merging.moved.drop count
  taken := (merging.moved.take count).reverse ++ merging.taken

/-- Take single elements until nothing remains to be compared or one run has won
as often in a row as the eagerness says. -/
def takeTurns (wins : α → α → Bool) (eagerness keptStreak movedStreak : Nat)
    (merging : Merging α) : Merging α :=
  match merging with
  | ⟨first :: second :: kept, next :: moved, taken⟩ =>
      if wins next first then
        let taken : Merging α := ⟨first :: second :: kept, moved, next :: taken⟩
        if eagerness ≤ movedStreak + 1 then taken
        else takeTurns wins eagerness 0 (movedStreak + 1) taken
      else
        let taken : Merging α := ⟨second :: kept, next :: moved, first :: taken⟩
        if eagerness ≤ keptStreak + 1 then taken
        else takeTurns wins eagerness (keptStreak + 1) 0 taken
  | settled => settled
termination_by merging.kept.length + merging.moved.length

/-- Take the elements of the kept run that come before the next one of the moved
run, then that one.  The count says how many were taken at once. -/
def leapKept (direction : Direction) (wins : α → α → Bool)
    (merging : Merging α) : Nat × Merging α :=
  match merging.moved with
  | [] => (0, merging)
  | next :: _ =>
      let count :=
        leadingCount direction (fun item => !wins next item) merging.kept
      let leapt := merging.takeKept count
      (count, if leapt.isSettled then leapt else leapt.takeMoved 1)

/-- Take the elements of the moved run that win against the next one of the kept
run, then that one. -/
def leapMoved (direction : Direction) (wins : α → α → Bool)
    (merging : Merging α) : Nat × Merging α :=
  match merging.kept with
  | [] => (0, merging)
  | next :: _ =>
      let count :=
        leadingCount direction (fun item => wins item next) merging.moved
      let leapt := merging.takeMoved count
      (count, if leapt.isSettled then leapt else leapt.takeKept 1)

/-- Leap in both runs; the run that stands first in the list comes first. -/
def leapBoth (direction : Direction) (wins : α → α → Bool)
    (merging : Merging α) : Nat × Merging α :=
  let leaps := match direction with
    | .forward => (leapKept direction wins, leapMoved direction wins)
    | .backward => (leapMoved direction wins, leapKept direction wins)
  let first := leaps.1 merging
  if first.2.isSettled then
    first
  else
    let second := leaps.2 first.2
    (max first.1 second.1, second.2)

/-- The least stretch for which leaping is worth while. -/
def leastLeap : Nat := 7

/-- Leap as long as it is worth while.  Every leap lowers the eagerness, and
leaving off raises it.  No more leaps are needed than there are elements. -/
def leapOn (direction : Direction) (wins : α → α → Bool) (limit eagerness : Nat)
    (merging : Merging α) : Nat × Merging α :=
  match limit with
  | 0 => (eagerness, merging)
  | limit + 1 =>
      let eagerness := if 1 < eagerness then eagerness - 1 else eagerness
      let leapt := leapBoth direction wins merging
      if leapt.2.isSettled then
        (eagerness, leapt.2)
      else if leastLeap ≤ leapt.1 then
        leapOn direction wins limit eagerness leapt.2
      else
        (eagerness + 1, leapt.2)

/-- Take turns and leap, until nothing remains to be compared.  No more rounds
are needed than there are elements. -/
def proceed (direction : Direction) (wins : α → α → Bool)
    (limit eagerness : Nat) (merging : Merging α) : Nat × Merging α :=
  match limit with
  | 0 => (eagerness, merging)
  | limit + 1 =>
      let turned := takeTurns wins eagerness 0 0 merging
      if turned.isSettled then
        (eagerness, turned)
      else
        let leapt := leapOn direction wins (limit + 1) (eagerness + 1) turned
        if leapt.2.isSettled then leapt
        else proceed direction wins limit leapt.1 leapt.2

/-- Merge two runs, of which the moved one has the element that comes first. -/
def run (direction : Direction) (wins : α → α → Bool) (eagerness : Nat)
    (kept moved : List α) : Nat × List α :=
  let start : Merging α := takeMoved ⟨kept, moved, []⟩ 1
  let merged :=
    proceed direction wins (kept.length + moved.length) eagerness start
  (merged.1, merged.2.finish)

end Merging

/-- Merge two neighbouring runs.  What is in its place already is left out at
both ends; the rest is merged from the side of the shorter run. -/
def mergeRuns {α : Type} (less : α → α → Bool) (eagerness : Nat)
    (first second : List α) : Nat × List α :=
  let inPlace := match second with
    | [] => first.length
    | head :: _ => leadingCount .forward (fun item => !less head item) first
  let left := first.drop inPlace
  match left.getLast? with
  | none => (eagerness, first ++ second)
  | some last =>
      let behind :=
        leadingCount .backward (fun item => !less item last) second.reverse
      let right := second.take (second.length - behind)
      if right.isEmpty then
        (eagerness, first ++ second)
      else
        let merged :=
          if left.length ≤ right.length then
            Merging.run .forward less eagerness left right
          else
            let backward :=
              Merging.run .backward (fun moved kept => less kept moved)
                eagerness
              right.reverse left.reverse
            (backward.1, backward.2.reverse)
        (merged.1, first.take inPlace ++ merged.2 ++ second.drop right.length)

end RationalSimplex.Sorting
