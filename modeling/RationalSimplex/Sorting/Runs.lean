/-!
# Searches and runs

How many elements at the front of a list have a property.  In a list that is
sorted with regard to the property this is where the property ends.  Any other
list has an answer too, which depends on the elements that are looked at: they
are fixed here, by steps that double and then by halving.

A list is cut into runs, each of which is sorted: as many elements as are in
ascending order anyway, or as are in strictly descending order and can be turned
round.  A run that is too short is filled up by inserting the elements behind
it.
-/

namespace RationalSimplex.Sorting

/-! ## Searching by leaps -/

/-- Whether the places of a list are counted from its first or from its last
element. -/
inductive Direction where
  | forward
  | backward
deriving DecidableEq

/-- The middle of a range of places; of two middles the one that is nearer to
the last element. -/
def Direction.middle (direction : Direction) (low high : Nat) : Nat :=
  match direction with
  | .forward => low + (high - low) / 2
  | .backward => low + (high - low - 1) / 2

/-- The first place of a range where a property does not hold, by halving the
range. -/
def boundary (direction : Direction) (holds : Nat → Bool) (low high : Nat) :
    Nat :=
  if low < high then
    let middle := direction.middle low high
    if holds middle then boundary direction holds (middle + 1) high
    else boundary direction holds low middle
  else
    low
termination_by high - low
decreasing_by
  all_goals
    simp only [Direction.middle]
    cases direction <;> simp only <;> omega

/-- Steps from the front, each one more than twice as long as the one before:
the last one where a property holds, and the first one where it does not or that
leads to the limit. -/
def stride (holds : Nat → Bool) (limit last step : Nat) : Nat × Nat :=
  if step < limit then
    if holds step then stride holds limit step (2 * step + 1) else (last, step)
  else
    (last, limit)
termination_by limit - step

/-- Whether a property holds at a place of a list. -/
def holdsAt {α : Type} (holds : α → Bool) (items : List α) (place : Nat) :
    Bool :=
  items[place]?.any holds

/-- How many elements at the front have a property. -/
def leadingCount {α : Type} (direction : Direction) (holds : α → Bool)
    (items : List α) : Nat :=
  if holdsAt holds items 0 then
    let range := stride (holdsAt holds items) items.length 0 1
    boundary direction (holdsAt holds items) (range.1 + 1) range.2
  else
    0

/-! ## Runs -/

variable {α : Type}

/-- The elements that are each linked to the one before them, and those
behind. -/
def chain (linked : α → α → Bool) (before : α) : List α → List α × List α
  | [] => ([], [])
  | next :: rest =>
      if linked before next then
        let chained := chain linked next rest
        (next :: chained.1, chained.2)
      else
        ([], next :: rest)

/-- The run at the front of a list, in ascending order, and the elements behind
it. -/
def naturalRun (less : α → α → Bool) : List α → List α × List α
  | [] => ([], [])
  | [only] => ([only], [])
  | first :: second :: rest =>
      if less second first then
        let run :=
          chain (fun before next => less next before) first (second :: rest)
        ((first :: run.1).reverse, run.2)
      else
        let run :=
          chain (fun before next => !less next before) first (second :: rest)
        (first :: run.1, run.2)

/-- Insert an element into a sorted run, behind those that are not greater. -/
def insertInOrder (less : α → α → Bool) (run : List α) (item : α) : List α :=
  run.insertIdx
    (boundary .forward (holdsAt (fun other => !less item other) run) 0
      run.length) item

/-- The run at the front of a list, filled up to a least length if the list is
long enough. -/
def filledRun (less : α → α → Bool) (least : Nat) (items : List α) :
    List α × List α :=
  let run := naturalRun less items
  let missing := least - run.1.length
  ((run.2.take missing).foldl (insertInOrder less) run.1, run.2.drop missing)

/-- Cut a list into runs; there are no more of them than elements. -/
def runsUpTo (less : α → α → Bool) (least : Nat) (limit : Nat)
    (items : List α) : List (List α) :=
  match limit, items with
  | 0, _ => []
  | _, [] => []
  | limit + 1, items =>
      let run := filledRun less least items
      run.1 :: runsUpTo less least limit run.2

/-- The least length of a run: short lists are a single run, and long ones have
a number of runs that is a power of two or a little less. -/
def leastRunLength (size carry : Nat) : Nat :=
  if size < 64 then size + carry
  else leastRunLength (size / 2) (if size % 2 = 1 then 1 else carry)
termination_by size

/-- The runs of a list. -/
def runs (less : α → α → Bool) (items : List α) : List (List α) :=
  runsUpTo less (leastRunLength items.length 0) items.length items

end RationalSimplex.Sorting
