import RationalSimplex.Simplex.PivotRule

/-!
# Phases

A phase pivots until no pivot is admissible and logs what it did.  The number of
pivots is not bounded by the method, since degenerate pivots may go round in
circles, so that a run is given a budget; a run that ends has the same result
for every budget that suffices.
-/

namespace RationalSimplex

/-- Why a run has no result: a fault, or more pivots than the budget allows. -/
inductive Halt where
  | fault (fault : Fault)
  | budget

/-- What a phase did, in the order in which it happened. -/
structure PhaseLog where
  pivots : List Pivot
  /-- The number of admissible pivots at each pivot. -/
  candidates : List Nat
  snapshots : List Snapshot
  plans : List (List Rat)
  /-- The rows that were subtracted from the objective row, with their
  factors. -/
  subtractions : List (Nat × Rat)
  droppedColumns : List Int
  expulsions : List Pivot
  droppedRows : List Nat
  success : Option Bool
deriving DecidableEq

namespace PhaseLog

/-- The log of a phase that has done nothing. -/
def empty : PhaseLog :=
  ⟨[], [], [], [], [], [], [], [], none⟩

/-- Add the tableau as it stands. -/
def noteTableau (log : PhaseLog) (tableau : Tableau) :
    Except Fault PhaseLog := do
  let plan ← tableau.plan
  return { log with
    snapshots := log.snapshots ++ [tableau.snapshot]
    plans := log.plans ++ [plan] }

/-- Add a pivot and the number of pivots that it was chosen from. -/
def notePivot (log : PhaseLog) (pivot : Pivot) (count : Nat) : PhaseLog :=
  { log with
    pivots := log.pivots ++ [pivot]
    candidates := log.candidates ++ [count] }

/-- Add a row that was subtracted from the objective row. -/
def noteSubtraction (log : PhaseLog) (row : Nat) (factor : Rat) : PhaseLog :=
  { log with subtractions := log.subtractions ++ [(row, factor)] }

end PhaseLog

/-- A tableau at work, the log so far, and the state of the pivot rule. -/
structure Progress (σ : Type) where
  tableau : Tableau
  log : PhaseLog
  state : σ

/-- One round of a phase: choose a pivot and carry it out, unless none is
admissible. -/
def PivotRule.step {σ : Type} (rule : PivotRule σ) (progress : Progress σ) :
    Except Fault (Option (Progress σ)) := do
  let pivots ← progress.tableau.admissiblePivots
  if pivots.isEmpty then
    return none
  let (pivot, state) ← rule.select progress.state pivots
  let tableau ← (progress.tableau.pivot pivot.1 pivot.2).mapError (·.fault)
  let log ← (progress.log.notePivot pivot pivots.length).noteTableau tableau
  return some ⟨tableau, log, state⟩

/-- Rounds until no pivot is admissible, at most as many as the budget. -/
def PivotRule.exhaust {σ : Type} (rule : PivotRule σ) :
    Nat → Progress σ → Except Halt (Progress σ)
  | budget, progress =>
      match rule.step progress with
      | .error fault => .error (.fault fault)
      | .ok none => .ok progress
      | .ok (some next) =>
          match budget with
          | 0 => .error .budget
          | budget + 1 => rule.exhaust budget next

/-- A phase: record the tableau and go on until no pivot is admissible. -/
def PivotRule.run {σ : Type} (rule : PivotRule σ) (budget : Nat)
    (progress : Progress σ) : Except Halt (Progress σ) :=
  match progress.log.noteTableau progress.tableau with
  | .error fault => .error (.fault fault)
  | .ok log => rule.exhaust budget { progress with log := log }

end RationalSimplex
