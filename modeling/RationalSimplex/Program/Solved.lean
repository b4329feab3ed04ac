import RationalSimplex.Program.Canonical
import RationalSimplex.Simplex.Solve
import RationalSimplex.Tableau.Initial

/-!
# Solved programs

A program is solved by way of its canonical form.  The result carries the plans
and the value back to the variables of the program and keeps a record of every
tableau on the way.
-/

namespace RationalSimplex

/-- What is noted of one tableau: the pivot that was carried out on it, if any,
and from how many admissible pivots it was chosen. -/
structure HistoryEntry where
  phase : Nat
  iteration : Int
  pivot : Option Pivot
  candidates : Nat
  value : Rat
  plan : List Rat
  basis : List Int
deriving DecidableEq

/-- Everything that is known after a solve. -/
structure SolvedProgram where
  program : LinearProgram
  canonical : LinearProgram
  splits : List SignSplit
  initial : Tableau
  solution : Solution
  outcome : Outcome
  /-- The plans of the second phase. -/
  planPath : List (List Rat)
  history : List HistoryEntry
deriving DecidableEq

namespace SolvedProgram

/-- The status of the program. -/
def status (solved : SolvedProgram) : Status :=
  solved.outcome.status

/-- Whether the first phase had anything to do. -/
def usesFirstPhase (solved : SolvedProgram) : Bool :=
  !solved.initial.artificial.isEmpty

end SolvedProgram

/-- The outcome of a program, from the outcome of its canonical form. -/
def restoreOutcome (program : LinearProgram) (splits : List SignSplit) :
    Outcome → Except Fault Outcome
  | .optimal plan value => do
      let recovered ← restorePlan plan splits program.width
      return .optimal recovered (restoreValue program.objective.maximize value)
  | .infeasible => .ok .infeasible
  | .unbounded => .ok .unbounded

/-- The number of admissible pivots that the pivot on a tableau was chosen from;
none is noted for the last tableau of a phase. -/
def notedCandidates (log : PhaseLog) (index : Nat) : Except Fault Nat :=
  if index < log.pivots.length then
    match log.candidates[index]? with
    | some count => .ok count
    | none => .error (.index .entry)
  else
    .ok 0

/-- The record of one tableau of a phase. -/
def historyEntry (phase : Nat) (log : PhaseLog) (plans : List (List Rat))
    (numbered : Snapshot × Nat) : Except Fault HistoryEntry := do
  let candidates ← notedCandidates log numbered.2
  let value ← numbered.1.value
  match plans[numbered.2]? with
  | none => .error (.index .entry)
  | some plan => .ok {
      phase := phase
      iteration := numbered.1.iteration
      pivot := log.pivots[numbered.2]?
      candidates := candidates
      value := value
      plan := plan
      basis := numbered.1.basis }

/-- The records of all tableaux of a phase. -/
def phaseHistory (phase : Nat) (log : PhaseLog) (plans : List (List Rat)) :
    Except Fault (List HistoryEntry) :=
  log.snapshots.zipIdx.mapM (historyEntry phase log plans)

/-- The plans of the second phase over the variables of the program. -/
def restorePath (program : LinearProgram) (splits : List SignSplit)
    (solution : Solution) : Except Fault (List (List Rat)) :=
  match solution.phaseTwo with
  | none => .ok []
  | some log => log.plans.mapM fun plan => restorePlan plan splits program.width

/-- The records of the first phase, then those of the second. -/
def solveHistory (solution : Solution) (planPath : List (List Rat)) :
    Except Fault (List HistoryEntry) := do
  let first ← phaseHistory 1 solution.phaseOne solution.phaseOne.plans
  match solution.phaseTwo with
  | none => return first
  | some log =>
      let second ← phaseHistory 2 log planPath
      return first ++ second

/-- Solve a program, each phase with at most `budget` pivots. -/
def LinearProgram.solve {σ : Type} (program : LinearProgram)
    (rule : PivotRule σ) (budget : Nat)
    (state : σ) : Except Halt (SolvedProgram × σ) := do
  let (canonical, splits) ← Halt.lift program.canonize
  let initial ← Halt.lift (Tableau.ofCanonical canonical)
  let (solution, state) ← rule.solve budget state initial
  let outcome ← Halt.lift (restoreOutcome program splits solution.outcome)
  let planPath ← Halt.lift (restorePath program splits solution)
  let history ← Halt.lift (solveHistory solution planPath)
  return ({
    program := program
    canonical := canonical
    splits := splits
    initial := initial
    solution := solution
    outcome := outcome
    planPath := planPath
    history := history },
    state)

end RationalSimplex
