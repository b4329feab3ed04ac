import RationalSimplex.Simplex.Phase

/-!
# The two-phase simplex method

The first phase maximises minus the sum of the artificial variables.  When their
sum cannot be made zero, the program is infeasible.  Otherwise artificial
variables that are still basic are driven out, their columns are dropped, the
objective of the program is put into the last row, and the second phase
maximises it.  A column that still has a negative reduced cost then shows that
the program is unbounded.
-/

namespace RationalSimplex

/-- The result of a solve: an optimal plan with its value, or the reason why
there is none. -/
inductive Outcome where
  | optimal (plan : List Rat) (value : Rat)
  | infeasible
  | unbounded
deriving DecidableEq

namespace Outcome

/-- The status of the outcome. -/
def status : Outcome → Status
  | .optimal _ _ => .optimal
  | .infeasible => .infeasible
  | .unbounded => .unbounded

/-- The optimal plan, if there is one. -/
def plan? : Outcome → Option (List Rat)
  | .optimal plan _ => some plan
  | _ => none

/-- The optimal value, if there is one. -/
def value? : Outcome → Option Rat
  | .optimal _ value => some value
  | _ => none

end Outcome

/-- The result of the simplex method, with the logs of its phases and the last
tableau. -/
structure Solution where
  outcome : Outcome
  phaseOne : PhaseLog
  phaseTwo : Option PhaseLog
  tableau : Tableau
  iterations : Nat
deriving DecidableEq

namespace Tableau

/-- Subtract a multiple of a row from the objective row. -/
def priceOut (tableau : Tableau) (row : Nat) (factor : Rat) :
    Except Fault Tableau := do
  let matrix ←
    tableau.matrix.subtractRowAt ((tableau.matrix.height : Int) - 1) row factor
  return { tableau with matrix := matrix }

/-- Give a basic artificial variable the reduced cost zero. -/
def priceArtificial (work : Tableau × PhaseLog) (artificial : Int) :
    Except Fault (Tableau × PhaseLog) :=
  match work.1.rowOf? artificial with
  | none => .ok work
  | some row => do
      let tableau ← work.1.priceOut row 1
      return (tableau, work.2.noteSubtraction row 1)

/-- Make the tableau ready for the first phase. -/
def startPhaseOne (tableau : Tableau) : Except Fault (Tableau × PhaseLog) :=
  tableau.artificial.foldlM priceArtificial (tableau, PhaseLog.empty)

/-- Whether a column may take the place of an artificial variable in a row. -/
def canReplace (tableau : Tableau) (artificial : List Int) (row column : Nat) :
    Except Fault Bool :=
  if (column : Int) ∈ artificial then
    .ok false
  else do
    let entry ← tableau.matrix.get row column
    return decide (entry ≠ 0)

/-- Take the artificial variable out of a row where one is basic: by a pivot on
any other column, or together with the row when the row has no other entry. -/
def expelFrom (artificial : List Int) (work : Tableau × PhaseLog) (row : Nat) :
    Except Fault (Tableau × PhaseLog) :=
  match work.1.basis[row]? with
  | none => .error (.index .entry)
  | some basic =>
      if basic ∉ artificial then
        .ok work
      else do
        let rhs ← work.1.rhs row
        if rhs ≠ 0 then
          throw (.engine (.nonzeroArtificial row))
        match ← (List.range work.1.columnCount).findM?
            (work.1.canReplace artificial row) with
        | none =>
            let tableau ← (work.1.eraseRow row).mapError (·.fault)
            return (tableau, { work.2 with
              droppedRows := work.2.droppedRows ++ [row] })
        | some column =>
            let tableau ← (work.1.pivot row column).mapError (·.fault)
            return (tableau, { work.2 with
              expulsions := work.2.expulsions ++ [(row, column)] })

/-- Take the artificial variables out of the basis, from the last row to the
first. -/
def expelArtificials (tableau : Tableau) (log : PhaseLog) :
    Except Fault (Tableau × PhaseLog) :=
  (List.range tableau.constraintCount).reverse.foldlM
    (expelFrom tableau.artificial) (tableau, log)

/-- Drop a column and note it in front of those that were dropped before. -/
def dropColumn (work : Tableau × PhaseLog) (column : Int) :
    Except Fault (Tableau × PhaseLog) := do
  let tableau ← work.1.eraseColumn column
  return (tableau,
    { work.2 with droppedColumns := column :: work.2.droppedColumns })

/-- Drop the columns of the artificial variables, the highest first. -/
def dropArtificials (tableau : Tableau) : Except Fault (Tableau × PhaseLog) :=
  (tableau.artificial.mergeSort fun left right => decide (right ≤ left)).foldlM
    dropColumn (tableau, PhaseLog.empty)

/-- Put the negated coefficients of the objective into the objective row. -/
def enterObjective (tableau : Tableau) : Except Fault Tableau :=
  if tableau.matrix.width = 0 then
    .ok tableau
  else do
    let last ← tableau.matrix.rowIndex ((tableau.matrix.height : Int) - 1)
    let coefficients := tableau.objective.expression.coefficients
    return { tableau with
      matrix :=
        tableau.matrix.fillRow last
          fun column => -(coefficients.getD column 0) }

/-- Give a basic variable the reduced cost zero. -/
def priceColumn (work : Tableau × PhaseLog) (column : Nat) :
    Except Fault (Tableau × PhaseLog) :=
  match work.1.rowOf? column with
  | none => .ok work
  | some row => do
      let cost ← work.1.reducedCost column
      if cost = 0 then
        return work
      else
        let tableau ← work.1.priceOut row cost
        return (tableau, work.2.noteSubtraction row cost)

/-- Make the tableau ready for the second phase. -/
def startPhaseTwo (tableau : Tableau) : Except Fault (Tableau × PhaseLog) := do
  let (dropped, log) ← tableau.dropArtificials
  let entered ← dropped.enterObjective
  let (priced, log) ←
    (List.range entered.columnCount).foldlM priceColumn (entered, log)
  return ({ priced with iteration := 0 }, log)

/-- From the end of the first phase to the start of the second. -/
def changePhase (tableau : Tableau) (log : PhaseLog) :
    Except Fault (Tableau × PhaseLog × PhaseLog) := do
  let (driven, phaseOne) ← tableau.expelArtificials log
  let (prepared, phaseTwo) ← driven.startPhaseTwo
  return (prepared, phaseOne, phaseTwo)

/-- The outcome that the tableau shows at the end of the second phase. -/
def finalOutcome (tableau : Tableau) : Except Fault Outcome := do
  let columns ← tableau.improvingColumns
  if columns.isEmpty then
    let plan ← tableau.plan
    let value ← tableau.value
    return .optimal plan value
  else
    return .unbounded

end Tableau

/-- A calculation that needs no budget. -/
def Halt.lift {α : Type} (result : Except Fault α) : Except Halt α :=
  result.mapError .fault

namespace PivotRule

variable {σ : Type}

/-- The second phase, after a first phase that made the artificial variables
zero. -/
def solvePhaseTwo (rule : PivotRule σ) (budget : Nat) (ended : Progress σ) :
    Except Halt (Solution × σ) := do
  let log := { ended.log with success := some true }
  let (tableau, phaseOne, phaseTwo) ← Halt.lift (ended.tableau.changePhase log)
  let final ← rule.run budget ⟨tableau, phaseTwo, ended.state⟩
  let outcome ← Halt.lift final.tableau.finalOutcome
  return ({
    outcome := outcome
    phaseOne := phaseOne
    phaseTwo :=
      some { final.log with success := some (outcome.status = .optimal) }
    tableau := final.tableau
    iterations :=
      phaseOne.pivots.length + phaseOne.expulsions.length +
        final.log.pivots.length },
    final.state)

/-- Solve a tableau, each phase with at most `budget` pivots. -/
def solve (rule : PivotRule σ) (budget : Nat) (state : σ) (tableau : Tableau) :
    Except Halt (Solution × σ) := do
  let work ← Halt.lift (tableau.recheck.mapError .engine)
  let (prepared, log) ← Halt.lift work.startPhaseOne
  let ended ← rule.run budget ⟨prepared, log, state⟩
  let value ← Halt.lift ended.tableau.value
  if value = 0 then
    rule.solvePhaseTwo budget ended
  else
    return ({
      outcome := .infeasible
      phaseOne := { ended.log with success := some false }
      phaseTwo := none
      tableau := ended.tableau
      iterations := ended.log.pivots.length },
      ended.state)

end PivotRule

end RationalSimplex
