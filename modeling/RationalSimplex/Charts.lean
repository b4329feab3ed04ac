import RationalSimplex.Program.Solved
import RationalSimplex.Value.Collections

/-!
# Charts

A history is drawn in two charts: the value over the iterations of each phase,
and the number of admissible pivots at each pivot.  The second is left out when
there was no pivot.  What is drawn has to be converted to doubles first.
-/

namespace RationalSimplex

/-- What the charts show of one tableau. -/
structure ChartPoint where
  phase : Value
  iteration : Value
  /-- The tableau was pivoted. -/
  pivoted : Bool
  candidates : Value
  value : Value

/-- The entry as the charts show it. -/
def HistoryEntry.toChartPoint (record : HistoryEntry) : ChartPoint where
  phase := .integer record.phase
  iteration := .integer record.iteration
  pivoted := record.pivot.isSome
  candidates := .integer record.candidates
  value := .fraction record.value

/-- The charts that were drawn, in order, and the fault that stopped the
drawing, if any. -/
structure Charts where
  drawn : List String
  fault? : Option Fault

namespace Charts

/-- The file of the values. -/
def objectiveFile : String := "objective.png"

/-- The file of the numbers of admissible pivots. -/
def candidatesFile : String := "pivot_candidates.png"

/-- The double of a count; a missing count is no number, and leaves a gap. -/
def countToDouble : Value → Except Fault Float
  | .null => .ok (0.0 / 0.0)
  | count => count.toDouble

/-- The line of a phase: its iterations, then its values. -/
def phaseLine (points : List ChartPoint) (phase : Int) :
    Except Fault (List (Float × Float)) := do
  let drawn :=
    points.filter fun point => point.phase.isSameMember (.integer phase)
  let iterations ← drawn.mapM fun point => countToDouble point.iteration
  let values ← drawn.mapM fun point => point.value.toDouble
  return iterations.zip values

/-- The steps of the second chart: one for every pivot. -/
def candidateSteps (points : List ChartPoint) : Except Fault (List Float) :=
  (points.filter (·.pivoted)).mapM fun point => countToDouble point.candidates

/-- Draw the charts of some points; without points there are none. -/
def draw (points : List ChartPoint) : Charts :=
  if points.isEmpty then
    ⟨[], none⟩
  else
    match [1, 2].mapM (phaseLine points) with
    | .error fault => ⟨[], some fault⟩
    | .ok _ =>
        if points.any (·.pivoted) then
          match candidateSteps points with
          | .error fault => ⟨[objectiveFile], some fault⟩
          | .ok _ => ⟨[objectiveFile, candidatesFile], none⟩
        else
          ⟨[objectiveFile], none⟩

end Charts

end RationalSimplex
