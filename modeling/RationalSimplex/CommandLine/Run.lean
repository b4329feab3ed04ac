import RationalSimplex.Charts
import RationalSimplex.Configuration.Load
import RationalSimplex.Reference
import RationalSimplex.Trace

/-!
# Runs

A run solves the program of a configuration and prints a summary.  As the
settings ask, it then writes the trace of the solve, draws charts, and checks
the result against a reference.  What was printed and written before a fault
stays.  The generator of random numbers and the solver in doubles come from
outside.
-/

namespace RationalSimplex

/-- The record as it stands in a trace. -/
def HistoryEntry.toValue (record : HistoryEntry) : Value :=
  .mapping [
    ("phase", .integer record.phase),
    ("iteration", .integer record.iteration),
    ("pivot", match record.pivot with
      | some pivot => .list ((pivotAnswer pivot).map .integer)
      | none => .null),
    ("candidates", .integer record.candidates),
    ("value", .fraction record.value),
    ("plan", .list (record.plan.map .fraction)),
    ("basic_variables", .list (record.basis.map .integer))]

/-- The line of a split variable, with variables numbered from one. -/
def SignSplit.text (split : SignSplit) : String :=
  "x" ++ toString (split.source + 1) ++ " = x" ++
    toString (split.positive + 1) ++ " - x" ++ toString (split.negative + 1)

namespace SolvedProgram

/-- The lines of the plan and the value of an optimum. -/
def outcomeLines : Outcome → List String
  | .optimal plan value =>
      ["plan: (" ++ fractionTexts ", " plan ++ ")",
        "value: " ++ fractionText value]
  | _ => []

/-- The summary of a solve. -/
def summary (solved : SolvedProgram) : List String :=
  ("problem: " ++ solved.program.objective.text) ::
    (solved.program.constraints.map
      fun constraint => "  " ++ constraint.text) ++
    (solved.splits.map fun split => "  " ++ split.text) ++
    ["pivots: " ++ toString solved.solution.iterations,
      "status: " ++ solved.status.word] ++
    outcomeLines solved.outcome

end SolvedProgram

namespace CommandLine

/-- What a run has printed and written, and why it stopped early, if it did. -/
structure RunResult where
  lines : List String
  /-- The trace, when one was written. -/
  trace : Option (List Char)
  charts : List String
  halt : Option Halt

/-- The line of a check. -/
def checkLine (reference : Reference) (agrees : Bool) : String :=
  let verdict := if agrees then "ok" else "MISMATCH"
  "reference check (" ++ reference.status.plainText ++ "): " ++ verdict

section

variable (solver : DoubleSolver)

/-- Check a solve against the reference. -/
def checkSolved (solved : SolvedProgram) : Except Fault String := do
  let reference ← Reference.ofProgram solver solved.program
  let value := ((solved.outcome.value?).map Value.fraction).getD .null
  let agrees ← reference.agrees (.text solved.status.word) value
    Reference.defaultTolerance
  return checkLine reference (agrees.entries.all id)

/-- Check the solve if that is asked for. -/
def finishRun (settings : RunSettings) (solved : SolvedProgram)
    (result : RunResult) : RunResult :=
  if settings.check then
    match checkSolved solver solved with
    | .ok line => { result with lines := result.lines ++ [line] }
    | .error fault => { result with halt := some (.fault fault) }
  else
    result

/-- Draw the charts if they are asked for, and go on. -/
def drawRun (settings : RunSettings) (solved : SolvedProgram)
    (result : RunResult) : RunResult :=
  if settings.plots then
    let charts := Charts.draw (solved.history.map (·.toChartPoint))
    let drawn := { result with charts := charts.drawn }
    match charts.fault? with
    | some fault => { drawn with halt := some (.fault fault) }
    | none => finishRun solver settings solved drawn
  else
    finishRun solver settings solved result

/-- Write the trace if it is asked for, and go on. -/
def traceRun (settings : RunSettings) (solved : SolvedProgram)
    (result : RunResult) : RunResult :=
  if settings.logging then
    let written := Trace.write (solved.history.map (·.toValue))
    let traced := { result with trace := some written.characters }
    match written.result with
    | .error fault => { traced with halt := some (.fault (.trace fault)) }
    | .ok _ => drawRun solver settings solved traced
  else
    drawRun solver settings solved result

variable {σ : Type} (generator : Generator σ)

/-- Run a configuration. -/
def runConfiguration (configuration : Configuration) (budget : Nat) :
    RunResult :=
  let stopped (halt : Halt) : RunResult := ⟨[], none, [], some halt⟩
  match configuration.solver.choice with
  | .error fault => stopped (.fault fault)
  | .ok choice =>
      match configuration.program.solveBy generator choice budget with
      | .error halt => stopped halt
      | .ok solved =>
          traceRun solver configuration.run solved
            ⟨solved.summary, none, [], none⟩

/-- Run the configuration that a value describes. -/
def run (path : String) (raw : Value) (budget : Nat) : RunResult :=
  match Configuration.load path raw with
  | .error fault => ⟨[], none, [], some (.fault fault)⟩
  | .ok configuration =>
      runConfiguration solver generator configuration budget

end

/-- The files that a run has written into its folder, in order of their
names. -/
def RunResult.files (result : RunResult) : List String :=
  (if result.trace.isSome then ["history.jsonl"] else []) ++
    result.charts.map ("plots/" ++ ·)

end CommandLine

end RationalSimplex
