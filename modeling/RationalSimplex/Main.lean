import RationalSimplex.CommandLine.Arguments
import RationalSimplex.CommandLine.Run
import RationalSimplex.Fault.Message

/-!
# Command

The command reads a configuration, prints the summary of its solve and writes
the trace into the output folder.  Random pivots are drawn from the standard
generator.  No solver in doubles is connected, so that a check has no answer to
compare with.
-/

namespace RationalSimplex.CommandLine

/-- More pivots than any run takes. -/
def pivotBudget : Nat := 1000000000000

/-- Print a result and write its trace; the exit code tells whether the run came
to its end. -/
def report (out : String) (result : RunResult) : IO UInt32 := do
  for line in result.lines do
    IO.println line
  match result.trace with
  | none => pure ()
  | some characters =>
      IO.FS.createDirAll out
      IO.FS.writeFile (out ++ "/history.jsonl") (String.ofList characters)
  match result.halt with
  | none => return 0
  | some .budget =>
      IO.eprintln "the simplex method did not come to an end"
      return 1
  | some (.fault fault) =>
      IO.eprintln fault.message
      return 1

/-- The standard generator of random numbers; `entropy` takes the place of a
seed that is not given. -/
def standardGenerator (entropy : Nat) : Generator StdGen where
  start seed := mkStdGen ((seed.map Int.toNat).getD entropy)
  draw state count :=
    let drawn := stdNext state
    (drawn.1 % count, drawn.2)
  draw_lt _ _ positive := Nat.mod_lt _ positive

/-- No solver in doubles is there to answer. -/
def noSolver : DoubleSolver where
  minimize _ _ := ⟨4, "no solver in doubles is connected", []⟩
  dot _ _ := 0

/-- Run the configuration in a file. -/
def runFile (config out : String) : IO UInt32 := do
  let text ← IO.FS.readFile config
  match JsonValue.read? text.toList with
  | none =>
      IO.eprintln ("cannot read " ++ config)
      return 1
  | some document =>
      let entropy ← IO.rand 0 1000000000
      report out (run noSolver (standardGenerator entropy) config
        (.ofJson document) pivotBudget)

/-- How the command is called. -/
def usage : String := "usage: rational-simplex [-h] --config CONFIG --out OUT"

end RationalSimplex.CommandLine

open RationalSimplex.CommandLine in
/-- Solve the program of a configuration file. -/
def main (arguments : List String) : IO UInt32 := do
  match parseArguments arguments with
  | .ok ⟨some config, some out⟩ => runFile config out
  | .ok _ =>
      IO.eprintln usage
      return 1
  | .error .help =>
      IO.println usage
      return 0
  | .error .usage =>
      IO.eprintln usage
      return 2
