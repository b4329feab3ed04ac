import RationalSimplex.Program.Canonical
import RationalSimplex.Tableau.Basic

/-!
# Initial tableaux

The tableau of a canonical program has columns for its variables, for a slack
variable of every constraint, for an artificial variable of every constraint
with a negative constant, and for the right-hand sides.  A constraint with a
negative constant is entered with all signs turned, so that every right-hand
side is nonnegative and the slack or artificial variables are basic.
-/

namespace RationalSimplex

/-- A list of zeros with one other number. -/
def unitRow (size index : Nat) (number : Rat) : List Rat :=
  (List.range size).map fun place => if place = index then number else 0

namespace Constraint

/-- The constraint needs an artificial variable. -/
def needsArtificial (constraint : Constraint) : Bool :=
  decide (constraint.constant < 0)

end Constraint

/-- How many of the first constraints need an artificial variable. -/
def artificialsBefore (constraints : List Constraint) (count : Nat) : Nat :=
  (constraints.take count).countP (·.needsArtificial)

namespace Tableau

/-- The row of a constraint, the `index`-th of `slacks`, before which `offset`
others needed one of the artificial variables. -/
def initialRow (slacks artificials : Nat) (constraint : Constraint)
    (index offset : Nat) : List Rat :=
  if constraint.needsArtificial then
    constraint.expression.negated.coefficients ++ unitRow slacks index (-1) ++
      unitRow artificials offset 1 ++ [-constraint.constant]
  else
    constraint.expression.coefficients ++ unitRow slacks index 1 ++
      List.replicate artificials 0 ++ [constraint.constant]

/-- The basic variable of a constraint. -/
def initialBasic (width slacks : Nat) (constraint : Constraint)
    (index offset : Nat) : Int :=
  if constraint.needsArtificial then
    ((width + slacks + offset : Nat) : Int)
  else
    ((width + index : Nat) : Int)

/-- The tableau of a canonical program.  Its objective row counts the artificial
variables. -/
def ofCanonical (program : LinearProgram) : Except Fault Tableau :=
  if program.IsCanonical then do
    let constraints := program.constraints
    let width := program.width
    let slacks := constraints.length
    let artificials := artificialsBefore constraints slacks
    let rows := constraints.mapIdx fun index constraint =>
      initialRow slacks artificials constraint index
        (artificialsBefore constraints index)
    let basis := constraints.mapIdx fun index constraint =>
      initialBasic width slacks constraint index
        (artificialsBefore constraints index)
    let costs :=
      List.replicate (width + slacks) 0 ++ List.replicate artificials 1 ++ [0]
    let matrix ← (RatMatrix.ofRows (rows ++ [costs])).mapError .engine
    let start := (List.range width).map fun (index : Nat) => (index : Int)
    let artificial := (List.range artificials).map fun (index : Nat) =>
      ((width + slacks + index : Nat) : Int)
    (make matrix program.objective basis start artificial 0).mapError .engine
  else
    .error (.engine .notCanonical)

end Tableau

end RationalSimplex
