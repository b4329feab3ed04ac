import RationalSimplex.Geometry.Vertices
import RationalSimplex.Program.Solved

/-!
# Bounds of polytopes

Whether a polytope has a point, and the least and greatest value of every
coordinate, are found by solving linear programs over it.
-/

namespace RationalSimplex

/-- What is known about a polytope. -/
structure Extent where
  nonempty : Bool
  /-- Every coordinate is bounded on both sides. -/
  bounded : Bool
  /-- The least and the greatest value of every coordinate, as far as there are
  any. -/
  boundaries : List (Option Rat × Option Rat)
  vertices : List Point
deriving DecidableEq

namespace Polytope

/-- The program that optimises an expression over the polytope. -/
def programOf (polytope : Polytope) (coefficients : List Rat) (maximize : Bool)
    (width : coefficients.length = polytope.dimension) : LinearProgram :=
  LinearProgram.optimizing polytope ⟨⟨coefficients⟩, maximize⟩ width

/-- The program that only asks whether there is a point. -/
def feasibility (polytope : Polytope) : LinearProgram :=
  polytope.programOf (List.replicate polytope.dimension 0) true (by simp)

/-- The program that optimises one coordinate. -/
def coordinateProgram (polytope : Polytope) (index : Nat) (maximize : Bool) :
    LinearProgram :=
  polytope.programOf (coordinateVector polytope.dimension index) maximize
    (by simp [coordinateVector])

variable {σ : Type}

/-- The bounds of the coordinates with the given indices, and the state of the
pivot rule. -/
def coordinateBounds (polytope : Polytope) (rule : PivotRule σ) (budget : Nat) :
    List Nat → σ → Except Halt (List (Option Rat × Option Rat) × σ)
  | [], state => .ok ([], state)
  | index :: indices, state => do
      let (low, state) ←
        (polytope.coordinateProgram index false).solve rule budget state
      let (high, state) ←
        (polytope.coordinateProgram index true).solve rule budget state
      let (rest, state) ← polytope.coordinateBounds rule budget indices state
      return ((low.outcome.value?, high.outcome.value?) :: rest, state)

/-- Everything about the polytope; its vertices only in the plane. -/
def extent (polytope : Polytope) (rule : PivotRule σ) (budget : Nat)
    (state : σ) : Except Halt Extent := do
  let (solved, state) ← polytope.feasibility.solve rule budget state
  if solved.status = .infeasible then
    return ⟨false, false, [], []⟩
  let (boundaries, _) ←
    polytope.coordinateBounds rule budget (List.range polytope.dimension) state
  let vertices ←
    if polytope.dimension = 2 then Halt.lift polytope.vertices else pure []
  return {
    nonempty := true
    bounded := boundaries.all fun sides => sides.1.isSome && sides.2.isSome
    boundaries := boundaries
    vertices := vertices }

end Polytope

end RationalSimplex
