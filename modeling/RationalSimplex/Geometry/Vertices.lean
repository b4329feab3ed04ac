import RationalSimplex.Linear.Polytope
import RationalSimplex.SlotTable
import RationalSimplex.Sorting.ByRuns

/-!
# Vertices

The vertices of a polytope in the plane are the points of the polytope where two
boundary lines cross.  They are listed once each, counter-clockwise from the
lowest one, and of the lowest ones the leftmost.
-/

namespace RationalSimplex

/-- A point of the plane. -/
abbrev Point := Rat × Rat

/-- The vector of a dimension with a one at an index and zeros elsewhere. -/
def coordinateVector (dimension : Nat) (index : Int) : List Rat :=
  (List.range dimension).map fun (place : Nat) =>
    if (place : Int) = index then 1 else 0

namespace Point

/-- Twice the signed area of a triangle, positive when its corners turn to the
left. -/
def orientation (origin first second : Point) : Rat :=
  (first.1 - origin.1) * (second.2 - origin.2) -
    (first.2 - origin.2) * (second.1 - origin.1)

/-- The square of the distance between two points. -/
def squaredDistance (origin point : Point) : Rat :=
  (point.1 - origin.1) * (point.1 - origin.1) +
    (point.2 - origin.2) * (point.2 - origin.2)

/-- The first point comes before the second on the way round an origin: the
second lies to its left, or farther away in line with it. -/
def Precedes (origin first second : Point) : Prop :=
  0 < orientation origin first second ∨
    orientation origin first second = 0 ∧
      squaredDistance origin first < squaredDistance origin second

instance (origin first second : Point) :
    Decidable (Precedes origin first second) := by
  unfold Precedes
  infer_instance

/-- Order points counter-clockwise around the first of them.  Where they lie on
all sides of it, precedence is not transitive, and the order depends on the
comparisons of the sort. -/
def sortAround (points : List Point) : List Point :=
  match points with
  | [] => []
  | origin :: _ =>
      Sorting.sortByRuns
        (fun first second => decide (Precedes origin first second)) points

/-- Order points counter-clockwise around an origin that is the lowest of them,
and of the lowest ones the leftmost.  Precedence is a total order then. -/
def sortAboveOrigin (origin : Point) (points : List Point) : List Point :=
  points.mergeSort fun first second => decide (¬ Precedes origin second first)

/-- The first point is lower than the second, or as low and farther to the
left. -/
def IsBelow (first second : Point) : Prop :=
  first.2 < second.2 ∨ first.2 = second.2 ∧ first.1 < second.1

instance (first second : Point) : Decidable (IsBelow first second) := by
  unfold IsBelow
  infer_instance

/-- The lowest of the points; of equally low ones the leftmost. -/
def lowest (point : Point) (points : List Point) : Point :=
  points.foldl
    (fun best candidate => if IsBelow candidate best then candidate else best)
    point

end Point

/-- Every pair of two elements of a list, the earlier one first. -/
def pairsOf {α : Type} : List α → List (α × α)
  | [] => []
  | first :: rest => rest.map (fun second => (first, second)) ++ pairsOf rest

namespace Polytope

/-- The constraint that a variable is not negative. -/
def signConstraint (dimension index : Nat) : Constraint :=
  ⟨⟨coordinateVector dimension index⟩, .ge, 0⟩

/-- The constraints together with those on the signs of variables. -/
def allConstraints (polytope : Polytope) : List Constraint :=
  polytope.constraints ++
    polytope.nonnegative.toList.map (signConstraint polytope.dimension)

/-- The points of the polytope where two boundary lines cross. -/
def corners (polytope : Polytope) : List Point :=
  distinct (((pairsOf polytope.allConstraints).filterMap fun pair =>
    pair.1.crossingPoint? pair.2).filter
          fun point => polytope.Contains [point.1, point.2])

/-- The vertices of a polytope in the plane. -/
def vertices (polytope : Polytope) : Except Fault (List Point) :=
  if polytope.dimension = 2 then
    match polytope.corners with
    | [] => .ok []
    | corner :: corners =>
        let origin := Point.lowest corner corners
        .ok (Point.sortAboveOrigin origin
          (origin :: (corner :: corners).erase origin))
  else
    .error (.model .verticesOfHigherDimension)

end Polytope

end RationalSimplex
