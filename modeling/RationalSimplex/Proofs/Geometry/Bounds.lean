import Mathlib.Order.Bounds.Basic
import RationalSimplex.Geometry.Bounds
import RationalSimplex.Proofs.Geometry.Vertices
import RationalSimplex.Proofs.Program.Solve

/-!
# The extent of a polytope is exact

The program that optimises a coordinate attains the values of that coordinate
and no others.  Its optimum is therefore the least or the greatest of them, and
it is unbounded exactly when they have no bound on that side.  It cannot be
infeasible once a point has been found.
-/

namespace RationalSimplex

/-! ## Outcomes with and without a value -/

namespace LinearProgram

variable {program : LinearProgram} {outcome : Outcome} {value other : Rat}

theorem HasOptimum.unique (optimum : program.HasOptimum value)
    (otherOptimum : program.HasOptimum other) : value = other := by
  obtain ⟨⟨point, attains⟩, best⟩ := optimum
  obtain ⟨⟨otherPoint, otherAttains⟩, otherBest⟩ := otherOptimum
  have notBetter := otherBest point value attains
  have otherNotBetter := best otherPoint other otherAttains
  rw [not_better_iff] at notBetter otherNotBetter
  split at notBetter
  · exact le_antisymm notBetter (by simpa [*] using otherNotBetter)
  · exact le_antisymm (by simpa [*] using otherNotBetter) notBetter

theorem IsSolvedBy.value?_eq_some_iff (solved : program.IsSolvedBy outcome) :
    outcome.value? = some value ↔ program.HasOptimum value := by
  cases outcome with
  | optimal plan found =>
      have optimum : program.HasOptimum found := solved.hasOptimum
      constructor
      · intro same
        cases same
        exact optimum
      · intro otherOptimum
        exact congrArg some (optimum.unique otherOptimum)
  | infeasible =>
      constructor
      · intro same
        cases same
      · intro optimum
        exact absurd solved optimum.not_isInfeasible
  | unbounded =>
      constructor
      · intro same
        cases same
      · intro optimum
        exact absurd solved optimum.not_isUnbounded

theorem IsSolvedBy.value?_eq_none_iff (solved : program.IsSolvedBy outcome)
    (feasible : ¬program.IsInfeasible) :
    outcome.value? = none ↔ program.IsUnbounded := by
  cases outcome with
  | optimal plan found =>
      constructor
      · intro same
        cases same
      · intro unbounded
        exact absurd unbounded solved.hasOptimum.not_isUnbounded
  | infeasible => exact absurd solved feasible
  | unbounded => exact ⟨fun _ => solved, fun _ => rfl⟩

end LinearProgram

/-! ## Coordinates -/

namespace Polytope

variable {polytope : Polytope} {index : Nat} {point : List Rat} {value : Rat}

/-- The values that a coordinate takes in the polytope. -/
def coordinates (polytope : Polytope) (index : Nat) : Set Rat :=
  {value | ∃ point, polytope.contains point = .ok true ∧
    point[index]? = some value}

/-- The least and the greatest of a set of numbers, where `none` says that the
set has no bound on that side. -/
structure HasSides (values : Set Rat) (sides : Option Rat × Option Rat) :
    Prop where
  low_eq_some_iff : ∀ value, sides.1 = some value ↔ IsLeast values value
  low_eq_none_iff : sides.1 = none ↔ ¬BddBelow values
  high_eq_some_iff : ∀ value, sides.2 = some value ↔ IsGreatest values value
  high_eq_none_iff : sides.2 = none ↔ ¬BddAbove values

theorem HasSides.isSome_iff {values : Set Rat} {sides : Option Rat × Option Rat}
    (hasSides : HasSides values sides) :
    sides.1.isSome ∧ sides.2.isSome ↔ BddBelow values ∧ BddAbove values := by
  rw [Option.isSome_iff_ne_none, Option.isSome_iff_ne_none, ne_eq, ne_eq,
    hasSides.low_eq_none_iff, hasSides.high_eq_none_iff, not_not, not_not]

theorem HasSides.exists_eq {values : Set Rat}
    {sides : Option Rat × Option Rat} (hasSides : HasSides values sides)
    (bounded : BddBelow values ∧ BddAbove values) :
    ∃ low high, sides = (some low, some high) := by
  obtain ⟨lowSome, highSome⟩ := hasSides.isSome_iff.mpr bounded
  obtain ⟨low, lowFound⟩ := Option.isSome_iff_exists.mp lowSome
  obtain ⟨high, highFound⟩ := Option.isSome_iff_exists.mp highSome
  exact ⟨low, high, Prod.ext lowFound highFound⟩

theorem getD_coordinateVector (dimension index place : Nat) :
    (coordinateVector dimension index).getD place 0 =
      if place < dimension ∧ place = index then 1 else 0 := by
  by_cases inside : place < dimension
  · simp [coordinateVector, inside]
  · simp [coordinateVector, inside]

@[simp]
theorem dot_coordinateVector {dimension : Nat} (inside : index < dimension)
    (point : List Rat) :
    dot (coordinateVector dimension index) point = point.getD index 0 := by
  have length : (coordinateVector dimension index).length ≤ dimension := by
    simp [coordinateVector]
  rw [dot_eq_sum length, Finset.sum_eq_single index]
  · rw [getD_coordinateVector, if_pos ⟨inside, rfl⟩, one_mul]
  · intro place _ different
    rw [getD_coordinateVector, if_neg (fun same => different same.2), zero_mul]
  · intro outside
    exact absurd (Finset.mem_range.mpr inside) outside

/-- What a coordinate program attains are the values of the coordinate. -/
theorem attains_coordinateProgram_iff (inside : index < polytope.dimension)
    {maximize : Bool} :
    (polytope.coordinateProgram index maximize).Attains point value ↔
      polytope.contains point = .ok true ∧ point[index]? = some value := by
  rw [LinearProgram.attains_iff, contains_eq_ok_true_iff, and_assoc]
  have width : (polytope.coordinateProgram index maximize).width =
      polytope.dimension :=
    (polytope.coordinateProgram index maximize).objective_width
  rw [width]
  refine and_congr_right fun long => and_congr_right fun _ => ?_
  have reaches : index < point.length := Nat.lt_of_lt_of_le inside long
  have dotted : dot (polytope.coordinateProgram index
      maximize).objective.expression.coefficients point = point.getD index 0 :=
    dot_coordinateVector inside point
  rw [dotted]
  simp [reaches]

/-- The optimum of a coordinate program is a value of the coordinate, and none
lies beyond it. -/
theorem hasOptimum_coordinateProgram_iff (inside : index < polytope.dimension)
    {maximize : Bool} :
    (polytope.coordinateProgram index maximize).HasOptimum value ↔
      value ∈ polytope.coordinates index ∧
        ∀ other ∈ polytope.coordinates index,
          if maximize then other ≤ value else value ≤ other := by
  unfold LinearProgram.HasOptimum
  simp only [attains_coordinateProgram_iff inside, LinearProgram.not_better_iff]
  refine and_congr Iff.rfl ⟨?_, ?_⟩
  · rintro best other ⟨point, attains⟩
    exact best point other attains
  · intro best point other attains
    exact best other ⟨point, attains⟩

section Nonempty

variable (nonempty : ∃ point, polytope.contains point = .ok true)

include nonempty

theorem isUnbounded_coordinateProgram_iff (inside : index < polytope.dimension)
    {maximize : Bool} :
    (polytope.coordinateProgram index maximize).IsUnbounded ↔
      ∀ bound, ∃ value ∈ polytope.coordinates index,
        if maximize then bound < value else value < bound := by
  unfold LinearProgram.IsUnbounded
  simp only [attains_coordinateProgram_iff inside]
  constructor
  · rintro ⟨_, beyond⟩ bound
    obtain ⟨point, value, attains, better⟩ := beyond bound
    exact ⟨value, ⟨point, attains⟩, better⟩
  · intro beyond
    refine ⟨nonempty, fun bound => ?_⟩
    obtain ⟨value, ⟨point, attains⟩, better⟩ := beyond bound
    exact ⟨point, value, attains, better⟩

/-- True outcomes of the two programs of a coordinate are its sides. -/
theorem hasSides_of_isSolvedBy (inside : index < polytope.dimension)
    {low high : Outcome}
    (lowSolved : (polytope.coordinateProgram index false).IsSolvedBy low)
    (highSolved : (polytope.coordinateProgram index true).IsSolvedBy high) :
    HasSides (polytope.coordinates index) (low.value?, high.value?) := by
  have feasible : ∀ maximize,
      ¬(polytope.coordinateProgram index maximize).IsInfeasible := by
    intro maximize infeasible
    obtain ⟨point, contained⟩ := nonempty
    exact infeasible point contained
  have lowUnbounded : (polytope.coordinateProgram index false).IsUnbounded ↔
      ∀ bound, ∃ value ∈ polytope.coordinates index, value < bound :=
    isUnbounded_coordinateProgram_iff nonempty inside
  have highUnbounded : (polytope.coordinateProgram index true).IsUnbounded ↔
      ∀ bound, ∃ value ∈ polytope.coordinates index, bound < value :=
    isUnbounded_coordinateProgram_iff nonempty inside
  constructor
  · intro value
    exact lowSolved.value?_eq_some_iff.trans
      (hasOptimum_coordinateProgram_iff inside)
  · rw [not_bddBelow_iff]
    exact (lowSolved.value?_eq_none_iff (feasible false)).trans lowUnbounded
  · intro value
    exact highSolved.value?_eq_some_iff.trans
      (hasOptimum_coordinateProgram_iff inside)
  · rw [not_bddAbove_iff]
    exact (highSolved.value?_eq_none_iff (feasible true)).trans highUnbounded

/-- The sides of all listed coordinates are found, unless the budget runs out
or an answer of the rule is refused. -/
theorem yields_coordinateBounds {σ : Type} (rule : PivotRule σ) (budget : Nat)
    {indices : List Nat}
    (inside : ∀ index ∈ indices, index < polytope.dimension)
    (state : σ) :
    rule.Yields
      (fun result => List.Forall₂
        (fun index sides => HasSides (polytope.coordinates index) sides)
        indices result.1)
      (polytope.coordinateBounds rule budget indices state) := by
  induction indices generalizing state with
  | nil => exact List.Forall₂.nil
  | cons index indices induction =>
      have here := inside index List.mem_cons_self
      unfold coordinateBounds
      apply ((polytope.coordinateProgram index false).yields_solve rule
        budget state).bind
      rintro ⟨low, afterLow⟩ lowSolved
      apply ((polytope.coordinateProgram index true).yields_solve rule
        budget afterLow).bind
      rintro ⟨high, afterHigh⟩ highSolved
      apply (induction (fun other member =>
        inside other (List.mem_cons_of_mem _ member)) afterHigh).bind
      rintro ⟨rest, final⟩ restSides
      exact .cons (hasSides_of_isSolvedBy nonempty here lowSolved highSolved)
        restSides

end Nonempty

/-! ## Extents -/

/-- All that an extent says about a polytope is true. -/
structure IsMeasuredBy (polytope : Polytope) (extent : Extent) : Prop where
  nonempty_iff : extent.nonempty = true ↔
    ∃ point, polytope.contains point = .ok true
  sides : extent.nonempty = true → List.Forall₂
    (fun index sides => HasSides (polytope.coordinates index) sides)
    (List.range polytope.dimension) extent.boundaries
  bounded_iff : extent.nonempty = true → (extent.bounded = true ↔
    ∀ sides ∈ extent.boundaries, sides.1.isSome ∧ sides.2.isSome)
  vertices_eq : extent.nonempty = true → polytope.dimension = 2 →
    polytope.vertices = .ok extent.vertices

theorem yields_extent {σ : Type} (polytope : Polytope) (rule : PivotRule σ)
    (budget : Nat) (state : σ) :
    rule.Yields polytope.IsMeasuredBy (polytope.extent rule budget state) := by
  unfold extent
  apply (polytope.feasibility.yields_solve rule budget state).bind
  rintro ⟨solved, next⟩ truth
  have infeasible_iff : solved.status = .infeasible ↔
      ¬∃ point, polytope.contains point = .ok true := by
    rw [not_exists]
    exact truth.status_eq_infeasible_iff
  simp only
  split
  · next infeasible =>
      have empty := infeasible_iff.mp infeasible
      exact {
        nonempty_iff := by simp [empty]
        sides := fun none => nomatch none
        bounded_iff := fun none => nomatch none
        vertices_eq := fun none => nomatch none }
  · next feasible =>
      have nonempty : ∃ point, polytope.contains point = .ok true :=
        not_not.mp (feasible ∘ infeasible_iff.mpr)
      apply (yields_coordinateBounds nonempty rule budget
        (fun _ => List.mem_range.mp) next).bind
      rintro ⟨boundaries, final⟩ sides
      have measured : ∀ vertices, (polytope.dimension = 2 →
          polytope.vertices = .ok vertices) → polytope.IsMeasuredBy {
            nonempty := true
            bounded := boundaries.all fun sides =>
              sides.1.isSome && sides.2.isSome
            boundaries := boundaries
            vertices := vertices } := fun vertices listed => {
        nonempty_iff := by simp [nonempty]
        sides := fun _ => sides
        bounded_iff := fun _ => by simp
        vertices_eq := fun _ => listed }
      by_cases plane : polytope.dimension = 2
      · obtain ⟨vertices, listed, _⟩ := exists_vertices_perm plane
        simp only [plane, if_true, listed, Halt.lift_bind]
        exact measured vertices fun _ => listed
      · simp only [plane, if_false]
        exact measured [] fun same => absurd same plane

variable {σ : Type} {rule : PivotRule σ} {budget : Nat} {state : σ}

theorem IsMeasuredBy.hasSides {extent : Extent}
    (measured : polytope.IsMeasuredBy extent)
    (nonempty : extent.nonempty = true) {sides : Option Rat × Option Rat}
    (listed : extent.boundaries[index]? = some sides) :
    index < polytope.dimension ∧
      HasSides (polytope.coordinates index) sides := by
  have all := measured.sides nonempty
  have length := all.length_eq
  rw [List.length_range] at length
  obtain ⟨inside, rfl⟩ := List.getElem?_eq_some_iff.mp listed
  have bounded : index < polytope.dimension := by omega
  refine ⟨bounded, ?_⟩
  have here := all.get (by simpa using bounded) inside
  simpa using here

theorem IsMeasuredBy.bounded_iff_bdd {extent : Extent}
    (measured : polytope.IsMeasuredBy extent)
    (nonempty : extent.nonempty = true) :
    extent.bounded = true ↔ ∀ index < polytope.dimension,
      BddBelow (polytope.coordinates index) ∧
        BddAbove (polytope.coordinates index) := by
  have length := (measured.sides nonempty).length_eq
  rw [List.length_range] at length
  rw [measured.bounded_iff nonempty]
  constructor
  · intro all index inside
    rw [length] at inside
    have listed := List.getElem?_eq_getElem inside
    obtain ⟨_, hasSides⟩ := measured.hasSides nonempty listed
    exact hasSides.isSome_iff.mp (all _ (List.getElem_mem inside))
  · intro all sides member
    obtain ⟨index, listed⟩ := List.getElem?_of_mem member
    obtain ⟨inside, hasSides⟩ := measured.hasSides nonempty listed
    exact hasSides.isSome_iff.mpr (all index inside)

variable {σ : Type} {rule : PivotRule σ} {budget : Nat} {state : σ}

/-- With a rule that picks from the offered pivots, an extent that is found
tells whether the polytope has a point.  If it has one, the boundaries are the
least and the greatest value of every coordinate, as far as they exist, and the
polytope is said to be bounded when all coordinates have bounds. -/
theorem extent_exact (polytope : Polytope) (respects : rule.Respects)
    (ended : polytope.extent rule budget state ≠ .error .budget) :
    ∃ extent, polytope.extent rule budget state = .ok extent ∧
      (extent.nonempty = true ↔
        ∃ point, polytope.contains point = .ok true) ∧
      (extent.nonempty = true →
        extent.boundaries.length = polytope.dimension ∧
        (∀ index sides, extent.boundaries[index]? = some sides →
          HasSides (polytope.coordinates index) sides) ∧
        (extent.bounded = true ↔ ∀ index < polytope.dimension,
          BddBelow (polytope.coordinates index) ∧
            BddAbove (polytope.coordinates index))) := by
  obtain ⟨extent, found, measured⟩ :=
    (polytope.yields_extent rule budget state).exists_of_respects
      respects ended
  refine ⟨extent, found, measured.nonempty_iff, fun nonempty =>
    ⟨?_, ?_, measured.bounded_iff_bdd nonempty⟩⟩
  · rw [← (measured.sides nonempty).length_eq, List.length_range]
  · intro index sides listed
    exact (measured.hasSides nonempty listed).2

/-- The points with the sum two whose first coordinate is not negative are
bounded to the left and from above only. -/
theorem extent_exact_onLine : ∃ extent,
    (LinearProgram.onLine 2 (-1)).polytope.extent PivotRule.first 4 () =
        .ok extent ∧
      extent.boundaries = [(some 0, none), (none, some 2)] ∧
      IsLeast ((LinearProgram.onLine 2 (-1)).polytope.coordinates 0) 0 ∧
      ¬BddAbove ((LinearProgram.onLine 2 (-1)).polytope.coordinates 0) ∧
      IsGreatest ((LinearProgram.onLine 2 (-1)).polytope.coordinates 1) 2 := by
  have computed : ((LinearProgram.onLine 2 (-1)).polytope.extent
      PivotRule.first 4 ()).toOption.map
        (fun extent => (extent.nonempty, extent.boundaries)) =
      some (true, [(some 0, none), (none, some 2)]) := by
    decide +kernel
  obtain ⟨result, found, seen⟩ := exists_ok_of_map_toOption computed
  obtain ⟨nonempty, boundaries⟩ := Prod.mk.inj seen
  have ended : (LinearProgram.onLine 2 (-1)).polytope.extent
      PivotRule.first 4 () ≠ .error .budget := by
    rw [found]
    exact fun same => nomatch same
  obtain ⟨extent, run, _, exact⟩ := extent_exact
    (LinearProgram.onLine 2 (-1)).polytope PivotRule.respects_first ended
  rw [found] at run
  cases run
  obtain ⟨_, sides, _⟩ := exact nonempty
  rw [boundaries] at sides
  have first := sides 0 _ rfl
  have second := sides 1 _ rfl
  exact ⟨result, found, boundaries, (first.low_eq_some_iff 0).mp rfl,
    first.high_eq_none_iff.mp rfl, (second.high_eq_some_iff 2).mp rfl⟩

end Polytope

end RationalSimplex
