import Mathlib.Algebra.Order.Ring.Abs
import Mathlib.Tactic.Linarith
import Mathlib.Tactic.LinearCombination
import RationalSimplex.Geometry.Vertices
import RationalSimplex.Proofs.Linear.Points

/-!
# The vertices are the extreme points

A point of a polytope is extreme when it is not halfway between two others.
Where it is, the boundary lines through it run through both of them, so that a
point where two boundary lines cross is extreme.  When all boundary lines
through a point of the polytope have the same direction, the point can be moved
a little to both sides along them.
-/

namespace RationalSimplex

/-! ## Lists -/

section Lists

variable {α : Type}

@[simp] theorem mem_distinct_iff [DecidableEq α] {items : List α} {item : α} :
    item ∈ distinct items ↔ item ∈ items := by
  induction items with
  | nil => rfl
  | cons first rest induction =>
      simp only [distinct, List.mem_cons, List.mem_filter, induction,
        decide_eq_true_eq]
      constructor
      · rintro (same | ⟨later, _⟩)
        · exact .inl same
        · exact .inr later
      · rintro (same | later)
        · exact .inl same
        · by_cases same : item = first
          · exact .inl same
          · exact .inr ⟨later, same⟩

theorem nodup_distinct [DecidableEq α] (items : List α) :
    (distinct items).Nodup := by
  induction items with
  | nil => exact List.nodup_nil
  | cons first rest induction =>
      apply List.nodup_cons.mpr
      exact ⟨by simp, induction.filter _⟩

theorem mem_of_mem_pairsOf {items : List α} {first second : α}
    (member : (first, second) ∈ pairsOf items) :
    first ∈ items ∧ second ∈ items := by
  induction items with
  | nil => cases member
  | cons head rest induction =>
      rcases List.mem_append.mp member with here | later
      · obtain ⟨other, listed, same⟩ := List.mem_map.mp here
        cases same
        exact ⟨List.mem_cons_self, List.mem_cons_of_mem _ listed⟩
      · obtain ⟨firstLater, secondLater⟩ := induction later
        exact ⟨List.mem_cons_of_mem _ firstLater,
          List.mem_cons_of_mem _ secondLater⟩

/-- Two different members make a pair, the one or the other first. -/
theorem mem_pairsOf_or {items : List α} {first second : α}
    (firstMember : first ∈ items) (secondMember : second ∈ items)
    (different : first ≠ second) :
    (first, second) ∈ pairsOf items ∨ (second, first) ∈ pairsOf items := by
  induction items with
  | nil => cases firstMember
  | cons head rest induction =>
      have here : ∀ {item : α}, item ∈ rest →
          (head, item) ∈ pairsOf (head :: rest) := by
        intro item member
        exact List.mem_append_left _ (List.mem_map_of_mem member)
      rcases List.mem_cons.mp firstMember with rfl | firstLater
      · rcases List.mem_cons.mp secondMember with rfl | secondLater
        · exact absurd rfl different
        · exact .inl (here secondLater)
      · rcases List.mem_cons.mp secondMember with rfl | secondLater
        · exact .inr (here firstLater)
        · rcases induction firstLater secondLater with listed | listed
          · exact .inl (List.mem_append_right _ listed)
          · exact .inr (List.mem_append_right _ listed)

end Lists

namespace Point

/-- The point in the middle between two points. -/
def halfway (first second : Point) : Point :=
  ((first.1 + second.1) / 2, (first.2 + second.2) / 2)

/-- The point that is reached from another one in a direction. -/
def moved (point direction : Point) (amount : Rat) : Point :=
  (point.1 + amount * direction.1, point.2 + amount * direction.2)

@[simp]
theorem halfway_moved_moved (point direction : Point) (first second : Rat) :
    (point.moved direction first).halfway (point.moved direction second) =
      point.moved direction ((first + second) / 2) := by
  unfold halfway moved
  apply Prod.ext
  · ring
  · ring

@[simp] theorem halfway_moved (point direction : Point) (amount : Rat) :
    (point.moved direction amount).halfway (point.moved direction (-amount)) =
      point := by
  rw [halfway_moved_moved, add_neg_cancel, zero_div]
  simp [moved]

theorem moved_injective {direction : Point} (different : direction ≠ (0, 0))
    (point : Point) : Function.Injective (point.moved direction) := by
  intro first second same
  obtain ⟨across, upward⟩ := Prod.mk.inj same
  rw [add_right_inj, mul_eq_mul_right_iff] at across upward
  by_contra unequal
  exact different (Prod.ext (across.resolve_left unequal)
    (upward.resolve_left unequal))

theorem moved_ne {direction : Point} (different : direction ≠ (0, 0))
    {amount : Rat} (positive : 0 < amount) (point : Point) :
    point.moved direction amount ≠ point.moved direction (-amount) := by
  intro same
  have opposite := moved_injective different point same
  linarith

theorem lowest_mem (point : Point) (points : List Point) :
    lowest point points ∈ point :: points := by
  unfold lowest
  induction points generalizing point with
  | nil => exact List.mem_cons_self
  | cons next points induction =>
      rw [List.foldl_cons]
      split
      · exact List.mem_cons_of_mem _ (induction next)
      · rcases List.mem_cons.mp (induction point) with same | later
        · exact List.mem_cons.mpr (.inl same)
        · exact List.mem_cons_of_mem _ (List.mem_cons_of_mem _ later)

end Point

/-! ## Boundary lines -/

/-- Two numbers in a relation to a third one are equal to it, if their mean
is. -/
theorem Relation.eq_of_mean_eq {relation : Relation} {left right mean : Rat}
    (leftHolds : relation.Holds left mean)
    (rightHolds : relation.Holds right mean)
    (equal : (left + right) / 2 = mean) : left = mean ∧ right = mean := by
  cases relation with
  | le =>
      have leftBelow : left ≤ mean := leftHolds
      have rightBelow : right ≤ mean := rightHolds
      constructor <;> linarith
  | eq => exact ⟨leftHolds, rightHolds⟩
  | ge =>
      have leftAbove : mean ≤ left := leftHolds
      have rightAbove : mean ≤ right := rightHolds
      constructor <;> linarith

/-- A small change leaves a number in a relation to another one from which it
differs. -/
theorem Relation.holds_add {relation : Relation} {number bound change : Rat}
    (holds : relation.Holds number bound) (different : number ≠ bound)
    (small : |change| ≤ |number - bound|) :
    relation.Holds (number + change) bound := by
  have limits := abs_le.mp small
  cases relation with
  | le =>
      have below : number ≤ bound := holds
      rw [abs_of_nonpos (sub_nonpos.mpr below)] at limits
      have still : number + change ≤ bound := by linarith
      exact still
  | eq => exact absurd holds different
  | ge =>
      have above : bound ≤ number := holds
      rw [abs_of_nonneg (sub_nonneg.mpr above)] at limits
      have still : bound ≤ number + change := by linarith
      exact still

namespace Constraint

variable {constraint first second : Constraint}
  {point direction start finish : Point}

/-- The value of the expression at a point of the plane. -/
def valueAt (constraint : Constraint) (point : Point) : Rat :=
  dot constraint.expression.coefficients [point.1, point.2]

/-- The point of the plane satisfies the constraint. -/
def HoldsAt (constraint : Constraint) (point : Point) : Prop :=
  constraint.relation.Holds (constraint.valueAt point) constraint.constant

/-- The point is on the boundary line of the constraint. -/
def IsTightAt (constraint : Constraint) (point : Point) : Prop :=
  constraint.valueAt point = constraint.constant

/-- What is zero when two boundary lines have the same direction. -/
def determinant (first second : Constraint) : Rat :=
  first.expression.coefficients.getD 0 0 *
      second.expression.coefficients.getD 1 0 -
    first.expression.coefficients.getD 1 0 *
      second.expression.coefficients.getD 0 0

theorem valueAt_eq (constraint : Constraint) (point : Point) :
    constraint.valueAt point =
      constraint.expression.coefficients.getD 0 0 * point.1 +
        constraint.expression.coefficients.getD 1 0 * point.2 := by
  unfold valueAt
  match constraint.expression.coefficients with
  | [] => simp
  | [first] => simp
  | first :: second :: rest => simp

@[simp]
theorem valueAt_moved (constraint : Constraint) (point direction : Point)
    (amount : Rat) :
    constraint.valueAt (point.moved direction amount) =
      constraint.valueAt point + amount * constraint.valueAt direction := by
  simp only [valueAt_eq, Point.moved]
  ring

@[simp]
theorem valueAt_halfway (constraint : Constraint) (start finish : Point) :
    constraint.valueAt (start.halfway finish) =
      (constraint.valueAt start + constraint.valueAt finish) / 2 := by
  simp only [valueAt_eq, Point.halfway]
  ring

/-- A boundary line through the middle of two points that satisfy the
constraint runs through both of them. -/
theorem isTightAt_of_halfway
    (startInside : constraint.HoldsAt start)
    (finishInside : constraint.HoldsAt finish)
    (tight : constraint.IsTightAt (start.halfway finish)) :
    constraint.IsTightAt start ∧ constraint.IsTightAt finish := by
  unfold IsTightAt at tight
  rw [valueAt_halfway] at tight
  exact Relation.eq_of_mean_eq startInside finishInside tight

/-- The crossing point is the only one on both lines, and there is one unless
the lines have the same direction. -/
theorem crossingPoint?_eq_some_iff (planar : first.width = 2)
    (secondPlanar : second.width = 2) :
    first.crossingPoint? second = some point ↔
      first.determinant second ≠ 0 ∧ first.IsTightAt point ∧
        second.IsTightAt point := by
  obtain ⟨a, b, coefficients⟩ := List.length_eq_two.mp planar
  obtain ⟨c, d, secondCoefficients⟩ := List.length_eq_two.mp secondPlanar
  have determinant : first.determinant second = a * d - b * c := by
    simp [Constraint.determinant, coefficients, secondCoefficients]
  have tight : first.IsTightAt point ↔
      a * point.1 + b * point.2 = first.constant := by
    simp [IsTightAt, valueAt, coefficients]
  have secondTight : second.IsTightAt point ↔
      c * point.1 + d * point.2 = second.constant := by
    simp [IsTightAt, valueAt, secondCoefficients]
  rw [determinant, tight, secondTight]
  unfold crossingPoint?
  simp only [coefficients, secondCoefficients]
  by_cases zero : a * d - b * c = 0
  · simp [zero]
  · rw [if_neg zero, Option.some.injEq]
    constructor
    · rintro rfl
      refine ⟨zero, ?_, ?_⟩
      · rw [← mul_div_assoc, ← mul_div_assoc, ← add_div, div_eq_iff zero]
        ring
      · rw [← mul_div_assoc, ← mul_div_assoc, ← add_div, div_eq_iff zero]
        ring
    · rintro ⟨_, onFirst, onSecond⟩
      apply Prod.ext
      · rw [div_eq_iff zero]
        linear_combination (-d) * onFirst + b * onSecond
      · rw [div_eq_iff zero]
        linear_combination c * onFirst - a * onSecond

/-- Lines that do not cross have a common direction. -/
theorem exists_direction {tight : Constraint → Prop}
    (parallel : ∀ first second, tight first → tight second →
      first.determinant second = 0) :
    ∃ direction : Point, direction ≠ (0, 0) ∧
      ∀ constraint, tight constraint → constraint.valueAt direction = 0 := by
  by_cases flat : ∀ constraint, tight constraint →
      constraint.expression.coefficients.getD 0 0 = 0
  · refine ⟨(1, 0), by simp, ?_⟩
    intro constraint listed
    rw [valueAt_eq, flat constraint listed]
    ring
  · simp only [not_forall] at flat
    obtain ⟨steep, listed, nonzero⟩ := flat
    refine ⟨(-steep.expression.coefficients.getD 1 0,
      steep.expression.coefficients.getD 0 0), ?_, ?_⟩
    · intro same
      exact nonzero (congrArg Prod.snd same)
    · intro constraint other
      have zero := parallel steep constraint listed other
      unfold determinant at zero
      rw [valueAt_eq]
      linear_combination zero

/-- A point that satisfies a constraint does so a little farther to both sides,
where the boundary line does not stand in the way. -/
theorem exists_room (holds : constraint.HoldsAt point)
    (along : constraint.IsTightAt point →
      constraint.valueAt direction = 0) :
    ∃ room, 0 < room ∧ ∀ amount, |amount| ≤ room →
      constraint.HoldsAt (point.moved direction amount) := by
  unfold HoldsAt
  by_cases tight : constraint.IsTightAt point
  · refine ⟨1, one_pos, fun amount _ => ?_⟩
    rw [valueAt_moved, along tight, mul_zero, add_zero]
    exact holds
  · have gap : 0 < |constraint.valueAt point - constraint.constant| :=
      abs_pos.mpr (sub_ne_zero.mpr tight)
    have steepness : 0 < |constraint.valueAt direction| + 1 :=
      add_pos_of_nonneg_of_pos (abs_nonneg _) one_pos
    refine ⟨_, div_pos gap steepness, fun amount small => ?_⟩
    rw [valueAt_moved]
    apply Relation.holds_add holds tight
    rw [le_div_iff₀ steepness, mul_add, mul_one] at small
    rw [abs_mul]
    have positive := abs_nonneg amount
    linarith

/-- Room for every constraint of a list is room for all of them. -/
theorem exists_room_of_forall {constraints : List Constraint}
    (each : ∀ constraint ∈ constraints, ∃ room, 0 < room ∧
      ∀ amount, |amount| ≤ room →
        constraint.HoldsAt (point.moved direction amount)) :
    ∃ room, 0 < room ∧ ∀ amount, |amount| ≤ room →
      ∀ constraint ∈ constraints,
        constraint.HoldsAt (point.moved direction amount) := by
  induction constraints with
  | nil => exact ⟨1, one_pos, fun _ _ _ member => nomatch member⟩
  | cons first rest induction =>
      obtain ⟨near, nearPositive, nearHolds⟩ :=
        each first List.mem_cons_self
      obtain ⟨far, farPositive, farHolds⟩ := induction
        fun constraint member => each constraint (List.mem_cons_of_mem _ member)
      refine ⟨min near far, lt_min nearPositive farPositive, ?_⟩
      intro amount small constraint member
      rcases List.mem_cons.mp member with rfl | later
      · exact nearHolds amount (small.trans (min_le_left _ _))
      · exact farHolds amount (small.trans (min_le_right _ _)) constraint later

end Constraint

/-! ## Extreme points -/

namespace Polytope

variable {polytope : Polytope} {point : Point} {constraint : Constraint}

/-- The point lies in the polytope, and not halfway between two others. -/
def IsExtreme (polytope : Polytope) (point : Point) : Prop :=
  polytope.contains [point.1, point.2] = .ok true ∧
    ¬∃ first second : Point, first ≠ second ∧
      polytope.contains [first.1, first.2] = .ok true ∧
      polytope.contains [second.1, second.2] = .ok true ∧
      point = first.halfway second

section Plane

variable (plane : polytope.dimension = 2)

include plane

theorem width_of_mem_allConstraints
    (member : constraint ∈ polytope.allConstraints) :
    constraint.width = 2 := by
  rcases List.mem_append.mp member with own | sign
  · rw [polytope.width_eq constraint own, plane]
  · obtain ⟨index, _, rfl⟩ := List.mem_map.mp sign
    simp [signConstraint, Constraint.width, Expression.width,
      coordinateVector, plane]

theorem signConstraint_holdsAt_iff {index : Nat} (inside : index < 2) :
    (signConstraint polytope.dimension index).HoldsAt point ↔
      0 ≤ [point.1, point.2].getD index 0 := by
  have value : (signConstraint polytope.dimension index).valueAt point =
      [point.1, point.2].getD index 0 := by
    rw [plane]
    match index, inside with
    | 0, _ => simp [signConstraint, Constraint.valueAt, coordinateVector,
        List.range_succ]
    | 1, _ => simp [signConstraint, Constraint.valueAt, coordinateVector,
        List.range_succ]
  unfold Constraint.HoldsAt
  rw [value]
  exact Iff.rfl

/-- A point of the plane lies in the polytope when all constraints hold there,
those on the signs included. -/
theorem contains_point_iff :
    polytope.contains [point.1, point.2] = .ok true ↔
      ∀ constraint ∈ polytope.allConstraints, constraint.HoldsAt point := by
  rw [contains_eq_ok_true_iff, plane]
  constructor
  · rintro ⟨_, own, signs⟩ constraint member
    rcases List.mem_append.mp member with listed | sign
    · exact own constraint listed
    · obtain ⟨index, nonnegative, rfl⟩ := List.mem_map.mp sign
      have signed := IndexSet.mem_toList.mp nonnegative
      have inside := polytope.nonnegative_lt index signed
      rw [plane] at inside
      exact (signConstraint_holdsAt_iff plane inside).mpr (signs index signed)
  · intro all
    refine ⟨le_refl _, ?_, ?_⟩
    · intro constraint listed
      exact all constraint (List.mem_append_left _ listed)
    · intro index signed
      have inside := polytope.nonnegative_lt index signed
      rw [plane] at inside
      apply (signConstraint_holdsAt_iff plane inside).mp
      apply all
      apply List.mem_append_right
      exact List.mem_map_of_mem (IndexSet.mem_toList.mpr signed)

/-- A point of the polytope where two boundary lines cross is extreme. -/
theorem isExtreme_of_crossing {first second : Constraint}
    (inside : polytope.contains [point.1, point.2] = .ok true)
    (member : first ∈ polytope.allConstraints)
    (secondMember : second ∈ polytope.allConstraints)
    (crosses : first.crossingPoint? second = some point) :
    polytope.IsExtreme point := by
  refine ⟨inside, ?_⟩
  rintro ⟨start, finish, different, startInside, finishInside, rfl⟩
  have crossing : ∀ point, first.crossingPoint? second = some point ↔
      first.determinant second ≠ 0 ∧ first.IsTightAt point ∧
        second.IsTightAt point := fun _ =>
    Constraint.crossingPoint?_eq_some_iff
      (width_of_mem_allConstraints plane member)
      (width_of_mem_allConstraints plane secondMember)
  obtain ⟨nonzero, tight, secondTight⟩ := (crossing _).mp crosses
  rw [contains_point_iff plane] at startInside finishInside
  -- Both ends are where the lines cross, so that they are the same point.
  obtain ⟨startTight, finishTight⟩ := Constraint.isTightAt_of_halfway
    (startInside first member) (finishInside first member) tight
  obtain ⟨startSecond, finishSecond⟩ := Constraint.isTightAt_of_halfway
    (startInside second secondMember) (finishInside second secondMember)
    secondTight
  have startCrosses := (crossing _).mpr ⟨nonzero, startTight, startSecond⟩
  have finishCrosses :=
    (crossing _).mpr ⟨nonzero, finishTight, finishSecond⟩
  rw [startCrosses] at finishCrosses
  exact different (Option.some.inj finishCrosses)

/-- Two boundary lines cross in an extreme point. -/
theorem IsExtreme.exists_crossing (extreme : polytope.IsExtreme point) :
    ∃ first ∈ polytope.allConstraints, ∃ second ∈ polytope.allConstraints,
      first.crossingPoint? second = some point := by
  obtain ⟨inside, alone⟩ := extreme
  rw [contains_point_iff plane] at inside
  by_contra none
  -- The lines through the point are parallel, and it can move along them.
  have parallel : ∀ first second,
      (first ∈ polytope.allConstraints ∧ first.IsTightAt point) →
      (second ∈ polytope.allConstraints ∧ second.IsTightAt point) →
        first.determinant second = 0 := by
    rintro first second ⟨member, tight⟩ ⟨secondMember, secondTight⟩
    by_contra nonzero
    refine none ⟨first, member, second, secondMember, ?_⟩
    exact (Constraint.crossingPoint?_eq_some_iff
      (width_of_mem_allConstraints plane member)
      (width_of_mem_allConstraints plane secondMember)).mpr
        ⟨nonzero, tight, secondTight⟩
  obtain ⟨direction, different, along⟩ :=
    Constraint.exists_direction parallel
  obtain ⟨room, positive, stays⟩ := Constraint.exists_room_of_forall
    fun constraint member => Constraint.exists_room (inside constraint member)
      fun tight => along constraint ⟨member, tight⟩
  refine alone ⟨point.moved direction room, point.moved direction (-room),
    Point.moved_ne different positive point, ?_, ?_,
    (Point.halfway_moved point direction room).symm⟩
  · exact (contains_point_iff plane).mpr
      (stays room (abs_of_pos positive).le)
  · apply (contains_point_iff plane).mpr
    apply stays
    rw [abs_neg, abs_of_pos positive]

/-! ## The list of vertices -/

theorem mem_corners_iff :
    point ∈ polytope.corners ↔ polytope.IsExtreme point := by
  have meaning : polytope.contains [point.1, point.2] = .ok true ↔
      polytope.Contains [point.1, point.2] := by
    rw [contains_eq_ok_true_iff, plane]
    exact and_iff_right (le_refl _)
  unfold corners
  rw [mem_distinct_iff, List.mem_filter, List.mem_filterMap,
    decide_eq_true_iff, ← meaning]
  constructor
  · rintro ⟨⟨⟨first, second⟩, paired, crosses⟩, inside⟩
    obtain ⟨member, secondMember⟩ := mem_of_mem_pairsOf paired
    exact isExtreme_of_crossing plane inside member secondMember crosses
  · intro extreme
    obtain ⟨first, member, second, secondMember, crosses⟩ :=
      extreme.exists_crossing plane
    have planar := width_of_mem_allConstraints plane member
    have secondPlanar := width_of_mem_allConstraints plane secondMember
    obtain ⟨nonzero, tight, secondTight⟩ :=
      (Constraint.crossingPoint?_eq_some_iff planar secondPlanar).mp crosses
    have different : first ≠ second := by
      rintro rfl
      exact nonzero (by unfold Constraint.determinant; ring)
    refine ⟨?_, extreme.1⟩
    rcases mem_pairsOf_or member secondMember different with listed | listed
    · exact ⟨_, listed, crosses⟩
    · refine ⟨_, listed, ?_⟩
      apply (Constraint.crossingPoint?_eq_some_iff secondPlanar planar).mpr
      refine ⟨fun zero => nonzero ?_, secondTight, tight⟩
      unfold Constraint.determinant at zero ⊢
      linear_combination -zero

/-- The vertices are the corners in another order. -/
theorem exists_vertices_perm : ∃ vertices,
    polytope.vertices = .ok vertices ∧ vertices.Perm polytope.corners := by
  unfold vertices
  rw [if_pos plane]
  cases polytope.corners with
  | nil => exact ⟨[], rfl, .refl _⟩
  | cons corner corners =>
      refine ⟨_, rfl, ?_⟩
      apply (List.mergeSort_perm _ _).trans
      exact (List.perm_cons_erase (Point.lowest_mem corner corners)).symm

theorem mem_vertices_iff {vertices : List Point}
    (listed : polytope.vertices = .ok vertices) :
    point ∈ vertices ↔ polytope.IsExtreme point := by
  obtain ⟨corners, listedCorners, permuted⟩ := exists_vertices_perm plane
  rw [listed] at listedCorners
  cases listedCorners
  rw [permuted.mem_iff, mem_corners_iff plane]

/-- The vertices of a polytope in the plane are its extreme points, each listed
once. -/
theorem vertices_extreme : ∃ vertices, polytope.vertices = .ok vertices ∧
    vertices.Nodup ∧
      ∀ point, point ∈ vertices ↔ polytope.IsExtreme point := by
  obtain ⟨vertices, listed, permuted⟩ := exists_vertices_perm plane
  refine ⟨vertices, listed, ?_, ?_⟩
  · rw [permuted.nodup_iff]
    exact nodup_distinct _
  · intro point
    rw [permuted.mem_iff]
    exact mem_corners_iff plane

end Plane

/-- The points with nonnegative coordinates and the sum one at most, given with
two further rows that do not matter. -/
def triangle : Polytope where
  dimension := 2
  constraints := [⟨⟨[1, 1]⟩, .le, 1⟩, ⟨⟨[0, 0]⟩, .eq, 0⟩, ⟨⟨[2, 2]⟩, .le, 2⟩]
  nonnegative := .below 2
  constraints_ne_nil := List.cons_ne_nil _ _
  width_eq := by decide
  nonnegative_lt := fun _ member => IndexSet.mem_below.mp member

/-- A corner of the triangle is a vertex, and the middle of its long side is
not. -/
theorem vertices_extreme_triangle : triangle.dimension = 2 ∧
    ∃ vertices, triangle.vertices = .ok vertices ∧ vertices.Nodup ∧
      (1, 0) ∈ vertices ∧ (1 / 2, 1 / 2) ∉ vertices := by
  have plane : triangle.dimension = 2 := rfl
  obtain ⟨vertices, listed, distinct, extreme⟩ := vertices_extreme plane
  refine ⟨plane, vertices, listed, distinct, ?_, ?_⟩
  · rw [extreme, ← mem_corners_iff plane]
    decide +kernel
  · rw [extreme, ← mem_corners_iff plane]
    decide +kernel

end Polytope

end RationalSimplex
