import RationalSimplex.Proofs.Geometry.Bounds

/-!
# Bounds are attained at vertices

Whoever walks straight on from a point of a polytope stays inside for ever or up
to a last point.  In a bounded polygon there is a last point in every direction.
Where a weighted sum of the coordinates takes its least value, a walk that does
not change the sum ends in an extreme point: were it halfway between two others,
both would have the least sum too, and one of them would lie farther on.
-/

namespace RationalSimplex

/-! ## How far a condition lasts -/

/-- From zero on the condition holds for ever, or just up to a last amount. -/
def Lasts (condition : Rat → Prop) : Prop :=
  (∀ amount, 0 ≤ amount → condition amount) ∨
    ∃ last, 0 ≤ last ∧ ∀ amount, 0 ≤ amount →
      (condition amount ↔ amount ≤ last)

theorem Lasts.and {first second : Rat → Prop} (firstLasts : Lasts first)
    (secondLasts : Lasts second) :
    Lasts fun amount => first amount ∧ second amount := by
  rcases firstLasts with always | ⟨last, nonnegative, firstIff⟩
  · rcases secondLasts with secondAlways | ⟨last, nonnegative, secondIff⟩
    · exact .inl fun amount later =>
        ⟨always amount later, secondAlways amount later⟩
    · exact .inr ⟨last, nonnegative, fun amount later =>
        (and_iff_right (always amount later)).trans (secondIff amount later)⟩
  · rcases secondLasts with always | ⟨other, otherNonnegative, secondIff⟩
    · exact .inr ⟨last, nonnegative, fun amount later =>
        (and_iff_left (always amount later)).trans (firstIff amount later)⟩
    · exact .inr ⟨min last other, le_min nonnegative otherNonnegative,
        fun amount later =>
          (and_congr (firstIff amount later) (secondIff amount later)).trans
            le_min_iff.symm⟩

theorem Lasts.forall_mem {α : Type} {items : List α}
    {condition : α → Rat → Prop}
    (each : ∀ item ∈ items, Lasts (condition item)) :
    Lasts fun amount => ∀ item ∈ items, condition item amount := by
  induction items with
  | nil => exact .inl fun _ _ _ member => nomatch member
  | cons item items induction =>
      have rest := induction fun other member =>
        each other (List.mem_cons_of_mem _ member)
      simpa only [List.forall_mem_cons] using
        (each item List.mem_cons_self).and rest

/-- A number that changes at a steady rate. -/
theorem Relation.lasts {relation : Relation} {number bound : Rat}
    (holds : relation.Holds number bound) (rate : Rat) :
    Lasts fun amount => relation.Holds (number + amount * rate) bound := by
  cases relation with
  | le =>
      have below : number ≤ bound := holds
      rcases le_or_gt rate 0 with falling | rising
      · refine .inl fun amount later => ?_
        have change := mul_nonpos_of_nonneg_of_nonpos later falling
        have still : number + amount * rate ≤ bound := by linarith
        exact still
      · refine .inr ⟨(bound - number) / rate,
          div_nonneg (sub_nonneg.mpr below) rising.le, fun amount _ => ?_⟩
        rw [le_div_iff₀ rising, le_sub_iff_add_le']
        exact Iff.rfl
  | eq =>
      have same : number = bound := holds
      by_cases still : rate = 0
      · refine .inl fun amount _ => ?_
        have unmoved : number + amount * rate = bound := by
          rw [still, mul_zero, add_zero, same]
        exact unmoved
      · refine .inr ⟨0, le_refl _, fun amount later => ?_⟩
        have moved : number + amount * rate = bound ↔ amount = 0 := by
          rw [same, add_eq_left, mul_eq_zero, or_iff_left still]
        exact moved.trans ⟨Eq.le, fun small => le_antisymm small later⟩
  | ge =>
      have above : bound ≤ number := holds
      rcases le_or_gt 0 rate with rising | falling
      · refine .inl fun amount later => ?_
        have change := mul_nonneg later rising
        have still : bound ≤ number + amount * rate := by linarith
        exact still
      · refine .inr ⟨(number - bound) / -rate,
          div_nonneg (sub_nonneg.mpr above) (neg_nonneg.mpr falling.le),
          fun amount _ => ?_⟩
        rw [le_div_iff₀ (neg_pos.mpr falling), mul_neg, neg_le_sub_iff_le_add]
        exact Iff.rfl

/-! ## Weighted sums of coordinates -/

namespace Point

variable {weights point other : Point}

/-- The sum of the coordinates with weights. -/
def weigh (weights point : Point) : Rat :=
  weights.1 * point.1 + weights.2 * point.2

/-- The direction in which a weighted sum does not change. -/
def turned (weights : Point) : Point :=
  (-weights.2, weights.1)

/-- A coordinate by its number. -/
def along (index : Nat) (point : Point) : Rat :=
  [point.1, point.2].getD index 0

/-- The weights that count one coordinate only. -/
def axis (index : Nat) (weight : Rat) : Point :=
  if index = 0 then (weight, 0) else (0, weight)

@[simp] theorem weigh_axis {index : Nat} (inside : index < 2) (weight : Rat) :
    (axis index weight).weigh point = weight * point.along index := by
  match index, inside with
  | 0, _ => simp [axis, weigh, along]
  | 1, _ => simp [axis, weigh, along]

theorem axis_ne_zero (index : Nat) {weight : Rat} (nonzero : weight ≠ 0) :
    axis index weight ≠ (0, 0) := by
  unfold axis
  split
  · exact fun same => nonzero (Prod.mk.inj same).1
  · exact fun same => nonzero (Prod.mk.inj same).2

@[simp] theorem weigh_moved_turned (amount : Rat) :
    weights.weigh (point.moved weights.turned amount) =
      weights.weigh point := by
  simp only [weigh, moved, turned]
  ring

@[simp] theorem weigh_halfway :
    weights.weigh (point.halfway other) =
      (weights.weigh point + weights.weigh other) / 2 := by
  simp only [weigh, halfway]
  ring

theorem turned_ne_zero (nonzero : weights ≠ (0, 0)) :
    weights.turned ≠ (0, 0) := by
  intro same
  obtain ⟨second, first⟩ := Prod.mk.inj same
  exact nonzero (Prod.ext first (neg_eq_zero.mp second))

/-- Points with the same weighted sum lie on a line in the turned direction. -/
theorem exists_moved_of_weigh_eq (nonzero : weights ≠ (0, 0))
    (same : weights.weigh other = weights.weigh point) :
    ∃ amount, other = point.moved weights.turned amount := by
  have size : weights.1 * weights.1 + weights.2 * weights.2 ≠ 0 := by
    intro zero
    obtain ⟨first, second⟩ := (mul_self_add_mul_self_eq_zero).mp zero
    exact nonzero (Prod.ext first second)
  unfold weigh at same
  refine ⟨(weights.1 * (other.2 - point.2) -
    weights.2 * (other.1 - point.1)) /
      (weights.1 * weights.1 + weights.2 * weights.2), ?_⟩
  apply Prod.ext
  · simp only [moved, turned]
    rw [div_mul_eq_mul_div, ← sub_eq_iff_eq_add', eq_div_iff size]
    linear_combination weights.1 * same
  · simp only [moved, turned]
    rw [div_mul_eq_mul_div, ← sub_eq_iff_eq_add', eq_div_iff size]
    linear_combination weights.2 * same

end Point

/-! ## Extreme points of bounded polygons -/

namespace Polytope

variable {polytope : Polytope} {point : Point} {index : Nat} {value : Rat}

/-- No coordinate is farther from zero than a bound. -/
def IsWithin (polytope : Polytope) (bound : Rat) : Prop :=
  ∀ point : Point, polytope.contains [point.1, point.2] = .ok true →
    |point.1| ≤ bound ∧ |point.2| ≤ bound

theorem exists_amount_beyond {rate : Rat} (moving : rate ≠ 0)
    (number bound : Rat) :
    ∃ amount, 0 ≤ amount ∧ bound < |number + amount * rate| := by
  rcases lt_or_gt_of_ne moving with falling | rising
  · obtain ⟨amount, later, beyond⟩ :=
      Tableau.exists_amount falling (-number) bound
    refine ⟨amount, later, lt_of_lt_of_le ?_ (neg_le_abs _)⟩
    linarith
  · obtain ⟨amount, later, beyond⟩ :=
      Tableau.exists_amount (neg_neg_of_pos rising) number bound
    refine ⟨amount, later, lt_of_lt_of_le ?_ (le_abs_self _)⟩
    linarith

/-- A walk in a bounded polygon does not go on for ever. -/
theorem IsWithin.exists_outside {bound : Rat}
    (within : polytope.IsWithin bound) {direction : Point}
    (different : direction ≠ (0, 0)) (point : Point) :
    ∃ amount, 0 ≤ amount ∧ polytope.contains
      [(point.moved direction amount).1, (point.moved direction amount).2] ≠
        .ok true := by
  by_cases across : direction.1 = 0
  · have upward : direction.2 ≠ 0 := fun zero =>
      different (Prod.ext across zero)
    obtain ⟨amount, later, beyond⟩ :=
      exists_amount_beyond upward point.2 bound
    exact ⟨amount, later, fun inside =>
      absurd (within _ inside).2 (not_le.mpr beyond)⟩
  · obtain ⟨amount, later, beyond⟩ :=
      exists_amount_beyond across point.1 bound
    exact ⟨amount, later, fun inside =>
      absurd (within _ inside).1 (not_le.mpr beyond)⟩

section Plane

variable (plane : polytope.dimension = 2)

include plane

theorem lasts_contains
    (inside : polytope.contains [point.1, point.2] = .ok true)
    (direction : Point) :
    Lasts fun amount => polytope.contains
      [(point.moved direction amount).1, (point.moved direction amount).2] =
        .ok true := by
  rw [contains_point_iff plane] at inside
  simp only [contains_point_iff plane]
  apply Lasts.forall_mem
  intro constraint member
  simp only [Constraint.HoldsAt, Constraint.valueAt_moved]
  exact Relation.lasts (inside constraint member) _

/-- In a bounded polygon a point where a weighted sum takes its least value is
in line with an extreme point where it does. -/
theorem exists_isExtreme_of_least {bound : Rat}
    (within : polytope.IsWithin bound) {weights : Point}
    (nonzero : weights ≠ (0, 0))
    (inside : polytope.contains [point.1, point.2] = .ok true)
    (least : ∀ other : Point,
      polytope.contains [other.1, other.2] = .ok true →
        weights.weigh point ≤ weights.weigh other) :
    ∃ vertex, polytope.IsExtreme vertex ∧
      weights.weigh vertex = weights.weigh point := by
  rcases lasts_contains plane inside weights.turned with
    always | ⟨last, nonnegative, stays⟩
  · obtain ⟨amount, later, outside⟩ :=
      within.exists_outside (Point.turned_ne_zero nonzero) point
    exact absurd (always amount later) outside
  refine ⟨point.moved weights.turned last,
    ⟨(stays last nonnegative).mpr le_rfl, ?_⟩, Point.weigh_moved_turned last⟩
  rintro ⟨first, second, different, firstInside, secondInside, middle⟩
  -- Both ends have the least sum, so that they are on the way.
  have mean : weights.weigh point =
      (weights.weigh first + weights.weigh second) / 2 := by
    rw [← Point.weigh_halfway, ← middle, Point.weigh_moved_turned]
  have firstLeast := least first firstInside
  have secondLeast := least second secondInside
  have firstSame : weights.weigh first = weights.weigh point := by linarith
  have secondSame : weights.weigh second = weights.weigh point := by linarith
  obtain ⟨near, rfl⟩ := Point.exists_moved_of_weigh_eq nonzero firstSame
  obtain ⟨far, rfl⟩ := Point.exists_moved_of_weigh_eq nonzero secondSame
  rw [Point.halfway_moved_moved] at middle
  have halfway :=
    Point.moved_injective (Point.turned_ne_zero nonzero) point middle
  have before : ∀ amount, polytope.contains
      [(point.moved weights.turned amount).1,
        (point.moved weights.turned amount).2] = .ok true → amount ≤ last := by
    intro amount contained
    rcases le_total 0 amount with later | earlier
    · exact (stays amount later).mp contained
    · exact earlier.trans nonnegative
  have nearBefore := before near firstInside
  have farBefore := before far secondInside
  obtain rfl : near = far := by linarith
  exact different rfl

/-! ## Vertices and coordinates -/

/-- The coordinates beyond the second one do not count. -/
theorem mem_coordinates_iff (inside : index < 2) :
    value ∈ polytope.coordinates index ↔ ∃ point : Point,
      polytope.contains [point.1, point.2] = .ok true ∧
        point.along index = value := by
  constructor
  · rintro ⟨coordinates, contained, found⟩
    rw [contains_eq_ok_true_iff, plane] at contained
    obtain ⟨long, satisfied⟩ := contained
    match coordinates, long with
    | first :: second :: rest, _ =>
        refine ⟨(first, second), ?_, ?_⟩
        · rw [contains_eq_ok_true_iff, plane]
          refine ⟨le_rfl, ?_⟩
          rw [← contains_take, plane] at satisfied
          exact satisfied
        · match index, inside with
          | 0, _ => exact Option.some.inj found
          | 1, _ => exact Option.some.inj found
  · rintro ⟨point, contained, rfl⟩
    refine ⟨_, contained, ?_⟩
    simp [Point.along, inside]

theorem exists_isWithin
    (bounded : ∀ index < 2, BddBelow (polytope.coordinates index) ∧
      BddAbove (polytope.coordinates index)) :
    ∃ bound, polytope.IsWithin bound := by
  obtain ⟨⟨left, leftLeast⟩, ⟨right, rightGreatest⟩⟩ := bounded 0 (by decide)
  obtain ⟨⟨low, lowLeast⟩, ⟨high, highGreatest⟩⟩ := bounded 1 (by decide)
  refine ⟨max (max |left| |right|) (max |low| |high|),
    fun point inside => ⟨?_, ?_⟩⟩
  · have taken : point.1 ∈ polytope.coordinates 0 :=
      (mem_coordinates_iff plane (by decide)).mpr ⟨point, inside, rfl⟩
    exact le_max_of_le_left
      (abs_le_max_abs_abs (leftLeast taken) (rightGreatest taken))
  · have taken : point.2 ∈ polytope.coordinates 1 :=
      (mem_coordinates_iff plane (by decide)).mpr ⟨point, inside, rfl⟩
    exact le_max_of_le_right
      (abs_le_max_abs_abs (lowLeast taken) (highGreatest taken))

/-- A value of a coordinate beyond which there is none, on the side that the
sign says, is taken at a vertex. -/
theorem exists_mem_vertices {bound : Rat} (within : polytope.IsWithin bound)
    {vertices : List Point} (listed : polytope.vertices = .ok vertices)
    (inside : index < 2) {sign : Rat} (nonzero : sign ≠ 0)
    (taken : value ∈ polytope.coordinates index)
    (least : ∀ other ∈ polytope.coordinates index,
      sign * value ≤ sign * other) :
    ∃ vertex ∈ vertices, vertex.along index = value := by
  obtain ⟨point, contained, rfl⟩ := (mem_coordinates_iff plane inside).mp taken
  obtain ⟨vertex, extreme, same⟩ := exists_isExtreme_of_least plane within
    (Point.axis_ne_zero index nonzero) contained fun other otherContained => by
      rw [Point.weigh_axis inside, Point.weigh_axis inside]
      exact least _
        ((mem_coordinates_iff plane inside).mpr ⟨other, otherContained, rfl⟩)
  rw [Point.weigh_axis inside, Point.weigh_axis inside] at same
  exact ⟨vertex, (mem_vertices_iff plane listed).mpr extreme,
    mul_left_cancel₀ nonzero same⟩

/-- Where both sides of a coordinate exist, they are the least and the greatest
one of the vertices. -/
theorem HasSides.eq_of_vertices {bound : Rat}
    (within : polytope.IsWithin bound) {vertices : List Point}
    (listed : polytope.vertices = .ok vertices) (inside : index < 2)
    {low high : Rat}
    (hasSides : HasSides (polytope.coordinates index) (some low, some high)) :
    (vertices.map (Point.along index)).min? = some low ∧
      (vertices.map (Point.along index)).max? = some high := by
  have least := (hasSides.low_eq_some_iff low).mp rfl
  have greatest := (hasSides.high_eq_some_iff high).mp rfl
  have taken : ∀ other ∈ vertices.map (Point.along index),
      other ∈ polytope.coordinates index := by
    intro other member
    obtain ⟨vertex, vertexMember, rfl⟩ := List.mem_map.mp member
    have extreme := (mem_vertices_iff plane listed).mp vertexMember
    exact (mem_coordinates_iff plane inside).mpr ⟨vertex, extreme.1, rfl⟩
  rw [List.min?_eq_some_iff, List.max?_eq_some_iff]
  refine ⟨⟨?_, fun other member => least.2 (taken other member)⟩,
    ⟨?_, fun other member => greatest.2 (taken other member)⟩⟩
  · obtain ⟨vertex, member, same⟩ := exists_mem_vertices plane within listed
      inside one_ne_zero least.1 fun other otherTaken => by
        rw [one_mul, one_mul]
        exact least.2 otherTaken
    exact List.mem_map.mpr ⟨vertex, member, same⟩
  · obtain ⟨vertex, member, same⟩ := exists_mem_vertices plane within listed
      inside (neg_ne_zero.mpr one_ne_zero) greatest.1
        fun other otherTaken => by
          rw [neg_one_mul, neg_one_mul, neg_le_neg_iff]
          exact greatest.2 otherTaken
    exact List.mem_map.mpr ⟨vertex, member, same⟩

variable {σ : Type} {rule : PivotRule σ} {budget : Nat} {state : σ}

/-- The boundaries of a bounded polygon, which linear programs have found, are
those of the vertices, which are found where boundary lines cross. -/
theorem extent_vertices (respects : rule.Respects)
    (ended : polytope.extent rule budget state ≠ .error .budget) :
    ∃ extent, polytope.extent rule budget state = .ok extent ∧
      (extent.nonempty = true → extent.bounded = true →
        polytope.vertices = .ok extent.vertices ∧ extent.vertices ≠ [] ∧
        extent.boundaries =
          [((extent.vertices.map Prod.fst).min?,
              (extent.vertices.map Prod.fst).max?),
            ((extent.vertices.map Prod.snd).min?,
              (extent.vertices.map Prod.snd).max?)]) := by
  obtain ⟨extent, found, measured⟩ :=
    (polytope.yields_extent rule budget state).exists_of_respects
      respects ended
  refine ⟨extent, found, fun nonempty bounded => ?_⟩
  have listed := measured.vertices_eq nonempty plane
  have bdd := (measured.bounded_iff_bdd nonempty).mp bounded
  rw [plane] at bdd
  obtain ⟨bound, within⟩ := exists_isWithin plane bdd
  have sided : ∀ index sides, extent.boundaries[index]? = some sides →
      ∃ low high, sides = (some low, some high) ∧
        (extent.vertices.map (Point.along index)).min? = some low ∧
        (extent.vertices.map (Point.along index)).max? = some high := by
    intro index sides place
    obtain ⟨inside, hasSides⟩ := measured.hasSides nonempty place
    rw [plane] at inside
    obtain ⟨low, high, rfl⟩ := hasSides.exists_eq (bdd index inside)
    exact ⟨low, high, rfl, hasSides.eq_of_vertices plane within listed inside⟩
  have length := (measured.sides nonempty).length_eq
  rw [List.length_range, plane] at length
  obtain ⟨first, second, boundaries⟩ := List.length_eq_two.mp length.symm
  rw [boundaries] at sided ⊢
  obtain ⟨left, right, rfl, leftLeast, rightGreatest⟩ := sided 0 first rfl
  obtain ⟨low, high, rfl, lowLeast, highGreatest⟩ := sided 1 second rfl
  refine ⟨listed, ?_, ?_⟩
  · intro none
    rw [none] at leftLeast
    cases leftLeast
  · rw [← leftLeast, ← rightGreatest, ← lowLeast, ← highGreatest]
    rfl

end Plane

/-- The triangle reaches from zero to one in both directions, and its vertices
say so too. -/
theorem extent_vertices_triangle : triangle.dimension = 2 ∧
    ∃ extent, triangle.extent PivotRule.first 4 () = .ok extent ∧
      extent.nonempty = true ∧ extent.bounded = true ∧
      extent.vertices ≠ [] ∧
      (extent.vertices.map Prod.fst).min? = some 0 ∧
      (extent.vertices.map Prod.snd).max? = some 1 := by
  have computed : (triangle.extent PivotRule.first 4 ()).toOption.map
      (fun extent => (extent.nonempty, extent.bounded, extent.boundaries)) =
      some (true, true, [(some 0, some 1), (some 0, some 1)]) := by
    decide +kernel
  obtain ⟨result, found, seen⟩ := exists_ok_of_map_toOption computed
  obtain ⟨nonempty, rest⟩ := Prod.mk.inj seen
  obtain ⟨bounded, boundaries⟩ := Prod.mk.inj rest
  have ended : triangle.extent PivotRule.first 4 () ≠ .error .budget := by
    rw [found]
    exact fun same => nomatch same
  obtain ⟨extent, run, agree⟩ :=
    extent_vertices rfl PivotRule.respects_first ended
  rw [found] at run
  cases run
  obtain ⟨_, some, same⟩ := agree nonempty bounded
  rw [boundaries] at same
  simp only [List.cons.injEq, Prod.mk.injEq] at same
  exact ⟨rfl, result, found, nonempty, bounded, some, same.1.1.symm,
    same.2.1.2.symm⟩

end Polytope

end RationalSimplex
