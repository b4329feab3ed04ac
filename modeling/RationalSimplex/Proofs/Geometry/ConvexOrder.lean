import Mathlib.Data.List.Permutation
import RationalSimplex.Proofs.Geometry.Vertices
import RationalSimplex.Proofs.Sorting.ByRuns

/-!
# The vertices turn to the left

Seen from the lowest of some points, precedence on the way round is a strict
total order, although it is not transitive on the whole plane.  An extreme point
of a polytope lies neither on the way between two other points nor in a triangle
of them.  Sorted from the lowest one, any three vertices therefore turn to the
left, and the order depends neither on how the polytope was given nor on the
comparisons of the sort.
-/

namespace RationalSimplex

/-- A list is sorted when its own members can be compared, even where others
cannot. -/
theorem pairwise_mergeSort_of_mem {α : Type} {items : List α}
    {before : α → α → Bool}
    (transitive : ∀ first ∈ items, ∀ second ∈ items, ∀ third ∈ items,
      before first second → before second third → before first third)
    (total : ∀ first ∈ items, ∀ second ∈ items,
      before first second || before second first) :
    (items.mergeSort before).Pairwise fun first second =>
      before first second := by
  let among : { item // item ∈ items } → { item // item ∈ items } → Bool :=
    fun first second => before first second
  have mapped : items.mergeSort before =
      (items.attach.mergeSort among).map (·.val) := by
    rw [List.map_mergeSort (s := before) (fun _ _ _ _ => rfl),
      List.attach_map_subtype_val]
  rw [mapped, List.pairwise_map]
  apply List.pairwise_mergeSort
  · intro first second third
    exact transitive _ first.2 _ second.2 _ third.2
  · intro first second
    exact total _ first.2 _ second.2

namespace Point

variable {origin first second third point : Point} {points : List Point}

/-! ## Orientation -/

theorem orientation_swap (origin first second : Point) :
    orientation origin second first = -orientation origin first second := by
  unfold orientation
  ring

/-- A triangle is what two triangles at another point have more than a third
one. -/
theorem orientation_eq (origin first second third : Point) :
    orientation first second third =
      orientation origin first second + orientation origin second third -
        orientation origin first third := by
  unfold orientation
  ring

/-- The point on the line through two points that is the first of them at zero
and the second at one. -/
def towards (origin point : Point) (amount : Rat) : Point :=
  (origin.1 + amount * (point.1 - origin.1),
    origin.2 + amount * (point.2 - origin.2))

@[simp] theorem towards_towards (origin point : Point) (amount other : Rat) :
    origin.towards (origin.towards point amount) other =
      origin.towards point (other * amount) := by
  unfold towards
  apply Prod.ext
  · ring
  · ring

@[simp] theorem orientation_towards_left (origin first second : Point)
    (amount : Rat) :
    orientation origin (origin.towards first amount) second =
      amount * orientation origin first second := by
  unfold orientation towards
  ring

@[simp] theorem orientation_towards_right (origin first second : Point)
    (amount : Rat) :
    orientation origin first (origin.towards second amount) =
      amount * orientation origin first second := by
  unfold orientation towards
  ring

@[simp] theorem squaredDistance_towards (origin point : Point) (amount : Rat) :
    squaredDistance origin (origin.towards point amount) =
      amount ^ 2 * squaredDistance origin point := by
  unfold squaredDistance towards
  ring

theorem squaredDistance_pos (different : point ≠ origin) :
    0 < squaredDistance origin point := by
  unfold squaredDistance
  by_cases across : point.1 - origin.1 = 0
  · have upward : point.2 - origin.2 ≠ 0 := fun upward => different
      (Prod.ext (sub_eq_zero.mp across) (sub_eq_zero.mp upward))
    have positive := mul_self_pos.mpr upward
    have nonnegative := mul_self_nonneg (point.1 - origin.1)
    linarith
  · have positive := mul_self_pos.mpr across
    have nonnegative := mul_self_nonneg (point.2 - origin.2)
    linarith

/-! ## Above an origin -/

theorem IsBelow.asymm (below : first.IsBelow second) :
    ¬second.IsBelow first := by
  unfold IsBelow at below ⊢
  rintro (lower | ⟨level, left⟩)
  · rcases below with other | ⟨other, _⟩
    · linarith
    · linarith
  · rcases below with other | ⟨_, other⟩
    · linarith
    · linarith

theorem not_isBelow_trans (firstAbove : ¬first.IsBelow second)
    (secondAbove : ¬second.IsBelow third) : ¬first.IsBelow third := by
  unfold IsBelow at *
  simp only [not_or, not_and, not_lt] at *
  refine ⟨secondAbove.1.trans firstAbove.1, fun level => ?_⟩
  have upper : second.2 = third.2 := by linarith
  have lower : first.2 = second.2 := by linarith
  exact (secondAbove.2 upper).trans (firstAbove.2 lower)

theorem eq_or_isBelow_of_not (above : ¬first.IsBelow second) :
    first = second ∨ second.IsBelow first := by
  unfold IsBelow at *
  simp only [not_or, not_and, not_lt] at above
  rcases above.1.lt_or_eq with lower | level
  · exact .inr (.inl lower)
  · rcases (above.2 level.symm).lt_or_eq with left | same
    · exact .inr (.inr ⟨level, left⟩)
    · exact .inl (Prod.ext same.symm level.symm)

theorem not_isBelow_lowest (point : Point) (points : List Point) :
    ∀ other ∈ point :: points, ¬other.IsBelow (lowest point points) := by
  unfold lowest
  induction points generalizing point with
  | nil =>
      intro other member
      rw [List.mem_singleton.mp member]
      exact fun below => below.asymm below
  | cons next points induction =>
      rw [List.foldl_cons]
      split
      · next below =>
          have least := induction next
          rw [List.forall_mem_cons]
          exact ⟨not_isBelow_trans below.asymm
            (least next List.mem_cons_self), least⟩
      · next above =>
          have least := induction point
          rw [List.forall_mem_cons] at least ⊢
          refine ⟨least.1, ?_⟩
          rw [List.forall_mem_cons]
          exact ⟨not_isBelow_trans above least.1, least.2⟩

/-- A point that is not below an origin is in the direction of a higher one, or
to the right on the same level. -/
theorem rises_or_level (above : ¬point.IsBelow origin) :
    0 < point.2 - origin.2 ∨
      point.2 - origin.2 = 0 ∧ 0 ≤ point.1 - origin.1 := by
  unfold IsBelow at above
  simp only [not_or, not_and, not_lt] at above
  rcases above.1.lt_or_eq with lower | level
  · exact .inl (sub_pos.mpr lower)
  · exact .inr ⟨sub_eq_zero.mpr level.symm,
      sub_nonneg.mpr (above.2 level.symm)⟩

/-- In line with an origin, points that are not below it are on the same
side. -/
theorem exists_towards (above : ¬first.IsBelow origin)
    (otherAbove : ¬second.IsBelow origin) (different : second ≠ origin)
    (inLine : orientation origin first second = 0) :
    ∃ amount, 0 ≤ amount ∧ first = origin.towards second amount := by
  unfold orientation at inLine
  rcases rises_or_level otherAbove with rises | ⟨level, right⟩
  · refine ⟨(first.2 - origin.2) / (second.2 - origin.2), ?_, ?_⟩
    · rcases rises_or_level above with higher | ⟨same, _⟩
      · exact (div_pos higher rises).le
      · rw [same, zero_div]
    · unfold towards
      apply Prod.ext
      · have across : first.1 - origin.1 =
            (first.2 - origin.2) / (second.2 - origin.2) *
              (second.1 - origin.1) := by
          rw [div_mul_eq_mul_div, eq_div_iff rises.ne']
          linear_combination inLine
        linear_combination across
      · have upward := div_mul_cancel₀ (first.2 - origin.2) rises.ne'
        linear_combination -upward
  · have farther : 0 < second.1 - origin.1 := by
      apply lt_of_le_of_ne right
      intro same
      exact different
        (Prod.ext (sub_eq_zero.mp same.symm) (sub_eq_zero.mp level))
    rw [level, mul_zero, zero_sub, neg_eq_zero, mul_eq_zero,
      or_iff_left farther.ne'] at inLine
    refine ⟨(first.1 - origin.1) / (second.1 - origin.1), ?_, ?_⟩
    · rcases rises_or_level above with higher | ⟨_, nonnegative⟩
      · exact absurd inLine higher.ne'
      · exact div_nonneg nonnegative farther.le
    · unfold towards
      apply Prod.ext
      · have across := div_mul_cancel₀ (first.1 - origin.1) farther.ne'
        linear_combination -across
      · rw [level, mul_zero]
        linear_combination inLine

/-! ## Precedence -/

theorem Precedes.asymm (precedes : Precedes origin first second) :
    ¬Precedes origin second first := by
  unfold Precedes at *
  rw [orientation_swap origin first second]
  rintro (right | ⟨inLine, farther⟩)
  · rcases precedes with left | ⟨inLine, _⟩
    · linarith
    · linarith
  · rcases precedes with left | ⟨_, nearer⟩
    · linarith
    · linarith

/-- The first point lies on the way from the origin to the second. -/
def IsOnWay (origin first second : Point) : Prop :=
  ∃ amount, 0 ≤ amount ∧ amount < 1 ∧ first = origin.towards second amount

theorem IsOnWay.precedes (onWay : IsOnWay origin first second)
    (different : second ≠ origin) : Precedes origin first second := by
  obtain ⟨amount, nonnegative, less, rfl⟩ := onWay
  have distance := squaredDistance_pos different
  have shorter : amount ^ 2 < 1 := pow_lt_one₀ nonnegative less two_ne_zero
  refine .inr ⟨?_, ?_⟩
  · rw [orientation_towards_left]
    unfold orientation
    ring
  · rw [squaredDistance_towards]
    exact mul_lt_of_lt_one_left distance shorter

/-- Seen from the lowest point, a point precedes those to its left and those
behind it. -/
theorem Precedes.cases (precedes : Precedes origin first second)
    (above : ¬first.IsBelow origin) (otherAbove : ¬second.IsBelow origin) :
    second ≠ origin ∧ (0 < orientation origin first second ∨
      IsOnWay origin first second) := by
  have different : second ≠ origin := by
    rintro rfl
    rcases precedes with left | ⟨_, nearer⟩
    · unfold orientation at left
      simp at left
    · have nonnegative : 0 ≤ squaredDistance second first :=
        add_nonneg (mul_self_nonneg _) (mul_self_nonneg _)
      simp [squaredDistance] at nearer nonnegative
      linarith
  refine ⟨different, ?_⟩
  rcases precedes with left | ⟨inLine, nearer⟩
  · exact .inl left
  · obtain ⟨amount, nonnegative, rfl⟩ :=
      exists_towards above otherAbove different inLine
    refine .inr ⟨amount, nonnegative, ?_, rfl⟩
    rw [squaredDistance_towards, mul_lt_iff_lt_one_left
      (squaredDistance_pos different)] at nearer
    exact (pow_lt_one_iff_of_nonneg nonnegative two_ne_zero).mp nearer

/-- Two turns to the left above an origin make one. -/
theorem orientation_pos_trans (firstAbove : ¬first.IsBelow origin)
    (secondAbove : ¬second.IsBelow origin)
    (thirdAbove : ¬third.IsBelow origin)
    (left : 0 < orientation origin first second)
    (further : 0 < orientation origin second third) :
    0 < orientation origin first third := by
  have combined : (second.2 - origin.2) * orientation origin first third =
      (first.2 - origin.2) * orientation origin second third +
        (third.2 - origin.2) * orientation origin first second := by
    unfold orientation
    ring
  have firstHeight : 0 ≤ first.2 - origin.2 := by
    rcases rises_or_level firstAbove with rises | ⟨level, _⟩
    · exact rises.le
    · exact level.ge
  -- Nothing that is not below the origin lies to the right of its own level.
  have secondHeight : 0 < second.2 - origin.2 := by
    rcases rises_or_level secondAbove with rises | ⟨level, right⟩
    · exact rises
    · have product := mul_nonneg firstHeight right
      unfold orientation at left
      rw [level] at left
      linarith
  have thirdHeight : 0 < third.2 - origin.2 := by
    rcases rises_or_level thirdAbove with rises | ⟨level, right⟩
    · exact rises
    · have product := mul_nonneg secondHeight.le right
      unfold orientation at further
      rw [level] at further
      linarith
  apply pos_of_mul_pos_right _ secondHeight.le
  rw [combined]
  have gain := mul_pos thirdHeight left
  have more := mul_nonneg firstHeight further.le
  linarith

theorem Precedes.trans (precedes : Precedes origin first second)
    (later : Precedes origin second third)
    (firstAbove : ¬first.IsBelow origin)
    (secondAbove : ¬second.IsBelow origin)
    (thirdAbove : ¬third.IsBelow origin) : Precedes origin first third := by
  obtain ⟨_, beside | ⟨amount, nonnegative, less, rfl⟩⟩ :=
    precedes.cases firstAbove secondAbove
  · obtain ⟨_, besideToo | ⟨other, otherNonnegative, _, rfl⟩⟩ :=
      later.cases secondAbove thirdAbove
    · exact .inl (orientation_pos_trans firstAbove secondAbove thirdAbove
        beside besideToo)
    · rw [orientation_towards_right] at beside
      exact .inl (pos_of_mul_pos_right beside otherNonnegative)
  · obtain ⟨different, besideToo | ⟨other, otherNonnegative, otherLess, rfl⟩⟩ :=
      later.cases secondAbove thirdAbove
    · rcases nonnegative.lt_or_eq with positive | zero
      · left
        rw [orientation_towards_left]
        exact mul_pos positive besideToo
      · apply IsOnWay.precedes _ different
        exact ⟨0, le_refl 0, one_pos, by simp [towards, ← zero]⟩
    · apply IsOnWay.precedes _ different
      refine ⟨amount * other, mul_nonneg nonnegative otherNonnegative, ?_,
        towards_towards _ _ _ _⟩
      exact mul_lt_one_of_nonneg_of_lt_one_left nonnegative less otherLess.le

theorem precedes_trichotomy (firstAbove : ¬first.IsBelow origin)
    (secondAbove : ¬second.IsBelow origin) :
    Precedes origin first second ∨ first = second ∨
      Precedes origin second first := by
  rcases lt_trichotomy (orientation origin first second) 0 with
    right | inLine | left
  · refine .inr (.inr (.inl ?_))
    rw [orientation_swap]
    exact neg_pos.mpr right
  · have back : orientation origin second first = 0 := by
      rw [orientation_swap, inLine, neg_zero]
    rcases lt_trichotomy (squaredDistance origin first)
      (squaredDistance origin second) with nearer | same | farther
    · exact .inl (.inr ⟨inLine, nearer⟩)
    · refine .inr (.inl ?_)
      by_cases different : second = origin
      · subst different
        by_contra unequal
        have positive := squaredDistance_pos unequal
        simp [squaredDistance] at same positive
        linarith
      · obtain ⟨amount, nonnegative, rfl⟩ :=
          exists_towards firstAbove secondAbove different inLine
        have distance := squaredDistance_pos different
        rw [squaredDistance_towards, mul_eq_right₀ distance.ne',
          pow_eq_one_iff_of_nonneg nonnegative two_ne_zero] at same
        simp [towards, same]
    · exact .inr (.inr (.inr ⟨back, farther⟩))
  · exact .inl (.inl left)

theorem not_precedes_trans (firstAbove : ¬first.IsBelow origin)
    (secondAbove : ¬second.IsBelow origin)
    (thirdAbove : ¬third.IsBelow origin)
    (earlier : ¬Precedes origin second first)
    (later : ¬Precedes origin third second) :
    ¬Precedes origin third first := by
  intro behind
  rcases precedes_trichotomy firstAbove secondAbove with
    precedes | rfl | precedes
  · exact later (behind.trans precedes thirdAbove firstAbove secondAbove)
  · exact later behind
  · exact earlier precedes

/-! ## Sorted points -/

theorem sortAboveOrigin_perm (origin : Point) (points : List Point) :
    (sortAboveOrigin origin points).Perm points :=
  List.mergeSort_perm _ _

/-- No point comes behind one that it precedes. -/
theorem pairwise_not_precedes
    (above : ∀ point ∈ points, ¬point.IsBelow origin) :
    (sortAboveOrigin origin points).Pairwise fun first second =>
      ¬Precedes origin second first := by
  unfold sortAboveOrigin
  refine List.Pairwise.imp of_decide_eq_true
    (pairwise_mergeSort_of_mem ?_ ?_)
  · intro first firstMember second secondMember third thirdMember
    simp only [decide_eq_true_eq]
    exact not_precedes_trans (above first firstMember)
      (above second secondMember) (above third thirdMember)
  · intro first _ second _
    simp only [Bool.or_eq_true, decide_eq_true_eq]
    by_contra both
    rw [not_or, not_not, not_not] at both
    exact both.1.asymm both.2

/-- Points of which none is below the origin are sorted by precedence. -/
theorem pairwise_sortAboveOrigin
    (above : ∀ point ∈ points, ¬point.IsBelow origin)
    (distinct : points.Nodup) :
    (sortAboveOrigin origin points).Pairwise (Precedes origin) := by
  have permuted := sortAboveOrigin_perm origin points
  have strict :=
    (pairwise_not_precedes above).and (permuted.nodup_iff.mpr distinct)
  apply strict.imp_of_mem
  intro first second firstMember secondMember
  rintro ⟨behind, different⟩
  rcases precedes_trichotomy (above first (permuted.mem_iff.mp firstMember))
    (above second (permuted.mem_iff.mp secondMember)) with
      precedes | same | precedes
  · exact precedes
  · exact absurd same different
  · exact absurd precedes behind

/-- Among points of which none is below the origin, precedence is an order. -/
theorem isOrder_precedes
    (above : ∀ point ∈ points, ¬point.IsBelow origin) :
    Sorting.IsOrder
      (fun first second => decide (Precedes origin first second))
      (· ∈ points) where
  asymm := by
    intro first second _ _ precedes
    exact decide_eq_false (of_decide_eq_true precedes).asymm
  trans := by
    intro first second third firstMember secondMember thirdMember earlier later
    exact decide_eq_false (not_precedes_trans (above first firstMember)
      (above second secondMember) (above third thirdMember)
      (of_decide_eq_false earlier) (of_decide_eq_false later))

/-- Where none of the points is below the first, the comparisons of the sort do
not matter: sorting by runs puts the points into the one order that there is. -/
theorem sortAround_eq_sortAboveOrigin {rest : List Point}
    (above : ∀ point ∈ rest, ¬point.IsBelow origin) :
    sortAround (origin :: rest) = sortAboveOrigin origin (origin :: rest) := by
  have allAbove : ∀ point ∈ origin :: rest, ¬point.IsBelow origin :=
    List.forall_mem_cons.mpr ⟨fun below => below.asymm below, above⟩
  obtain ⟨sorted, perm⟩ :=
    Sorting.sortByRuns_sorted (isOrder_precedes allAbove)
  apply List.Perm.eq_of_pairwise _
    (sorted.imp of_decide_eq_false) (pairwise_not_precedes allAbove)
    (perm.trans (sortAboveOrigin_perm _ _).symm)
  intro first second firstMember secondMember notBehind notBefore
  have firstAbove := allAbove first (perm.mem_iff.mp firstMember)
  have secondAbove := allAbove second
    ((sortAboveOrigin_perm _ _).mem_iff.mp secondMember)
  rcases precedes_trichotomy firstAbove secondAbove with
    precedes | same | precedes
  · exact absurd precedes notBefore
  · exact same
  · exact absurd precedes notBehind

/-- The first of the points is the lowest, and each precedes the later ones on
the way round it. -/
inductive GoRound : List Point → Prop where
  | none : GoRound []
  | around {origin : Point} {rest : List Point} :
      (∀ point ∈ rest, ¬point.IsBelow origin) →
      (origin :: rest).Pairwise (Precedes origin) →
      GoRound (origin :: rest)

theorem goRound_sortAboveOrigin
    (above : ∀ point ∈ points, ¬point.IsBelow origin)
    (distinct : points.Nodup) (member : origin ∈ points) :
    GoRound (sortAboveOrigin origin points) := by
  have permuted := sortAboveOrigin_perm origin points
  have sorted := pairwise_sortAboveOrigin above distinct
  have sortedAbove : ∀ point ∈ sortAboveOrigin origin points,
      ¬point.IsBelow origin := fun point passed =>
    above point (permuted.mem_iff.mp passed)
  have listed := permuted.mem_iff.mpr member
  generalize sortAboveOrigin origin points = order at *
  cases order with
  | nil => cases listed
  | cons first rest =>
      rw [List.forall_mem_cons] at sortedAbove
      obtain rfl : origin = first := by
        rcases List.mem_cons.mp listed with same | later
        · exact same
        -- No point precedes the origin as seen from the origin itself.
        · have precedes := List.rel_of_pairwise_cons sorted later
          exact absurd rfl
            (precedes.cases sortedAbove.1 (above origin member)).1
      exact .around sortedAbove.2 sorted

theorem GoRound.nodup (goRound : GoRound points) : points.Nodup := by
  cases goRound with
  | none => exact List.nodup_nil
  | around _ sorted =>
      apply sorted.imp
      rintro first second precedes rfl
      exact precedes.asymm precedes

/-- Points go round in one order only. -/
theorem GoRound.eq_of_mem_iff {others : List Point}
    (goRound : GoRound points) (otherGoRound : GoRound others)
    (same : ∀ point, point ∈ points ↔ point ∈ others) : points = others := by
  have permuted : points.Perm others :=
    (List.perm_ext_iff_of_nodup goRound.nodup otherGoRound.nodup).mpr same
  cases goRound with
  | none => exact permuted.nil_eq
  | @around origin rest above sorted =>
      cases otherGoRound with
      | none => exact permuted.eq_nil
      | @around otherOrigin otherRest otherAbove otherSorted =>
          have lowest : ¬otherOrigin.IsBelow origin := by
            rcases List.mem_cons.mp ((same otherOrigin).mpr
              List.mem_cons_self) with rfl | later
            · exact fun below => below.asymm below
            · exact above otherOrigin later
          have otherLowest : ¬origin.IsBelow otherOrigin := by
            rcases List.mem_cons.mp ((same origin).mp
              List.mem_cons_self) with rfl | later
            · exact fun below => below.asymm below
            · exact otherAbove origin later
          obtain rfl : otherOrigin = origin :=
            (eq_or_isBelow_of_not lowest).resolve_right otherLowest
          apply List.Perm.eq_of_pairwise _ sorted otherSorted permuted
          intro first second _ _ precedes behind
          exact absurd behind precedes.asymm

/-! ## Points between points -/

/-- The mean of three points with weights. -/
def mixed (first second third : Point) (a b c : Rat) : Point :=
  (a * first.1 + b * second.1 + c * third.1,
    a * first.2 + b * second.2 + c * third.2)

theorem halfway_mixed_mixed (first second third : Point)
    (a b c shift : Rat) :
    (mixed first second third a (b - shift) (c + shift)).halfway
        (mixed first second third a (b + shift) (c - shift)) =
      mixed first second third a b c := by
  unfold mixed halfway
  apply Prod.ext
  · ring
  · ring

theorem mixed_ne (different : second ≠ third) {shift : Rat}
    (positive : 0 < shift) (first : Point) (a b c : Rat) :
    mixed first second third a (b - shift) (c + shift) ≠
      mixed first second third a (b + shift) (c - shift) := by
  intro same
  obtain ⟨across, upward⟩ := Prod.mk.inj same
  apply different
  apply Prod.ext
  · apply mul_left_cancel₀ positive.ne'
    linarith
  · apply mul_left_cancel₀ positive.ne'
    linarith

/-- The areas of the triangles at a point are its weights as a mean of three
others. -/
theorem eq_mixed (wide : orientation origin first third ≠ 0)
    (point : Point) :
    point = origin.mixed first third
      (-orientation first point third / orientation origin first third)
      (orientation origin point third / orientation origin first third)
      (orientation origin first point / orientation origin first third) := by
  unfold mixed
  simp only [div_mul_eq_mul_div, ← add_div]
  apply Prod.ext
  · rw [eq_div_iff wide]
    unfold orientation
    ring
  · rw [eq_div_iff wide]
    unfold orientation
    ring

end Point

/-- A relation that three numbers are in holds of their mean. -/
theorem Relation.holds_mixed {relation : Relation}
    {first second third bound a b c : Rat}
    (firstHolds : relation.Holds first bound)
    (secondHolds : relation.Holds second bound)
    (thirdHolds : relation.Holds third bound)
    (firstWeight : 0 ≤ a) (secondWeight : 0 ≤ b) (thirdWeight : 0 ≤ c)
    (total : a + b + c = 1) :
    relation.Holds (a * first + b * second + c * third) bound := by
  have whole : a * bound + b * bound + c * bound = bound := by
    rw [← add_mul, ← add_mul, total, one_mul]
  cases relation with
  | le =>
      have firstPart := mul_le_mul_of_nonneg_left firstHolds firstWeight
      have secondPart := mul_le_mul_of_nonneg_left secondHolds secondWeight
      have thirdPart := mul_le_mul_of_nonneg_left thirdHolds thirdWeight
      have below : a * first + b * second + c * third ≤ bound := by linarith
      exact below
  | eq =>
      have same : a * first + b * second + c * third = bound := by
        rw [show first = bound from firstHolds,
          show second = bound from secondHolds,
          show third = bound from thirdHolds, whole]
      exact same
  | ge =>
      have firstPart := mul_le_mul_of_nonneg_left firstHolds firstWeight
      have secondPart := mul_le_mul_of_nonneg_left secondHolds secondWeight
      have thirdPart := mul_le_mul_of_nonneg_left thirdHolds thirdWeight
      have above : bound ≤ a * first + b * second + c * third := by linarith
      exact above

theorem Constraint.valueAt_mixed (constraint : Constraint)
    (first second third : Point) (a b c : Rat) :
    constraint.valueAt (first.mixed second third a b c) =
      a * constraint.valueAt first + b * constraint.valueAt second +
        c * constraint.valueAt third := by
  simp only [valueAt_eq, Point.mixed]
  ring

/-! ## Vertices -/

namespace Polytope

variable {polytope : Polytope} {origin first second third point : Point}

section Plane

variable (plane : polytope.dimension = 2)

include plane

/-- A polytope is convex. -/
theorem contains_mixed
    (firstInside : polytope.contains [first.1, first.2] = .ok true)
    (secondInside : polytope.contains [second.1, second.2] = .ok true)
    (thirdInside : polytope.contains [third.1, third.2] = .ok true)
    {a b c : Rat} (firstWeight : 0 ≤ a) (secondWeight : 0 ≤ b)
    (thirdWeight : 0 ≤ c) (total : a + b + c = 1) :
    polytope.contains [(first.mixed second third a b c).1,
      (first.mixed second third a b c).2] = .ok true := by
  rw [contains_point_iff plane] at *
  intro constraint member
  unfold Constraint.HoldsAt
  rw [constraint.valueAt_mixed]
  exact Relation.holds_mixed (firstInside constraint member)
    (secondInside constraint member) (thirdInside constraint member)
    firstWeight secondWeight thirdWeight total

/-- An extreme point is no mean of others: it could be moved to and fro between
two of them. -/
theorem IsExtreme.ne_mixed (extreme : polytope.IsExtreme point)
    (firstInside : polytope.contains [first.1, first.2] = .ok true)
    (secondInside : polytope.contains [second.1, second.2] = .ok true)
    (thirdInside : polytope.contains [third.1, third.2] = .ok true)
    (different : second ≠ third) {a b c : Rat} (firstWeight : 0 ≤ a)
    (secondWeight : 0 < b) (thirdWeight : 0 < c) (total : a + b + c = 1) :
    point ≠ first.mixed second third a b c := by
  rintro rfl
  have positive : 0 < min b c := lt_min secondWeight thirdWeight
  have left := min_le_left b c
  have right := min_le_right b c
  refine extreme.2 ⟨_, _, Point.mixed_ne different positive first a b c,
    ?_, ?_, (Point.halfway_mixed_mixed first second third a b c _).symm⟩
  · exact contains_mixed plane firstInside secondInside thirdInside
      firstWeight (by linarith) (by linarith) (by linarith)
  · exact contains_mixed plane firstInside secondInside thirdInside
      firstWeight (by linarith) (by linarith) (by linarith)

/-- Seen from the lowest point, all that an extreme point precedes is to its
left. -/
theorem IsExtreme.orientation_pos (extreme : polytope.IsExtreme first)
    (originInside : polytope.contains [origin.1, origin.2] = .ok true)
    (secondInside : polytope.contains [second.1, second.2] = .ok true)
    (above : ¬first.IsBelow origin) (otherAbove : ¬second.IsBelow origin)
    (apart : first ≠ origin) (precedes : origin.Precedes first second) :
    0 < origin.orientation first second := by
  obtain ⟨different, left | ⟨amount, nonnegative, less, onWay⟩⟩ :=
    precedes.cases above otherAbove
  · exact left
  · have positive : 0 < amount := by
      apply lt_of_le_of_ne nonnegative
      rintro rfl
      apply apart
      rw [onWay]
      simp [Point.towards]
    have mean : first = origin.mixed origin second 0 (1 - amount) amount := by
      rw [onWay]
      unfold Point.towards Point.mixed
      apply Prod.ext
      · ring
      · ring
    exact absurd mean (extreme.ne_mixed plane originInside originInside
      secondInside different.symm (le_refl 0) (sub_pos.mpr less) positive
      (by ring))

/-- An extreme point that is seen between two points of the polytope does not
lie on their side of the line through them. -/
theorem IsExtreme.turns_left (extreme : polytope.IsExtreme second)
    (originInside : polytope.contains [origin.1, origin.2] = .ok true)
    (firstInside : polytope.contains [first.1, first.2] = .ok true)
    (thirdInside : polytope.contains [third.1, third.2] = .ok true)
    (left : 0 < origin.orientation first second)
    (further : 0 < origin.orientation second third)
    (wide : 0 < origin.orientation first third) :
    0 < first.orientation second third := by
  by_contra right
  have split := Point.orientation_eq origin first second third
  have different : first ≠ third := by
    rintro rfl
    unfold Point.orientation at wide
    linarith
  have mean := Point.eq_mixed wide.ne' second
  apply extreme.ne_mixed plane originInside firstInside thirdInside different
    _ (div_pos further wide) (div_pos left wide) _ mean
  · exact div_nonneg (neg_nonneg.mpr (not_lt.mp right)) wide.le
  · rw [← add_div, ← add_div, split, div_eq_one_iff_eq wide.ne']
    ring

/-! ## The list of vertices -/

/-- The vertices are the corners, sorted by runs from the lowest of them. -/
theorem vertices_eq_sortAround {corner : Point} {corners : List Point}
    (found : polytope.corners = corner :: corners) :
    polytope.vertices = .ok (Point.sortAround
      (Point.lowest corner corners ::
        (corner :: corners).erase (Point.lowest corner corners))) := by
  have above : ∀ point ∈ (corner :: corners).erase
      (Point.lowest corner corners),
        ¬point.IsBelow (Point.lowest corner corners) := fun point member =>
    Point.not_isBelow_lowest corner corners point (List.mem_of_mem_erase member)
  rw [Point.sortAround_eq_sortAboveOrigin above]
  unfold vertices
  simp only [if_pos plane, found]

theorem exists_vertices_goRound : ∃ vertices,
    polytope.vertices = .ok vertices ∧ Point.GoRound vertices := by
  unfold vertices
  rw [if_pos plane]
  have distinct : polytope.corners.Nodup := nodup_distinct _
  cases listed : polytope.corners with
  | nil => exact ⟨[], rfl, .none⟩
  | cons corner corners =>
      rw [listed] at distinct
      have permuted := List.perm_cons_erase (Point.lowest_mem corner corners)
      refine ⟨_, rfl, Point.goRound_sortAboveOrigin ?_
        (permuted.nodup_iff.mp distinct) List.mem_cons_self⟩
      intro point member
      exact Point.not_isBelow_lowest corner corners point
        (permuted.mem_iff.mpr member)

/-- Two vertices after the lowest one are seen from it one to the left of the
other. -/
theorem pairwise_orientation_pos {rest : List Point}
    (extreme : ∀ point ∈ origin :: rest, polytope.IsExtreme point)
    (above : ∀ point ∈ rest, ¬point.IsBelow origin)
    (sorted : (origin :: rest).Pairwise origin.Precedes) :
    rest.Pairwise fun first second =>
      0 < origin.orientation first second := by
  rw [List.forall_mem_cons] at extreme
  rw [List.pairwise_cons] at sorted
  apply sorted.2.imp_of_mem
  intro first second firstMember secondMember precedes
  apply (extreme.2 first firstMember).orientation_pos plane extreme.1.1
    (extreme.2 second secondMember).1 (above first firstMember)
    (above second secondMember) _ precedes
  rintro rfl
  exact (sorted.1 first firstMember).asymm (sorted.1 first firstMember)

/-- Any three extreme points turn to the left in the order in which they go
round. -/
theorem orientation_pos_of_goRound {points : List Point}
    (extreme : ∀ point ∈ points, polytope.IsExtreme point)
    (goRound : Point.GoRound points) {i j k : Nat}
    (less : i < j) (later : j < k)
    (firstPlace : points[i]? = some first)
    (secondPlace : points[j]? = some second)
    (thirdPlace : points[k]? = some third) :
    0 < first.orientation second third := by
  cases goRound with
  | none => cases firstPlace
  | @around origin rest above sorted =>
      have pairs := pairwise_orientation_pos plane extreme above sorted
      have left : ∀ {i j : Nat} {first second : Point}, i < j →
          rest[i]? = some first → rest[j]? = some second →
            0 < origin.orientation first second := by
        intro i j first second less firstPlace secondPlace
        obtain ⟨inside, rfl⟩ := List.getElem?_eq_some_iff.mp firstPlace
        obtain ⟨insideToo, rfl⟩ := List.getElem?_eq_some_iff.mp secondPlace
        exact List.pairwise_iff_getElem.mp pairs _ _ inside insideToo less
      obtain ⟨j, rfl⟩ := Nat.exists_eq_succ_of_ne_zero (Nat.ne_zero_of_lt less)
      obtain ⟨k, rfl⟩ := Nat.exists_eq_succ_of_ne_zero (Nat.ne_zero_of_lt later)
      have behind := left (Nat.lt_of_succ_lt_succ later) secondPlace thirdPlace
      cases i with
      | zero =>
          obtain rfl := Option.some.inj firstPlace
          exact behind
      | succ i =>
          have before := Nat.lt_of_succ_lt_succ less
          have inside : ∀ {point : Point} {place : Nat},
              (origin :: rest)[place]? = some point →
                polytope.IsExtreme point := fun place =>
            extreme _ (List.mem_of_getElem? place)
          exact (inside secondPlace).turns_left plane
            (extreme origin List.mem_cons_self).1 (inside firstPlace).1
            (inside thirdPlace).1 (left before firstPlace secondPlace) behind
            (left (before.trans (Nat.lt_of_succ_lt_succ later)) firstPlace
              thirdPlace)

/-- The vertices of a polytope in the plane begin with the lowest, and of
equally low ones the leftmost.  Any three of them turn to the left in the order
in which they are listed, and a polytope with the same points has the same
list. -/
theorem vertices_convex : ∃ vertices, polytope.vertices = .ok vertices ∧
    (∀ point, point ∈ vertices ↔ polytope.IsExtreme point) ∧
    (∀ first ∈ vertices.head?, ∀ point ∈ vertices,
      point ≠ first → first.IsBelow point) ∧
    (∀ (i j k : Nat) (first second third : Point), i < j → j < k →
      vertices[i]? = some first → vertices[j]? = some second →
        vertices[k]? = some third → 0 < first.orientation second third) ∧
    ∀ other : Polytope, other.dimension = 2 →
      (∀ point : Point, other.contains [point.1, point.2] = .ok true ↔
        polytope.contains [point.1, point.2] = .ok true) →
          other.vertices = .ok vertices := by
  obtain ⟨vertices, listed, goRound⟩ := exists_vertices_goRound plane
  have extreme : ∀ point, point ∈ vertices ↔ polytope.IsExtreme point :=
    fun _ => mem_vertices_iff plane listed
  refine ⟨vertices, listed, extreme, ?_, ?_, ?_⟩
  · intro first isFirst point member different
    cases goRound with
    | none => cases member
    | @around origin rest above _ =>
        obtain rfl := Option.some.inj isFirst
        rcases List.mem_cons.mp member with same | later
        · exact absurd same different
        · exact (Point.eq_or_isBelow_of_not
            (above point later)).resolve_left different
  · intro i j k first second third less later firstPlace secondPlace thirdPlace
    exact orientation_pos_of_goRound plane (fun point => (extreme point).mp)
      goRound less later firstPlace secondPlace thirdPlace
  · intro other otherPlane same
    obtain ⟨others, otherListed, otherGoRound⟩ :=
      exists_vertices_goRound otherPlane
    have equal : others = vertices := by
      apply otherGoRound.eq_of_mem_iff goRound
      intro point
      rw [mem_vertices_iff otherPlane otherListed, extreme]
      simp only [IsExtreme, same]
    rw [otherListed, equal]

end Plane

/-- The triangle with other rows: one is multiplied by a negative number, one is
given twice, and the signs of the variables are constraints like the others. -/
def retoldTriangle : Polytope where
  dimension := 2
  constraints := [⟨⟨[0, 3]⟩, .ge, 0⟩, ⟨⟨[-2, -2]⟩, .ge, -2⟩, ⟨⟨[1, 0]⟩, .ge, 0⟩,
    ⟨⟨[-2, -2]⟩, .ge, -2⟩]
  nonnegative := .empty
  constraints_ne_nil := List.cons_ne_nil _ _
  width_eq := by decide
  nonnegative_lt := fun _ member => absurd member IndexSet.not_mem_empty

theorem contains_retoldTriangle_iff (point : Point) :
    retoldTriangle.contains [point.1, point.2] = .ok true ↔
      triangle.contains [point.1, point.2] = .ok true := by
  have sides : triangle.allConstraints = [⟨⟨[1, 1]⟩, .le, 1⟩,
      ⟨⟨[0, 0]⟩, .eq, 0⟩, ⟨⟨[2, 2]⟩, .le, 2⟩, ⟨⟨[1, 0]⟩, .ge, 0⟩,
      ⟨⟨[0, 1]⟩, .ge, 0⟩] := by decide +kernel
  have retoldSides : retoldTriangle.allConstraints = [⟨⟨[0, 3]⟩, .ge, 0⟩,
      ⟨⟨[-2, -2]⟩, .ge, -2⟩, ⟨⟨[1, 0]⟩, .ge, 0⟩, ⟨⟨[-2, -2]⟩, .ge, -2⟩] := by
    decide +kernel
  rw [contains_point_iff rfl, contains_point_iff rfl, sides, retoldSides]
  simp only [List.forall_mem_cons, Constraint.HoldsAt, Constraint.valueAt,
    Relation.Holds, dot_cons_cons, dot_nil_left]
  constructor
  · rintro ⟨upward, sum, across, _, _⟩
    refine ⟨?_, ?_, ?_, ?_, ?_, List.forall_mem_nil _⟩ <;> linarith
  · rintro ⟨sum, _, _, across, upward, _⟩
    refine ⟨?_, ?_, ?_, ?_, List.forall_mem_nil _⟩ <;> linarith

/-- The triangle is listed from the lower left corner on, however it is
given. -/
theorem vertices_convex_triangle : triangle.dimension = 2 ∧
    triangle.vertices = .ok [(0, 0), (1, 0), (0, 1)] ∧
      retoldTriangle.vertices = .ok [(0, 0), (1, 0), (0, 1)] ∧
        Point.orientation (0, 0) (1, 0) (0, 1) > 0 := by
  have computed : triangle.vertices.toOption =
      some [(0, 0), (1, 0), (0, 1)] := by
    cbv
  have listed := toOption_eq_some_iff.mp computed
  obtain ⟨vertices, found, _, _, turns, unique⟩ :=
    @vertices_convex triangle rfl
  rw [listed] at found
  obtain rfl := Except.ok.inj found
  exact ⟨rfl, listed, unique retoldTriangle rfl contains_retoldTriangle_iff,
    turns 0 1 2 _ _ _ Nat.zero_lt_one Nat.one_lt_two rfl rfl rfl⟩

end Polytope

end RationalSimplex
