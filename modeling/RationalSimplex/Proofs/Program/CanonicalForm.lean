import Mathlib.Algebra.Order.Group.MinMax
import RationalSimplex.Program.Canonical
import RationalSimplex.Proofs.Program.Meaning
import RationalSimplex.Proofs.Program.Restoration

/-!
# Canonical forms mean the same

The points of a canonical form are carried back to the points of the program,
and every point of the program is reached.  Values are carried along, better
ones to better ones, so that both programs are infeasible or unbounded
together and have the same optimal value up to its sign.
-/

namespace RationalSimplex

@[simp]
theorem Relation.holds_flipped_neg (relation : Relation) (left right : Rat) :
    relation.flipped.Holds (-left) (-right) ↔ relation.Holds left right := by
  cases relation with
  | le => exact neg_le_neg_iff
  | eq => exact neg_inj
  | ge => exact neg_le_neg_iff

theorem getD_take {index count : Nat} (inside : index < count)
    (numbers : List Rat) :
    (numbers.take count).getD index 0 = numbers.getD index 0 := by
  simp [List.getD_eq_getElem?_getD, inside]

@[simp] theorem Constraint.satisfiedBy_negated_iff (constraint : Constraint)
    (point : List Rat) :
    constraint.negated.SatisfiedBy point ↔ constraint.SatisfiedBy point := by
  have same : dot constraint.negated.expression.coefficients point =
      -dot constraint.expression.coefficients point :=
    dot_map_neg _ _
  unfold SatisfiedBy
  rw [same]
  exact Relation.holds_flipped_neg _ _ _

/-- The upper bounds of a constraint together mean the same as it. -/
theorem Constraint.satisfiedBy_upperBounds_iff (constraint : Constraint)
    (point : List Rat) :
    (∀ bound ∈ constraint.upperBounds, bound.SatisfiedBy point) ↔
      constraint.SatisfiedBy point := by
  unfold upperBounds
  split
  · simp
  · simp
  · next equation =>
      have negated : dot constraint.expression.negated.coefficients point =
          -dot constraint.expression.coefficients point :=
        dot_map_neg _ _
      simp only [halves, SatisfiedBy, Relation.Holds, equation, negated,
        List.mem_cons, List.not_mem_nil, or_false, forall_eq_or_imp,
        forall_eq, neg_le_neg_iff]
      exact le_antisymm_iff.symm

theorem Constraint.relation_of_mem_upperBounds {constraint bound : Constraint}
    (member : bound ∈ constraint.upperBounds) : bound.relation = .le := by
  unfold upperBounds at member
  split at member
  · next upper =>
      rw [List.mem_singleton.mp member]
      exact upper
  · next lower =>
      rw [List.mem_singleton.mp member]
      simp [negated, lower, Relation.flipped]
  · rcases List.mem_pair.mp member with rfl | rfl
    · rfl
    · rfl

/-- No constraint reads the coordinates behind those of the variables. -/
theorem Polytope.contains_take (polytope : Polytope) (point : List Rat) :
    polytope.Contains (point.take polytope.dimension) ↔
      polytope.Contains point := by
  have constraints : ∀ constraint ∈ polytope.constraints,
      (constraint.SatisfiedBy (point.take polytope.dimension) ↔
        constraint.SatisfiedBy point) := by
    intro constraint member
    unfold Constraint.SatisfiedBy
    rw [dot_take (polytope.width_eq constraint member).le]
  have coordinates : ∀ index ∈ polytope.nonnegative,
      (point.take polytope.dimension).getD index 0 = point.getD index 0 := by
    intro index member
    exact getD_take (polytope.nonnegative_lt index member) point
  unfold Contains
  constructor
  · rintro ⟨satisfied, nonnegative⟩
    refine ⟨fun constraint member =>
      (constraints constraint member).mp (satisfied constraint member), ?_⟩
    intro index member
    rw [← coordinates index member]
    exact nonnegative index member
  · rintro ⟨satisfied, nonnegative⟩
    refine ⟨fun constraint member =>
      (constraints constraint member).mpr (satisfied constraint member), ?_⟩
    intro index member
    rw [coordinates index member]
    exact nonnegative index member

namespace LinearProgram

variable {program : LinearProgram}

/-! ## The plan that is carried back -/

theorem mem_freeVariables_iff {index : Nat} :
    index ∈ program.freeVariables ↔
      index < program.width ∧ index ∉ program.polytope.nonnegative := by
  simp [freeVariables]

theorem nodup_freeVariables (program : LinearProgram) :
    program.freeVariables.Nodup :=
  List.nodup_range.filter _

/-- The plan over the variables of the program that belongs to a point of the
canonical form. -/
def carriedBack (program : LinearProgram) (point : List Rat) : List Rat :=
  restored point program.freeVariables program.width
    (point.take program.width)

theorem restorePlan_eq_ok {point : List Rat}
    (long : program.width + program.freeVariables.length ≤ point.length) :
    restorePlan point program.splits program.width =
      .ok (program.carriedBack point) := by
  have first : leading program.width point = point.take program.width := by
    simp [leading]
  unfold restorePlan
  rw [first]
  apply foldlM_restoreSplit long
  · intro index member
    have inside := (mem_freeVariables_iff.mp member).1
    rw [List.length_take]
    omega
  · simp

@[simp] theorem length_carriedBack {point : List Rat}
    (long : program.width ≤ point.length) :
    (program.carriedBack point).length = program.width := by
  simp [carriedBack, long]

/-- Splitting the free variables of an expression is undone by carrying the
point back. -/
theorem dot_splitVariables {expression : Expression}
    (width : expression.width = program.width) {point : List Rat}
    (long : program.width + program.freeVariables.length ≤ point.length) :
    dot (expression.splitVariables program.freeVariables).coefficients point =
      dot expression.coefficients (program.carriedBack point) := by
  have parted : point =
      point.take program.width ++ point.drop program.width :=
    (List.take_append_drop ..).symm
  have size : expression.coefficients.length =
      (point.take program.width).length := by
    have same : expression.coefficients.length = program.width := width
    rw [same, List.length_take]
    omega
  have inside : ∀ index ∈ program.freeVariables,
      index < (point.take program.width).length := by
    intro index member
    have before := (mem_freeVariables_iff.mp member).1
    rw [List.length_take]
    omega
  have same : ∀ index ∈ program.freeVariables,
      (point.take program.width).getD index 0 = point.getD index 0 := by
    intro index member
    exact getD_take (mem_freeVariables_iff.mp member).1 point
  unfold carriedBack
  rw [dot_restored program.nodup_freeVariables long inside same,
    ← dot_append size, ← parted]
  rfl

theorem satisfiedBy_splitVariables_iff {constraint : Constraint}
    (width : constraint.width = program.width) {point : List Rat}
    (long : program.width + program.freeVariables.length ≤ point.length) :
    (constraint.splitVariables program.freeVariables).SatisfiedBy point ↔
      constraint.SatisfiedBy (program.carriedBack point) := by
  have same : dot (constraint.splitVariables
      program.freeVariables).expression.coefficients point =
        dot constraint.expression.coefficients (program.carriedBack point) :=
    dot_splitVariables width long
  unfold Constraint.SatisfiedBy
  rw [same]
  rfl

/-- The canonical constraints hold at a point when those of the program hold at
the plan that is carried back. -/
theorem canonicalConstraints_iff {point : List Rat}
    (long : program.width + program.freeVariables.length ≤ point.length) :
    (∀ constraint ∈ program.canonicalConstraints,
      constraint.SatisfiedBy point) ↔
        ∀ constraint ∈ program.constraints,
          constraint.SatisfiedBy (program.carriedBack point) := by
  have bounds : ∀ constraint ∈ program.constraints,
      ∀ bound ∈ constraint.upperBounds,
        ((bound.splitVariables program.freeVariables).SatisfiedBy point ↔
          bound.SatisfiedBy (program.carriedBack point)) := by
    intro constraint member bound boundMember
    apply satisfiedBy_splitVariables_iff _ long
    rw [Constraint.width_of_mem_upperBounds boundMember,
      program.polytope.width_eq constraint member, ← program.objective_width]
    rfl
  simp only [canonicalConstraints, List.mem_map, List.mem_flatMap]
  constructor
  · intro satisfied constraint member
    apply (constraint.satisfiedBy_upperBounds_iff _).mp
    intro bound boundMember
    apply (bounds constraint member bound boundMember).mp
    exact satisfied _ ⟨bound, ⟨constraint, member, boundMember⟩, rfl⟩
  · rintro satisfied _ ⟨bound, ⟨constraint, member, boundMember⟩, rfl⟩
    apply (bounds constraint member bound boundMember).mpr
    exact (constraint.satisfiedBy_upperBounds_iff _).mpr
      (satisfied constraint member) bound boundMember

/-- A variable of given sign keeps its coordinate. -/
theorem getD_carriedBack {point : List Rat} {index : Nat}
    (inside : index < program.width)
    (signed : index ∈ program.polytope.nonnegative) :
    (program.carriedBack point).getD index 0 = point.getD index 0 := by
  have kept : index ∉ program.freeVariables := fun free =>
    (mem_freeVariables_iff.mp free).2 signed
  unfold carriedBack
  rw [getD_restored_of_not_mem kept, getD_take inside]

/-! ## The point that is carried forward -/

/-- The point of the canonical form that belongs to a point of the program: its
positive parts, and behind them the negative parts of the free variables. -/
def carriedForward (program : LinearProgram) (point : List Rat) : List Rat :=
  (List.range program.width).map (fun index => max (point.getD index 0) 0) ++
    program.freeVariables.map fun index => max (-point.getD index 0) 0

@[simp]
theorem length_carriedForward (program : LinearProgram) (point : List Rat) :
    (program.carriedForward point).length =
      program.width + program.freeVariables.length := by
  simp [carriedForward]

theorem carriedForward_nonneg (program : LinearProgram) (point : List Rat)
    (index : Nat) : 0 ≤ (program.carriedForward point).getD index 0 := by
  rcases Nat.lt_or_ge index (program.carriedForward point).length with
    inside | outside
  · rw [List.getD_eq_getElem _ _ inside]
    have member := List.getElem_mem inside
    rcases List.mem_append.mp member with positive | negative
    · obtain ⟨_, _, equal⟩ := List.mem_map.mp positive
      rw [← equal]
      exact le_max_right _ _
    · obtain ⟨_, _, equal⟩ := List.mem_map.mp negative
      rw [← equal]
      exact le_max_right _ _
  · rw [List.getD_eq_default _ _ outside]

theorem getD_carriedForward {index : Nat} (inside : index < program.width)
    (point : List Rat) :
    (program.carriedForward point).getD index 0 =
      max (point.getD index 0) 0 := by
  unfold carriedForward
  rw [List.getD_append _ _ _ _ (by simpa)]
  simp [List.getD_eq_getElem?_getD, inside]

theorem getD_carriedForward_split {number index : Nat}
    (listed : program.freeVariables[number]? = some index)
    (point : List Rat) :
    (program.carriedForward point).getD (program.width + number) 0 =
      max (-point.getD index 0) 0 := by
  unfold carriedForward
  rw [List.getD_append_right _ _ _ _ (by simp)]
  simp [List.getD_eq_getElem?_getD, listed]

/-- Carrying a point of the program forward and back gives it again. -/
@[simp] theorem carriedBack_carriedForward {point : List Rat}
    (long : program.width ≤ point.length)
    (inside : program.polytope.Contains point) :
    program.carriedBack (program.carriedForward point) =
      point.take program.width := by
  have forwardLong :
      program.width ≤ (program.carriedForward point).length := by
    rw [length_carriedForward]
    omega
  have coordinates : ∀ index < program.width,
      (program.carriedBack (program.carriedForward point)).getD index 0 =
        point.getD index 0 := by
    intro index before
    by_cases free : index ∈ program.freeVariables
    · obtain ⟨number, listed⟩ := List.getElem?_of_mem free
      unfold carriedBack
      rw [getD_restored_of_mem program.nodup_freeVariables listed _ _
        (by simpa using before),
        getD_carriedForward before, getD_carriedForward_split listed]
      exact max_zero_sub_max_neg_zero_eq_self _
    · have signed : index ∈ program.polytope.nonnegative := by
        by_contra unsigned
        exact free (mem_freeVariables_iff.mpr ⟨before, unsigned⟩)
      rw [getD_carriedBack before signed, getD_carriedForward before]
      exact max_eq_left (inside.2 index signed)
  apply List.ext_getElem
  · rw [length_carriedBack forwardLong, List.length_take]
    omega
  · intro index backInside takeInside
    have before : index < program.width := by
      rwa [length_carriedBack forwardLong] at backInside
    have equal := coordinates index before
    rw [List.getD_eq_getElem _ _ backInside, ← getD_take before,
      List.getD_eq_getElem _ _ takeInside] at equal
    exact equal

/-! ## Both programs -/

theorem freeVariables_eq_nil (canonical : program.IsCanonical) :
    program.freeVariables = [] := by
  apply List.eq_nil_iff_forall_not_mem.mpr
  intro index member
  obtain ⟨inside, unsigned⟩ := mem_freeVariables_iff.mp member
  exact unsigned (canonical.2.1 index inside)

@[simp] theorem canonicalForm_snd (program : LinearProgram) :
    program.canonicalForm.2 = program.splits := by
  unfold canonicalForm
  split
  · next canonical =>
      simp [splits, freeVariables_eq_nil canonical]
  · rfl

@[simp] theorem width_canonicalForm (program : LinearProgram) :
    program.canonicalForm.1.width =
      program.width + program.freeVariables.length := by
  unfold canonicalForm
  split
  · next canonical => simp [freeVariables_eq_nil canonical]
  · exact program.width_canonicalObjective

@[simp] theorem maximize_canonicalForm (program : LinearProgram) :
    program.canonicalForm.1.objective.maximize = true := by
  unfold canonicalForm
  split
  · next canonical => exact canonical.1
  · change program.canonicalObjective.maximize = true
    unfold canonicalObjective
    split
    · next maximize => exact maximize
    · next minimize =>
        simpa [Objective.splitVariables, Objective.negated] using minimize

/-- The canonical form is canonical. -/
theorem isCanonical_canonicalForm (program : LinearProgram) :
    program.canonicalForm.1.IsCanonical := by
  refine ⟨program.maximize_canonicalForm, ?_, ?_⟩
  · unfold canonicalForm
    split
    · next canonical => exact canonical.2.1
    · intro index inside
      have width : program.canonized.width =
          program.width + program.freeVariables.length :=
        program.width_canonicalObjective
      rw [width] at inside
      exact IndexSet.mem_below.mpr inside
  · unfold canonicalForm
    split
    · next canonical => exact canonical.2.2
    · intro constraint member
      have listed : constraint ∈ program.canonicalConstraints := member
      simp only [canonicalConstraints, List.mem_map,
        List.mem_flatMap] at listed
      obtain ⟨bound, ⟨source, _, boundMember⟩, rfl⟩ := listed
      have upper : bound.relation = .le :=
        Constraint.relation_of_mem_upperBounds boundMember
      exact upper

/-- A point lies in the polytope of the canonical form when it has no negative
coordinate and the plan that is carried back lies in the polytope. -/
theorem contains_canonicalForm_iff {point : List Rat}
    (long : program.width + program.freeVariables.length ≤ point.length) :
    program.canonicalForm.1.polytope.Contains point ↔
      program.polytope.Contains (program.carriedBack point) ∧
        ∀ index < program.width + program.freeVariables.length,
          0 ≤ point.getD index 0 := by
  unfold canonicalForm
  split
  · next canonical =>
      have none := freeVariables_eq_nil canonical
      have back : program.carriedBack point = point.take program.width := by
        unfold carriedBack
        rw [none]
        rfl
      have dimension : program.width = program.polytope.dimension :=
        program.objective_width
      rw [back, dimension, Polytope.contains_take, none]
      constructor
      · intro inside
        refine ⟨inside, ?_⟩
        intro index before
        rw [← dimension] at before
        exact inside.2 index (canonical.2.1 index before)
      · exact And.left
  · change (∀ constraint ∈ program.canonicalConstraints,
        constraint.SatisfiedBy point) ∧ (∀ index ∈ IndexSet.below _, _) ↔ _
    rw [canonicalConstraints_iff long]
    simp only [IndexSet.mem_below]
    constructor
    · rintro ⟨satisfied, nonnegative⟩
      refine ⟨⟨satisfied, ?_⟩, nonnegative⟩
      intro index signed
      have inside : index < program.width := by
        have bounded := program.polytope.nonnegative_lt index signed
        rwa [← program.objective_width] at bounded
      rw [getD_carriedBack inside signed]
      exact nonnegative index (by omega)
    · rintro ⟨inside, nonnegative⟩
      exact ⟨inside.1, nonnegative⟩

theorem dot_canonicalForm {point : List Rat}
    (long : program.width + program.freeVariables.length ≤ point.length) :
    dot program.canonicalForm.1.objective.expression.coefficients point =
      restoreValue program.objective.maximize
        (dot program.objective.expression.coefficients
          (program.carriedBack point)) := by
  unfold canonicalForm
  split
  · next canonical =>
      have none := freeVariables_eq_nil canonical
      have back : program.carriedBack point = point.take program.width := by
        unfold carriedBack
        rw [none]
        rfl
      rw [back, dot_take (Nat.le_refl program.width), canonical.1]
      rfl
  · change dot program.canonicalObjective.expression.coefficients point = _
    unfold canonicalObjective restoreValue
    split
    · exact dot_splitVariables rfl long
    · have negated : dot
          program.objective.expression.negated.coefficients
            (program.carriedBack point) =
          -dot program.objective.expression.coefficients
            (program.carriedBack point) :=
        dot_map_neg _ _
      rw [← negated]
      exact dot_splitVariables
        (Expression.width_negated program.objective.expression) long

theorem better_restoreValue_iff {first second : Rat} :
    program.Better (restoreValue program.objective.maximize first)
        (restoreValue program.objective.maximize second) ↔
      program.canonicalForm.1.Better first second := by
  unfold Better restoreValue
  rw [program.maximize_canonicalForm, if_pos rfl]
  split
  · exact Iff.rfl
  · exact neg_lt_neg_iff

/-- What the canonical form attains, the program attains at the plan that is
carried back. -/
theorem attains_of_canonicalForm {point : List Rat} {value : Rat}
    (attains : program.canonicalForm.1.Attains point value) :
    ∃ plan, restorePlan point program.canonicalForm.2 program.width =
        .ok plan ∧ plan.length = program.width ∧
      program.Attains plan
        (restoreValue program.objective.maximize value) := by
  obtain ⟨long, inside, equal⟩ := attains_iff.mp attains
  rw [width_canonicalForm] at long
  have back := (contains_canonicalForm_iff long).mp inside
  have length := length_carriedBack (Nat.le_trans (Nat.le_add_right _ _) long)
  refine ⟨program.carriedBack point, ?_, length, ?_⟩
  · rw [canonicalForm_snd]
    exact restorePlan_eq_ok long
  · apply attains_iff.mpr
    refine ⟨length.ge, back.1, ?_⟩
    rw [← equal, dot_canonicalForm long, restoreValue_restoreValue]

/-- What the program attains, the canonical form attains at a point from which
the point of the program is carried back. -/
theorem canonicalForm_attains {point : List Rat} {value : Rat}
    (attains : program.Attains point value) :
    ∃ lifted, lifted.length = program.canonicalForm.1.width ∧
      program.canonicalForm.1.Attains lifted
        (restoreValue program.objective.maximize value) ∧
      restorePlan lifted program.canonicalForm.2 program.width =
        .ok (point.take program.width) := by
  obtain ⟨long, inside, equal⟩ := attains_iff.mp attains
  have length := program.length_carriedForward point
  have back := carriedBack_carriedForward long inside
  refine ⟨program.carriedForward point, ?_, ?_, ?_⟩
  · rw [length, width_canonicalForm]
  · apply attains_iff.mpr
    refine ⟨?_, ?_, ?_⟩
    · rw [length, width_canonicalForm]
    · apply (contains_canonicalForm_iff length.ge).mpr
      refine ⟨?_, fun index _ => program.carriedForward_nonneg point index⟩
      have dimension : program.width = program.polytope.dimension :=
        program.objective_width
      rw [back, dimension]
      exact (program.polytope.contains_take point).mpr inside
    · rw [dot_canonicalForm length.ge, back,
        dot_take (Nat.le_refl program.width), equal]
  · rw [canonicalForm_snd, ← back]
    exact restorePlan_eq_ok length.ge

theorem isInfeasible_canonicalForm_iff :
    program.canonicalForm.1.IsInfeasible ↔ program.IsInfeasible := by
  constructor
  · intro infeasible point inside
    obtain ⟨lifted, _, attains, _⟩ :=
      canonicalForm_attains (attains_of_contains inside)
    exact infeasible lifted attains.1
  · intro infeasible point inside
    obtain ⟨plan, _, _, attains⟩ :=
      attains_of_canonicalForm (attains_of_contains inside)
    exact infeasible plan attains.1

theorem isUnbounded_canonicalForm_iff :
    program.canonicalForm.1.IsUnbounded ↔ program.IsUnbounded := by
  constructor
  · rintro ⟨⟨point, inside⟩, beyond⟩
    constructor
    · obtain ⟨plan, _, _, attains⟩ :=
        attains_of_canonicalForm (attains_of_contains inside)
      exact ⟨plan, attains.1⟩
    · intro bound
      obtain ⟨better, value, attained, beats⟩ :=
        beyond (restoreValue program.objective.maximize bound)
      obtain ⟨plan, _, _, attains⟩ := attains_of_canonicalForm attained
      refine ⟨plan, _, attains, ?_⟩
      have restored := better_restoreValue_iff.mpr beats
      rwa [restoreValue_restoreValue] at restored
  · rintro ⟨⟨point, inside⟩, beyond⟩
    constructor
    · obtain ⟨lifted, _, attains, _⟩ :=
        canonicalForm_attains (attains_of_contains inside)
      exact ⟨lifted, attains.1⟩
    · intro bound
      obtain ⟨better, value, attained, beats⟩ :=
        beyond (restoreValue program.objective.maximize bound)
      obtain ⟨lifted, _, attains, _⟩ := canonicalForm_attains attained
      refine ⟨lifted, _, attains, ?_⟩
      apply better_restoreValue_iff.mp
      rwa [restoreValue_restoreValue]

theorem hasOptimum_canonicalForm_iff {value : Rat} :
    program.canonicalForm.1.HasOptimum value ↔
      program.HasOptimum
        (restoreValue program.objective.maximize value) := by
  constructor
  · rintro ⟨⟨point, attained⟩, best⟩
    constructor
    · obtain ⟨plan, _, _, attains⟩ := attains_of_canonicalForm attained
      exact ⟨plan, attains⟩
    · intro other otherValue otherAttained better
      obtain ⟨lifted, _, attains, _⟩ := canonicalForm_attains otherAttained
      apply best lifted _ attains
      apply better_restoreValue_iff.mp
      rwa [restoreValue_restoreValue]
  · rintro ⟨⟨point, attained⟩, best⟩
    constructor
    · obtain ⟨lifted, _, attains, _⟩ := canonicalForm_attains attained
      rw [restoreValue_restoreValue] at attains
      exact ⟨lifted, attains⟩
    · intro other otherValue otherAttained better
      obtain ⟨plan, _, _, attains⟩ := attains_of_canonicalForm otherAttained
      exact best plan _ attains (better_restoreValue_iff.mpr better)

/-- A canonical program and its splits stand for a program: points and values
are carried back, every point is reached, better points stay better, and both
programs are infeasible or unbounded together and have the same optimal value
up to its sign. -/
structure IsRepresentedBy (program canonical : LinearProgram)
    (splits : List SignSplit) : Prop where
  carried_back : ∀ point, canonical.polytope.contains point = .ok true →
    ∃ plan value, restorePlan point splits program.width = .ok plan ∧
      plan.length = program.width ∧
      program.polytope.contains plan = .ok true ∧
      canonical.objective.evaluate point = .ok value ∧
      program.objective.evaluate plan =
        .ok (restoreValue program.objective.maximize value)
  reached : ∀ point, program.polytope.contains point = .ok true →
    ∃ lifted, lifted.length = canonical.width ∧
      canonical.polytope.contains lifted = .ok true ∧
      restorePlan lifted splits program.width =
        .ok (point.take program.width)
  better : ∀ {first second firstPlan secondPlan : List Rat}
    {firstValue secondValue : Rat},
    canonical.Attains first firstValue →
    canonical.Attains second secondValue →
    restorePlan first splits program.width = .ok firstPlan →
    restorePlan second splits program.width = .ok secondPlan →
    canonical.Better firstValue secondValue →
      ∃ firstBack secondBack, program.Attains firstPlan firstBack ∧
        program.Attains secondPlan secondBack ∧
          program.Better firstBack secondBack
  infeasible_iff : canonical.IsInfeasible ↔ program.IsInfeasible
  unbounded_iff : canonical.IsUnbounded ↔ program.IsUnbounded
  optimum_iff : ∀ value, canonical.HasOptimum value ↔
    program.HasOptimum (restoreValue program.objective.maximize value)

/-- The canonical form of a program stands for it. -/
theorem isRepresentedBy_canonicalForm (program : LinearProgram) :
    program.IsRepresentedBy program.canonicalForm.1
      program.canonicalForm.2 where
  carried_back := by
    intro point inside
    have attained := attains_of_contains inside
    obtain ⟨plan, carried, length, attains⟩ :=
      attains_of_canonicalForm attained
    exact ⟨plan, _, carried, length, attains.1, attained.2, attains.2⟩
  reached := by
    intro point inside
    obtain ⟨lifted, length, attains, carried⟩ :=
      canonicalForm_attains (attains_of_contains inside)
    exact ⟨lifted, length, attains.1, carried⟩
  better := by
    intro first second firstPlan secondPlan firstValue secondValue
      firstAttained secondAttained firstCarried secondCarried better
    obtain ⟨plan, carried, _, attains⟩ :=
      attains_of_canonicalForm firstAttained
    obtain ⟨other, otherCarried, _, otherAttains⟩ :=
      attains_of_canonicalForm secondAttained
    obtain rfl : plan = firstPlan := by
      rw [firstCarried] at carried
      exact (Except.ok.inj carried).symm
    obtain rfl : other = secondPlan := by
      rw [secondCarried] at otherCarried
      exact (Except.ok.inj otherCarried).symm
    exact ⟨_, _, attains, otherAttains, better_restoreValue_iff.mpr better⟩
  infeasible_iff := isInfeasible_canonicalForm_iff
  unbounded_iff := isUnbounded_canonicalForm_iff
  optimum_iff := fun _ => hasOptimum_canonicalForm_iff

end LinearProgram

end RationalSimplex
