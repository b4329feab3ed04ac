import RationalSimplex.Proofs.Program.CanonicalForm

/-!
# Building canonical forms

The canonical form is built by splitting one variable after the other and by
entering the parts with all checks.  None of the checks fails, and what is built
is the canonical form as it is described at once, so that it stands for the
program.
-/

namespace RationalSimplex

/-! ## Checks that succeed -/

@[simp] theorem IndexSet.ofInts_natCast (indices : List Nat) :
    ofInts (indices.map fun (index : Nat) => (index : Int)) =
      ofList indices := by
  unfold ofInts
  rw [List.map_map]
  congr 1
  exact List.map_id'' (fun _ => rfl) indices

theorem Polytope.outOfRange?_eq_none {width : Nat} {indices : List Int}
    (inside : ∀ index ∈ indices, 0 ≤ index ∧ index < (width : Int)) :
    outOfRange? width indices = none := by
  have right : (indices.find? fun index =>
      decide (index < 0 ∨ (width : Int) ≤ index)) = none := by
    apply List.find?_eq_none.mpr
    intro index member
    have found := inside index member
    simp only [decide_eq_true_eq]
    omega
  unfold outOfRange?
  simp only [right]

/-- A polytope is made of its constraints and its nonnegative variables. -/
theorem Polytope.make_eq_ok (polytope : Polytope) {nonnegative : List Int}
    (inside : ∀ index ∈ nonnegative,
      0 ≤ index ∧ index < (polytope.dimension : Int))
    (same : IndexSet.ofInts nonnegative = polytope.nonnegative) :
    make polytope.constraints nonnegative = .ok polytope := by
  obtain ⟨dimension, constraints, signed, nonempty, even, bounded⟩ := polytope
  obtain ⟨first, rest, rfl⟩ := List.exists_cons_of_ne_nil nonempty
  obtain rfl : first.width = dimension := even first List.mem_cons_self
  obtain rfl : IndexSet.ofInts nonnegative = signed := same
  have inRange : outOfRange? first.width nonnegative = none :=
    outOfRange?_eq_none inside
  change make (first :: rest) nonnegative = _
  unfold make
  dsimp only
  split
  · next number constraint uneven =>
      rw [unevenConstraint?_eq_none_iff.mpr even] at uneven
      cases uneven
  · split
    · next index wrong =>
        rw [inRange] at wrong
        cases wrong
    · rfl

namespace LinearProgram

theorem integerOutOfRange?_eq_none {width : Nat} {indices : List Int}
    (inside : ∀ index ∈ indices, 0 ≤ index ∧ index < (width : Int)) :
    integerOutOfRange? width indices = none := by
  unfold integerOutOfRange?
  rw [List.min?_eq_none_iff, List.filter_eq_nil_iff]
  intro index member
  have found := inside index member
  simp only [decide_eq_true_eq]
  omega

/-- A program is made of its objective, its polytope and its marks. -/
theorem make_eq_ok (program : LinearProgram) {integers : List Int}
    (inside : ∀ index ∈ integers, 0 ≤ index ∧ index < (program.width : Int))
    (same : IndexSet.ofInts integers = program.integers) :
    make program.objective program.polytope integers program.artificial =
      .ok program := by
  obtain ⟨objective, polytope, marked, artificial, even, bounded⟩ := program
  obtain rfl : IndexSet.ofInts integers = marked := same
  have inRange :
      integerOutOfRange? objective.expression.width integers = none :=
    integerOutOfRange?_eq_none inside
  unfold make
  rw [dif_pos even]
  split
  · next index wrong =>
      rw [inRange] at wrong
      cases wrong
  · rfl

end LinearProgram

@[simp] theorem Constraint.splitBounds_eq_ok (constraint : Constraint) :
    constraint.splitBounds = .ok constraint.upperBounds := by
  unfold splitBounds upperBounds
  cases relation : constraint.relation with
  | le => rfl
  | eq =>
      unfold inequalities
      rw [if_pos relation]
      rfl
  | ge =>
      unfold reversed
      rw [if_neg (by simp [relation])]

/-! ## One variable after the other -/

section Splitting

variable {indices : List Nat} {index : Nat}

@[simp]
theorem Expression.splitVariable_splitVariables {expression : Expression}
    (inside : index < expression.width) :
    (expression.splitVariables indices).splitVariable index =
      .ok (expression.splitVariables (indices ++ [index])) := by
  have wider : index < (expression.splitVariables indices).width := by
    rw [width_splitVariables]
    omega
  rw [splitVariable_eq_ok wider, splitVariables_splitVariables (by simpa)]

@[simp] theorem Objective.splitVariable_splitVariables {objective : Objective}
    (inside : index < objective.expression.width) :
    (objective.splitVariables indices).splitVariable index =
      .ok (objective.splitVariables (indices ++ [index])) := by
  unfold splitVariable splitVariables
  simp [Expression.splitVariable_splitVariables inside]

@[simp]
theorem Constraint.splitVariable_splitVariables {constraint : Constraint}
    (inside : index < constraint.width) :
    (constraint.splitVariables indices).splitVariable index =
      .ok (constraint.splitVariables (indices ++ [index])) := by
  unfold splitVariable splitVariables
  simp [Expression.splitVariable_splitVariables inside]

end Splitting

namespace LinearProgram

variable {program : LinearProgram} {index : Nat}

/-- The variables of free sign below a bound. -/
def freeBelow (program : LinearProgram) (bound : Nat) : List Nat :=
  (List.range bound).filter (· ∉ program.polytope.nonnegative)

/-- What is built once the variables below a bound have been looked at. -/
def splittingBelow (program : LinearProgram) (bound : Nat) : Splitting where
  objective :=
    (if program.objective.maximize then program.objective
      else program.objective.negated).splitVariables (program.freeBelow bound)
  constraints :=
    (program.constraints.flatMap Constraint.upperBounds).map
      (·.splitVariables (program.freeBelow bound))
  integers :=
    (program.integers.toList ++
      (((program.freeBelow bound).zipIdx program.width).filter
        (·.1 ∈ program.integers)).map (·.2)).map fun (index : Nat) =>
          (index : Int)
  splits := splitsFrom (program.freeBelow bound) program.width

theorem width_of_mem_bounds {bound : Constraint}
    (member : bound ∈ program.constraints.flatMap Constraint.upperBounds) :
    bound.width = program.width := by
  obtain ⟨constraint, listed, bounds⟩ := List.mem_flatMap.mp member
  rw [Constraint.width_of_mem_upperBounds bounds,
    program.polytope.width_eq constraint listed, ← program.objective_width]
  rfl

@[simp] theorem width_splittingBelow (program : LinearProgram) (bound : Nat) :
    (program.splittingBelow bound).objective.expression.width =
      program.width + (program.freeBelow bound).length := by
  unfold splittingBelow Objective.splitVariables width
  split
  · simp
  · simp [Objective.negated]

/-- Looking at one more variable keeps what is built in step. -/
theorem splitNext_eq_ok (inside : index < program.width) :
    program.splitNext (program.splittingBelow index) index =
      .ok (program.splittingBelow (index + 1)) := by
  unfold splitNext
  split
  · next signed =>
      have same : program.freeBelow (index + 1) = program.freeBelow index := by
        simp [freeBelow, List.range_succ, signed]
      unfold splittingBelow
      rw [same]
  · next free =>
      have more : program.freeBelow (index + 1) =
          program.freeBelow index ++ [index] := by
        simp [freeBelow, List.range_succ, free]
      have objective :
          (program.splittingBelow index).objective.splitVariable index =
            .ok (program.splittingBelow (index + 1)).objective := by
        unfold splittingBelow
        rw [more]
        apply Objective.splitVariable_splitVariables
        split
        · exact inside
        · rw [Objective.negated, Expression.width_negated]
          exact inside
      have constraints : (program.splittingBelow index).constraints.mapM
          (·.splitVariable index) =
            .ok (program.splittingBelow (index + 1)).constraints := by
        unfold splittingBelow
        rw [more, List.mapM_map]
        apply mapM_eq_ok
        intro bound member
        apply Constraint.splitVariable_splitVariables
        rwa [width_of_mem_bounds member]
      have negative :
          ((program.splittingBelow (index + 1)).objective.expression.width :
            Int) - 1 =
          (program.width + (program.freeBelow index).length : Nat) := by
        rw [width_splittingBelow, more, List.length_append,
          List.length_singleton]
        omega
      have integers : (if index ∈ program.integers then
            (program.splittingBelow index).integers ++
              [((program.width + (program.freeBelow index).length : Nat) : Int)]
          else (program.splittingBelow index).integers) =
            (program.splittingBelow (index + 1)).integers := by
        unfold splittingBelow
        simp only [more, List.zipIdx_append]
        by_cases marked : index ∈ program.integers
        · simp [marked]
        · simp [marked]
      have splits : (program.splittingBelow index).splits ++
          [⟨index, index,
            (program.width + (program.freeBelow index).length : Nat)⟩] =
              (program.splittingBelow (index + 1)).splits := by
        simp [splittingBelow, splitsFrom, more, List.zipIdx_append]
      simp only [objective, constraints, negative, integers, splits, ok_bind,
        pure_eq_ok]

theorem splittingBelow_zero (program : LinearProgram) :
    program.splittingBelow 0 = {
      objective := if program.objective.maximize then program.objective
        else program.objective.negated
      constraints := (program.constraints.map Constraint.upperBounds).flatten
      integers :=
        program.integers.toList.map fun (index : Nat) => (index : Int)
      splits := [] } := by
  have none : program.freeBelow 0 = [] := rfl
  simp [splittingBelow, none, splitsFrom, List.flatMap_def,
    Objective.splitVariables, Constraint.splitVariables,
    Expression.splitVariables]

/-- The parts that are built in the end make up the canonical form. -/
theorem make_splittingBelow_width (program : LinearProgram) :
    make (program.splittingBelow program.width).objective
        program.canonicalPolytope
        (program.splittingBelow program.width).integers program.artificial =
      .ok program.canonized := by
  have integers : IndexSet.ofInts
      (program.splittingBelow program.width).integers =
        program.canonized.integers :=
    IndexSet.ofInts_natCast _
  apply program.canonized.make_eq_ok _ integers
  intro index member
  obtain ⟨number, listed, rfl⟩ := List.mem_map.mp member
  have inside := program.canonized.integers_lt number
    (IndexSet.mem_ofList.mpr listed)
  rw [← program.canonized.objective_width] at inside
  exact ⟨Int.natCast_nonneg number, Int.ofNat_lt.mpr inside⟩

theorem make_canonicalPolytope (program : LinearProgram) :
    Polytope.make (program.splittingBelow program.width).constraints
        ((List.range (program.splittingBelow
          program.width).objective.expression.width).map
            fun (index : Nat) => (index : Int)) =
      .ok program.canonicalPolytope := by
  have width := program.width_splittingBelow program.width
  rw [width]
  apply program.canonicalPolytope.make_eq_ok
  · intro index member
    obtain ⟨number, listed, rfl⟩ := List.mem_map.mp member
    have inside := List.mem_range.mp listed
    exact ⟨Int.natCast_nonneg number, Int.ofNat_lt.mpr inside⟩
  · rw [IndexSet.ofInts_natCast]
    apply IndexSet.eq_of_mem_iff
    intro index
    rw [IndexSet.mem_ofList, List.mem_range]
    exact IndexSet.mem_below.symm

/-- No step fails, and what is built is the canonical form. -/
theorem canonize_eq_ok (program : LinearProgram) :
    program.canonize = .ok program.canonicalForm := by
  unfold canonize canonicalForm
  split
  · rfl
  · have bounds : program.constraints.mapM Constraint.splitBounds =
        .ok (program.constraints.map Constraint.upperBounds) :=
      mapM_eq_ok fun constraint _ => constraint.splitBounds_eq_ok
    have ended := foldlM_range_eq_ok
      (fun index inside => program.splitNext_eq_ok inside)
    simp only [bounds, ← splittingBelow_zero, ended, make_canonicalPolytope,
      make_splittingBelow_width, ok_bind, mapError_ok, pure_eq_ok]
    rfl

/-- The canonical form can always be built, and what is built stands for the
program. -/
theorem canonize_represents (program : LinearProgram) :
    ∃ canonical splits, program.canonize = .ok (canonical, splits) ∧
      program.IsRepresentedBy canonical splits :=
  ⟨program.canonicalForm.1, program.canonicalForm.2, program.canonize_eq_ok,
    program.isRepresentedBy_canonicalForm⟩

end LinearProgram

end RationalSimplex
