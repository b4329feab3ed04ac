import RationalSimplex.Proofs.Program.Canonize

/-!
# The structure of canonical forms

The rows of a canonical form stand in the order of the constraints that they
come from.  The old variables keep their places, and each variable of free sign
has a new one behind them, whose coefficient is opposite everywhere.  The record
of the splits says which these are, and the marks of integers go along.
-/

namespace RationalSimplex

/-- The row bounds an expression from above, perhaps with more variables behind
those of the expression. -/
structure Constraint.Bounds (row : Constraint) (expression : Expression)
    (bound : Rat) : Prop where
  relation_eq : row.relation = .le
  constant_eq : row.constant = bound
  leads : expression.coefficients <+: row.expression.coefficients

/-- The rows that take the place of a constraint: one for an inequality and two
for an equation. -/
inductive Constraint.IsReplacedBy (constraint : Constraint) :
    List Constraint → Prop where
  | upper {row : Constraint} :
      constraint.relation = .le →
      row.Bounds constraint.expression constraint.constant →
      IsReplacedBy constraint [row]
  | lower {row : Constraint} :
      constraint.relation = .ge →
      row.Bounds constraint.expression.negated (-constraint.constant) →
      IsReplacedBy constraint [row]
  | equation {upper lower : Constraint} :
      constraint.relation = .eq →
      upper.Bounds constraint.expression constraint.constant →
      lower.Bounds constraint.expression.negated (-constraint.constant) →
      IsReplacedBy constraint [upper, lower]

/-- The two variables of a split have opposite coefficients. -/
def Expression.IsSplitAt (expression : Expression) (split : SignSplit) :
    Prop :=
  ∃ number, expression.coefficient split.positive = .ok number ∧
    expression.coefficient split.negative = .ok (-number)

/-- What a canonical form of a program and the record of its splits look
like. -/
structure LinearProgram.HasForm (program canonical : LinearProgram)
    (splits : List SignSplit) : Prop where
  isCanonical : canonical.IsCanonical
  width_eq : canonical.width = program.width + splits.length
  rows : ∃ blocks, canonical.constraints = blocks.flatten ∧
    List.Forall₂ Constraint.IsReplacedBy program.constraints blocks
  constraints_length : canonical.constraints.length =
    program.constraints.length + program.constraints.countP (·.relation = .eq)
  sources_ascending : (splits.map SignSplit.source).Pairwise (· < ·)
  mem_sources_iff : ∀ index, index ∈ splits.map SignSplit.source ↔
    ∃ variable_ < program.width,
      variable_ ∉ program.polytope.nonnegative ∧ (variable_ : Int) = index
  positive_eq : ∀ split ∈ splits, split.positive = split.source
  negatives_eq : splits.map SignSplit.negative =
    (List.range' program.width splits.length).map fun (index : Nat) =>
      (index : Int)
  objective_split : ∀ split ∈ splits,
    canonical.objective.expression.IsSplitAt split
  constraint_split : ∀ split ∈ splits, ∀ constraint ∈ canonical.constraints,
    constraint.expression.IsSplitAt split
  mem_integers_iff : ∀ index, index ∈ canonical.integers ↔
    index ∈ program.integers ∨ ∃ split ∈ splits,
      split.negative = index ∧ ∃ source ∈ program.integers,
        split.source = (source : Int)
  canonize_eq : canonical.canonize = .ok (canonical, [])

/-! ## Rows -/

namespace Constraint

variable {constraint : Constraint} {constraints : List Constraint}

theorem bounds_splitVariables {row : Constraint} (upper : row.relation = .le)
    (indices : List Nat) :
    (row.splitVariables indices).Bounds row.expression row.constant where
  relation_eq := upper
  constant_eq := rfl
  leads := List.prefix_append _ _

theorem isReplacedBy_upperBounds (constraint : Constraint)
    (indices : List Nat) :
    constraint.IsReplacedBy
      (constraint.upperBounds.map (·.splitVariables indices)) := by
  have bounds := fun {row : Constraint}
      (member : row ∈ constraint.upperBounds) =>
    bounds_splitVariables (relation_of_mem_upperBounds member) indices
  unfold upperBounds at bounds ⊢
  cases relation : constraint.relation with
  | le =>
      rw [relation] at bounds
      exact .upper relation (bounds List.mem_cons_self)
  | ge =>
      rw [relation] at bounds
      exact .lower relation (bounds List.mem_cons_self)
  | eq =>
      rw [relation] at bounds
      exact .equation relation (bounds List.mem_cons_self)
        (bounds (List.mem_cons_of_mem _ List.mem_cons_self))

@[simp] theorem length_flatMap_upperBounds (constraints : List Constraint) :
    (constraints.flatMap upperBounds).length =
      constraints.length + constraints.countP (·.relation = .eq) := by
  induction constraints with
  | nil => rfl
  | cons constraint constraints induction =>
      rw [List.flatMap_cons, List.length_append, induction, List.countP_cons,
        List.length_cons]
      unfold upperBounds
      cases relation : constraint.relation with
      | le => simp; omega
      | ge => simp; omega
      | eq => simp; omega

theorem flatMap_upperBounds_eq
    (upper : ∀ constraint ∈ constraints, constraint.relation = .le) :
    constraints.flatMap upperBounds = constraints := by
  induction constraints with
  | nil => rfl
  | cons constraint constraints induction =>
      have first : constraint.upperBounds = [constraint] := by
        unfold upperBounds
        rw [upper constraint List.mem_cons_self]
      rw [List.flatMap_cons, first, induction fun other member =>
        upper other (List.mem_cons_of_mem _ member)]
      rfl

end Constraint

/-! ## Split expressions -/

namespace Expression

variable {expression : Expression} {indices : List Nat} {index number : Nat}

@[simp] theorem splitVariables_nil (expression : Expression) :
    expression.splitVariables [] = expression := by
  simp [splitVariables]

theorem coefficient_natCast (inside : index < expression.width) :
    expression.coefficient (index : Int) =
      .ok (expression.coefficients.getD index 0) := by
  unfold coefficient
  rw [elementAt?_natCast inside]

/-- The new variable of a listed one stands at its place behind the old
variables. -/
theorem isSplitAt_splitVariables (place : indices[number]? = some index)
    (inside : index < expression.width) :
    (expression.splitVariables indices).IsSplitAt
      ⟨index, index, (expression.width + number : Nat)⟩ := by
  have before : number < indices.length :=
    (List.getElem?_eq_some_iff.mp place).1
  have wider : (expression.splitVariables indices).width =
      expression.width + indices.length :=
    width_splitVariables expression indices
  refine ⟨expression.coefficients.getD index 0, ?_, ?_⟩
  · rw [coefficient_natCast (by omega)]
    unfold splitVariables
    rw [List.getD_append _ _ _ _ inside]
  · rw [coefficient_natCast (by omega)]
    unfold splitVariables width
    rw [List.getD_append_right _ _ _ _ (Nat.le_add_right _ _)]
    simp [List.getD_eq_getElem?_getD, place]

end Expression

namespace LinearProgram

variable {program : LinearProgram} {index : Nat} {split : SignSplit}

/-! ## The parts of a canonical form -/

@[simp] theorem objective_canonicalForm (program : LinearProgram) :
    program.canonicalForm.1.objective = program.canonicalObjective := by
  unfold canonicalForm
  split
  · next canonical =>
      unfold canonicalObjective Objective.splitVariables
      rw [if_pos canonical.1, freeVariables_eq_nil canonical,
        Expression.splitVariables_nil]
  · rfl

@[simp] theorem constraints_canonicalForm (program : LinearProgram) :
    program.canonicalForm.1.constraints = program.canonicalConstraints := by
  unfold canonicalForm
  split
  · next canonical =>
      unfold canonicalConstraints Constraint.splitVariables
      rw [Constraint.flatMap_upperBounds_eq canonical.2.2,
        freeVariables_eq_nil canonical]
      simp
  · rfl

theorem mem_integers_canonicalForm_iff :
    index ∈ program.canonicalForm.1.integers ↔
      index ∈ program.integers ∨ index ∈ program.splitIntegers := by
  unfold canonicalForm
  split
  · next canonical =>
      simp [splitIntegers, freeVariables_eq_nil canonical]
  · simp [canonized]

theorem exists_blocks (program : LinearProgram) :
    ∃ blocks, program.canonicalConstraints = blocks.flatten ∧
      List.Forall₂ Constraint.IsReplacedBy program.constraints blocks := by
  refine ⟨program.constraints.map fun constraint =>
    constraint.upperBounds.map (·.splitVariables program.freeVariables), ?_, ?_⟩
  · unfold canonicalConstraints
    rw [List.map_flatMap, List.flatMap_def]
  · rw [List.forall₂_map_right_iff, List.forall₂_same]
    intro constraint _
    exact constraint.isReplacedBy_upperBounds _

/-! ## The record of the splits -/

/-- The splits are numbered like the variables of free sign. -/
theorem mem_splits_iff :
    split ∈ program.splits ↔ ∃ number index : Nat,
      program.freeVariables[number]? = some index ∧
        split = ⟨index, index, (program.width + number : Nat)⟩ := by
  unfold splits
  simp only [List.mem_map, Prod.exists, List.mem_zipIdx_iff_le_and_getElem?_sub]
  constructor
  · rintro ⟨index, place, ⟨behind, listed⟩, rfl⟩
    refine ⟨place - program.width, index, listed, ?_⟩
    rw [Nat.add_sub_cancel' behind]
  · rintro ⟨number, index, listed, rfl⟩
    refine ⟨index, program.width + number, ⟨Nat.le_add_right _ _, ?_⟩, rfl⟩
    rw [Nat.add_sub_cancel_left]
    exact listed

theorem mem_splitIntegers_iff :
    index ∈ program.splitIntegers ↔ ∃ split ∈ program.splits,
      split.negative = index ∧ ∃ source ∈ program.integers,
        split.source = (source : Int) := by
  unfold splitIntegers splits
  simp only [List.mem_map, List.mem_filter, decide_eq_true_eq]
  constructor
  · rintro ⟨⟨source, place⟩, ⟨listed, marked⟩, rfl⟩
    exact ⟨_, ⟨(source, place), listed, rfl⟩, rfl, source, marked, rfl⟩
  · rintro ⟨_, ⟨⟨variable_, place⟩, listed, rfl⟩, same, source, marked, equal⟩
    obtain rfl : variable_ = source := Int.ofNat_inj.mp equal
    exact ⟨(variable_, place), ⟨listed, marked⟩, Int.ofNat_inj.mp same⟩

@[simp] theorem length_splits (program : LinearProgram) :
    program.splits.length = program.freeVariables.length := by
  simp [splits]

@[simp] theorem map_source_splits (program : LinearProgram) :
    program.splits.map SignSplit.source =
      program.freeVariables.map fun (index : Nat) => (index : Int) := by
  have sources := List.zipIdx_map_fst program.width program.freeVariables
  rw [← sources, List.map_map, splits, List.map_map]
  rfl

@[simp] theorem map_negative_splits (program : LinearProgram) :
    program.splits.map SignSplit.negative =
      (List.range' program.width program.splits.length).map
        fun (index : Nat) => (index : Int) := by
  have places := List.zipIdx_map_snd program.width program.freeVariables
  rw [length_splits, ← places, List.map_map, splits, List.map_map]
  rfl

theorem sources_ascending (program : LinearProgram) :
    (program.splits.map SignSplit.source).Pairwise (· < ·) := by
  have ascending : program.freeVariables.Pairwise (· < ·) :=
    List.pairwise_lt_range.filter _
  rw [map_source_splits]
  exact ascending.map _ fun _ _ less => Int.ofNat_lt.mpr less

theorem mem_sources_iff {index : Int} :
    index ∈ program.splits.map SignSplit.source ↔
      ∃ variable_ < program.width,
        variable_ ∉ program.polytope.nonnegative ∧
          (variable_ : Int) = index := by
  rw [map_source_splits, List.mem_map]
  simp only [mem_freeVariables_iff, and_assoc]

/-- Every expression whose variables of free sign are split has opposite
coefficients at the two variables of each split. -/
theorem isSplitAt_of_mem_splits {expression : Expression}
    (width : expression.width = program.width)
    (member : split ∈ program.splits) :
    (expression.splitVariables program.freeVariables).IsSplitAt split := by
  obtain ⟨number, index, place, rfl⟩ := mem_splits_iff.mp member
  have free := mem_freeVariables_iff.mp (List.mem_of_getElem? place)
  rw [← width] at free ⊢
  exact Expression.isSplitAt_splitVariables place free.1

/-! ## The canonical form -/

theorem hasForm_canonicalForm (program : LinearProgram) :
    program.HasForm program.canonicalForm.1 program.splits where
  isCanonical := program.isCanonical_canonicalForm
  width_eq := by rw [width_canonicalForm, length_splits]
  rows := by
    rw [constraints_canonicalForm]
    exact program.exists_blocks
  constraints_length := by
    rw [constraints_canonicalForm, canonicalConstraints, List.length_map,
      Constraint.length_flatMap_upperBounds]
  sources_ascending := program.sources_ascending
  mem_sources_iff := fun _ => mem_sources_iff
  positive_eq := by
    intro split member
    obtain ⟨_, _, _, rfl⟩ := mem_splits_iff.mp member
    rfl
  negatives_eq := program.map_negative_splits
  objective_split := by
    intro split member
    rw [objective_canonicalForm]
    apply isSplitAt_of_mem_splits _ member
    split
    · rfl
    · exact Expression.width_negated _
  constraint_split := by
    intro split member constraint listed
    rw [constraints_canonicalForm] at listed
    obtain ⟨bound, bounds, rfl⟩ := List.mem_map.mp listed
    exact isSplitAt_of_mem_splits (width_of_mem_bounds bounds) member
  mem_integers_iff := by
    intro index
    rw [mem_integers_canonicalForm_iff, mem_splitIntegers_iff]
  canonize_eq := if_pos program.isCanonical_canonicalForm

/-- The canonical form can always be built.  It is canonical and looks as it
should, and it is its own canonical form. -/
theorem canonize_hasForm (program : LinearProgram) :
    ∃ canonical splits, program.canonize = .ok (canonical, splits) ∧
      program.HasForm canonical splits := by
  refine ⟨program.canonicalForm.1, program.canonicalForm.2,
    program.canonize_eq_ok, ?_⟩
  rw [canonicalForm_snd]
  exact program.hasForm_canonicalForm

end LinearProgram

end RationalSimplex
