import RationalSimplex.Program.Basic

/-!
# Canonical form

A canonical program maximises over nonnegative variables under constraints that
bound expressions from above.  Every program has an equivalent one: the
objective and the lower bounds are negated, an equation becomes two
inequalities, and a variable of free sign becomes the difference of two new
ones.

A plan of the canonical form is carried back to the variables of the program:
the coordinate of a split variable is the difference of the two variables that
it was split into.  The value of a program that minimises is the negated value
of its canonical form.
-/

namespace RationalSimplex

/-! ## Canonical programs -/

/-- The variable `source` of a program is the difference of two variables of its
canonical form. -/
structure SignSplit where
  source : Int
  positive : Int
  negative : Int
deriving DecidableEq

/-- The upper bounds that together mean the same as a constraint. -/
def Constraint.upperBounds (constraint : Constraint) : List Constraint :=
  match constraint.relation with
  | .le => [constraint]
  | .ge => [constraint.negated]
  | .eq => [constraint.halves.1, constraint.halves.2]

namespace LinearProgram

/-- The variables of free sign, in ascending order. -/
def freeVariables (program : LinearProgram) : List Nat :=
  (List.range program.width).filter (· ∉ program.polytope.nonnegative)

/-- The program is canonical. -/
def IsCanonical (program : LinearProgram) : Prop :=
  program.objective.maximize = true ∧
    (∀ index < program.width, index ∈ program.polytope.nonnegative) ∧
    ∀ constraint ∈ program.constraints, constraint.relation = .le

instance (program : LinearProgram) : Decidable program.IsCanonical := by
  unfold IsCanonical
  infer_instance

/-- How the variables of free sign are split: the new variables follow the old
ones. -/
def splits (program : LinearProgram) : List SignSplit :=
  (program.freeVariables.zipIdx program.width).map fun numbered =>
    ⟨numbered.1, numbered.1, numbered.2⟩

/-- The new variables that have to be integers because the split variable has to
be one. -/
def splitIntegers (program : LinearProgram) : List Nat :=
  ((program.freeVariables.zipIdx program.width).filter
    (·.1 ∈ program.integers)).map (·.2)

/-- The objective of the canonical form. -/
def canonicalObjective (program : LinearProgram) : Objective :=
  (if program.objective.maximize then program.objective
    else program.objective.negated).splitVariables program.freeVariables

/-- The constraints of the canonical form. -/
def canonicalConstraints (program : LinearProgram) : List Constraint :=
  (program.constraints.flatMap Constraint.upperBounds).map
    (·.splitVariables program.freeVariables)

end LinearProgram

@[simp]
theorem Expression.width_negated (expression : Expression) :
    expression.negated.width = expression.width := by
  simp [negated, width]

@[simp]
theorem Expression.width_splitVariables (expression : Expression)
    (indices : List Nat) :
    (expression.splitVariables indices).width =
      expression.width + indices.length := by
  simp [splitVariables, width]

theorem Constraint.width_of_mem_upperBounds {constraint bound : Constraint}
    (member : bound ∈ constraint.upperBounds) :
    bound.width = constraint.width := by
  unfold upperBounds at member
  split at member <;> simp [negated, halves] at member
  · rw [member]
  · rw [member]
    simp [width]
  · rcases member with rfl | rfl <;> simp [width]

theorem Constraint.upperBounds_ne_nil (constraint : Constraint) :
    constraint.upperBounds ≠ [] := by
  unfold upperBounds
  split <;> simp

namespace LinearProgram

theorem width_canonicalObjective (program : LinearProgram) :
    program.canonicalObjective.expression.width =
      program.width + program.freeVariables.length := by
  unfold canonicalObjective Objective.splitVariables width
  split <;> simp [Objective.negated]

theorem width_of_mem_canonicalConstraints {program : LinearProgram}
    {constraint : Constraint}
    (member : constraint ∈ program.canonicalConstraints) :
    constraint.width = program.width + program.freeVariables.length := by
  simp only [canonicalConstraints, List.mem_map, List.mem_flatMap] at member
  obtain ⟨bound, ⟨source, sourceMember, boundMember⟩, rfl⟩ := member
  have boundWidth := Constraint.width_of_mem_upperBounds boundMember
  have sourceWidth := program.polytope.width_eq source sourceMember
  have objectiveWidth := program.objective_width
  simp only [Constraint.splitVariables, Constraint.width,
    Expression.width_splitVariables] at *
  unfold width
  omega

theorem canonicalConstraints_ne_nil (program : LinearProgram) :
    program.canonicalConstraints ≠ [] := by
  intro empty
  simp only [canonicalConstraints, List.map_eq_nil_iff,
    List.flatMap_eq_nil_iff] at empty
  obtain ⟨constraint, rest, equality⟩ :=
    List.exists_cons_of_ne_nil program.polytope.constraints_ne_nil
  exact constraint.upperBounds_ne_nil
    (empty constraint (by simp [constraints, equality]))

theorem lt_of_mem_splitIntegers {program : LinearProgram} {index : Nat}
    (member : index ∈ program.splitIntegers) :
    index < program.width + program.freeVariables.length := by
  simp only [splitIntegers, List.mem_map, List.mem_filter] at member
  obtain ⟨numbered, ⟨numberedMember, _⟩, rfl⟩ := member
  have := List.snd_lt_add_of_mem_zipIdx numberedMember
  omega

/-- The polytope of the canonical form. -/
def canonicalPolytope (program : LinearProgram) : Polytope where
  dimension := program.width + program.freeVariables.length
  constraints := program.canonicalConstraints
  nonnegative := .below (program.width + program.freeVariables.length)
  constraints_ne_nil := program.canonicalConstraints_ne_nil
  width_eq := fun _ member => width_of_mem_canonicalConstraints member
  nonnegative_lt := fun _ member => IndexSet.mem_below.mp member

/-- The equivalent canonical program of a program that is not canonical. -/
def canonized (program : LinearProgram) : LinearProgram where
  objective := program.canonicalObjective
  polytope := program.canonicalPolytope
  integers := .ofList (program.integers.toList ++ program.splitIntegers)
  artificial := program.artificial
  objective_width := program.width_canonicalObjective
  integers_lt := by
    intro index member
    rw [IndexSet.mem_ofList, List.mem_append] at member
    rcases member with member | member
    · have := program.integers_lt index member
      have := program.objective_width
      simp only [canonicalPolytope, width]
      omega
    · exact lt_of_mem_splitIntegers member

/-- The canonical form of a program, and how its variables were split. -/
def canonicalForm (program : LinearProgram) : LinearProgram × List SignSplit :=
  if program.IsCanonical then
    (program, [])
  else
    (program.canonized, program.splits)

end LinearProgram

/-- The upper bounds of a constraint, where only an equation may be split. -/
def Constraint.splitBounds (constraint : Constraint) :
    Except Fault (List Constraint) :=
  match constraint.relation with
  | .le => .ok [constraint]
  | .ge => .ok [constraint.reversed]
  | .eq => do
      let halves ← constraint.inequalities
      return [halves.1, halves.2]

/-- The parts of a canonical form while one variable after the other is
split. -/
structure Splitting where
  objective : Objective
  constraints : List Constraint
  integers : List Int
  splits : List SignSplit

namespace LinearProgram

/-- Split a variable everywhere, unless it may not be negative. -/
def splitNext (program : LinearProgram) (work : Splitting) (index : Nat) :
    Except Fault Splitting :=
  if index ∈ program.polytope.nonnegative then
    .ok work
  else do
    let objective ← work.objective.splitVariable index
    let constraints ← work.constraints.mapM (·.splitVariable index)
    let negative := (objective.expression.width : Int) - 1
    return {
      objective := objective
      constraints := constraints
      integers :=
        if index ∈ program.integers then
          work.integers ++ [negative]
        else
          work.integers
      splits := work.splits ++ [⟨index, index, negative⟩] }

/-- Build the canonical form step by step, with a check wherever one of its
parts is entered. -/
def canonize (program : LinearProgram) :
    Except Fault (LinearProgram × List SignSplit) :=
  if program.IsCanonical then
    .ok (program, [])
  else do
    let bounds ← program.constraints.mapM Constraint.splitBounds
    let work ← (List.range program.width).foldlM program.splitNext {
      objective :=
        if program.objective.maximize then
          program.objective
        else
          program.objective.negated
      constraints := bounds.flatten
      integers := program.integers.toList.map fun (index : Nat) => (index : Int)
      splits := [] }
    let nonnegative :=
      (List.range work.objective.expression.width).map fun (index : Nat) =>
        (index : Int)
    let polytope ← (Polytope.make work.constraints nonnegative).mapError .model
    let canonical ←
      (make work.objective polytope work.integers program.artificial).mapError
        .model
    return (canonical, work.splits)

end LinearProgram

/-! ## Recovery -/

/-- The leading numbers of a list; a negative count leaves out that many at the
end. -/
def leading (count : Int) (numbers : List Rat) : List Rat :=
  if 0 ≤ count then
    numbers.take count.toNat
  else
    numbers.take (numbers.length + count).toNat

/-- Put the value of a split variable into the plan that is being recovered. -/
def restoreSplit (plan values : List Rat) (split : SignSplit) :
    Except Fault (List Rat) :=
  match elementAt? plan split.positive, elementAt? plan split.negative with
  | some positive, some negative =>
      match resolveIndex? values.length split.source with
      | some index => .ok (values.set index (positive - negative))
      | none => .error (.index (.missing .assignment split.source))
  | some _, none => .error (.index (.missing .coefficient split.negative))
  | none, _ => .error (.index (.missing .coefficient split.positive))

/-- The plan over the variables before the splits, the first `count` of the
canonical ones. -/
def restorePlan (plan : List Rat) (splits : List SignSplit) (count : Int) :
    Except Fault (List Rat) :=
  splits.foldlM (restoreSplit plan) (leading count plan)

/-- The value before a minimisation was turned into a maximisation. -/
def restoreValue (maximize : Bool) (value : Rat) : Rat :=
  if maximize then value else -value

end RationalSimplex
