import RationalSimplex.Proofs.Program.Solve
import RationalSimplex.Proofs.Simplex.Invariant

/-!
# Where the simplex method begins

The initial tableau of a canonical program says what the program says: with the
artificial variables at zero, its rows are the constraints, each with its own
slack.  The first phase begins by subtracting the rows of the artificial
variables, so that its value is minus the sum of what these rows are short of.
-/

namespace RationalSimplex

/-- The number of constraints that are not satisfied where all variables are
zero. -/
def LinearProgram.negativeCount (program : LinearProgram) : Nat :=
  program.constraints.countP fun constraint => constraint.constant < 0

/-- The sum of the absolute values of all negative constants. -/
def LinearProgram.shortage (program : LinearProgram) : Rat :=
  ((program.constraints.filter fun constraint =>
    constraint.constant < 0).map fun constraint => |constraint.constant|).sum

theorem LinearProgram.artificialCount_eq (program : LinearProgram) :
    program.artificialCount = program.negativeCount := by
  unfold artificialCount artificialsBefore negativeCount
  rw [List.take_length]
  rfl

namespace Tableau

open LinearProgram (onLine)

/-- The slacks, together with the point, solve the rows of the tableau when all
variables behind them are zero. -/
def Completes (tableau : Tableau) (point slacks : List Rat) : Prop :=
  tableau.Solves fun column => (point ++ slacks).getD column 0

/-- The tableau says the same as the canonical program, and no right-hand side
is negative. -/
structure Encodes (tableau : Tableau) (program : LinearProgram) : Prop where
  height_eq : tableau.matrix.height = program.constraints.length + 1
  width_eq : tableau.matrix.width = program.width +
    program.constraints.length + program.negativeCount + 1
  artificial_eq : tableau.artificial =
    (List.range program.negativeCount).map fun (index : Nat) =>
      ((program.width + program.constraints.length + index : Nat) : Int)
  completes_iff : ∀ point slacks, point.length = program.width →
    slacks.length = program.constraints.length →
      (tableau.Completes point slacks ↔
        ∀ (row : Nat) (constraint : Constraint) (slack : Rat),
          program.constraints[row]? = some constraint →
          slacks[row]? = some slack →
            dot constraint.expression.coefficients point + slack =
              constraint.constant)
  contains_iff : ∀ point, point.length = program.width →
    (∀ number ∈ point, 0 ≤ number) →
      (program.polytope.contains point = .ok true ↔
        ∃ slacks, slacks.length = program.constraints.length ∧
          (∀ slack ∈ slacks, 0 ≤ slack) ∧ tableau.Completes point slacks)
  slacks_unique : ∀ point slacks others, point.length = program.width →
    slacks.length = program.constraints.length →
      others.length = program.constraints.length →
        tableau.Completes point slacks → tableau.Completes point others →
          slacks = others
  rhs_nonneg : ∀ row < program.constraints.length,
    ∃ number, tableau.rhs row = .ok number ∧ 0 ≤ number
  distinct : tableau.basis.Nodup
  unitBasis : tableau.UnitBasis
  basis_eq : ∀ (row : Nat) (constraint : Constraint),
    program.constraints[row]? = some constraint →
      tableau.basis[row]? = some
        ((if 0 ≤ constraint.constant then program.width + row
          else program.width + program.constraints.length +
            (program.constraints.take row).countP fun earlier =>
              earlier.constant < 0 : Nat) : Int)

namespace IsInitial

variable {tableau prepared : Tableau} {program : LinearProgram}
  {point slacks : List Rat} {row : Nat} {constraint : Constraint}

/-! ## Points with slacks -/

/-- A row is solved by a point and the slack of its constraint. -/
theorem residual_append_eq_zero_iff (initial : tableau.IsInitial program)
    (place : program.constraints[row]? = some constraint)
    (fits : point.length = program.width)
    (all : slacks.length = program.constraints.length) :
    tableau.matrix.residual
        (fun column => (point ++ slacks).getD column 0) row = 0 ↔
      dot constraint.expression.coefficients point + slacks.getD row 0 =
        constraint.constant := by
  have products : ∑ column ∈ Finset.range program.width,
      constraint.expression.coefficients.getD column 0 *
        (point ++ slacks).getD column 0 =
          dot constraint.expression.coefficients point := by
    rw [dot_eq_sum (LinearProgram.length_coefficients place).le]
    apply Finset.sum_congr rfl
    intro column member
    have inside := Finset.mem_range.mp member
    rw [List.getD_append _ _ _ _ (by omega)]
  have slack : (point ++ slacks).getD (program.width + row) 0 =
      slacks.getD row 0 := by
    rw [← fits, getD_append_add]
  have artificial : (if constraint.needsArtificial then
      (point ++ slacks).getD (program.width + program.constraints.length +
        artificialsBefore program.constraints row) 0 else 0) = 0 := by
    rw [List.getD_eq_default _ _ (by rw [List.length_append]; omega), ite_self]
  rw [initial.residual_eq place, products, slack, artificial, sub_zero,
    mul_eq_zero, or_iff_left constraint.sign_ne_zero, sub_sub, sub_eq_zero,
    eq_comm]

theorem completes_iff (initial : tableau.IsInitial program)
    (fits : point.length = program.width)
    (all : slacks.length = program.constraints.length) :
    tableau.Completes point slacks ↔
      ∀ (row : Nat) (constraint : Constraint) (slack : Rat),
        program.constraints[row]? = some constraint →
        slacks[row]? = some slack →
          dot constraint.expression.coefficients point + slack =
            constraint.constant := by
  constructor
  · intro completes row constraint slack place slackPlace
    have inside : row < program.constraints.length :=
      (List.getElem?_eq_some_iff.mp place).1
    have solved := completes row (by rwa [initial.constraintCount_eq])
    rw [initial.residual_append_eq_zero_iff place fits all,
      List.getD_eq_getElem?_getD, slackPlace] at solved
    exact solved
  · intro balanced row inside
    obtain ⟨constraint, place⟩ := initial.exists_constraint inside
    rw [initial.constraintCount_eq] at inside
    have slackPlace : slacks[row]? = some (slacks.getD row 0) := by
      rw [List.getElem?_eq_getElem (by omega), List.getD_eq_getElem]
    rw [initial.residual_append_eq_zero_iff place fits all]
    exact balanced row constraint _ place slackPlace

theorem slacks_unique (initial : tableau.IsInitial program)
    {others : List Rat} (fits : point.length = program.width)
    (all : slacks.length = program.constraints.length)
    (allOthers : others.length = program.constraints.length)
    (completes : tableau.Completes point slacks)
    (completesToo : tableau.Completes point others) : slacks = others := by
  rw [initial.completes_iff fits all] at completes
  rw [initial.completes_iff fits allOthers] at completesToo
  apply List.ext_getElem (all.trans allOthers.symm)
  intro row inside otherInside
  have place := List.getElem?_eq_getElem
    (l := program.constraints) (i := row) (by omega)
  have first := completes _ _ _ place (List.getElem?_eq_getElem inside)
  have second := completesToo _ _ _ place
    (List.getElem?_eq_getElem otherInside)
  exact add_left_cancel (first.trans second.symm)

/-- A nonnegative point lies in the polytope exactly when there are nonnegative
slacks for it. -/
theorem contains_iff_exists_slacks (initial : tableau.IsInitial program)
    (canonical : program.IsCanonical) (fits : point.length = program.width)
    (nonnegative : ∀ number ∈ point, 0 ≤ number) :
    program.polytope.contains point = .ok true ↔
      ∃ slacks, slacks.length = program.constraints.length ∧
        (∀ slack ∈ slacks, 0 ≤ slack) ∧ tableau.Completes point slacks := by
  have upper : ∀ constraint ∈ program.constraints,
      constraint.SatisfiedBy point ↔
        dot constraint.expression.coefficients point ≤
          constraint.constant := by
    intro constraint member
    unfold Constraint.SatisfiedBy
    rw [canonical.2.2 constraint member]
    rfl
  rw [LinearProgram.contains_iff]
  constructor
  · rintro ⟨_, inside⟩
    refine ⟨program.constraints.map fun constraint => constraint.constant -
      dot constraint.expression.coefficients point, List.length_map _, ?_, ?_⟩
    · intro slack member
      obtain ⟨constraint, listed, rfl⟩ := List.mem_map.mp member
      exact sub_nonneg.mpr
        ((upper constraint listed).mp (inside.1 constraint listed))
    · rw [initial.completes_iff fits (List.length_map _)]
      intro row constraint slack place slackPlace
      rw [List.getElem?_map, place] at slackPlace
      rw [← Option.some.inj slackPlace]
      exact add_sub_cancel _ _
  · rintro ⟨slacks, all, slacksNonneg, completes⟩
    rw [initial.completes_iff fits all] at completes
    refine ⟨fits.ge, ?_, ?_⟩
    · intro constraint member
      obtain ⟨row, place⟩ := List.getElem?_of_mem member
      have inside : row < slacks.length := by
        rw [all]
        exact (List.getElem?_eq_some_iff.mp place).1
      have balance :=
        completes row _ _ place (List.getElem?_eq_getElem inside)
      have slack := slacksNonneg _ (List.getElem_mem inside)
      rw [upper constraint member]
      linarith
    · intro index member
      have inside : index < point.length := by
        have bounded := program.polytope.nonnegative_lt index member
        rw [← program.objective_width] at bounded
        rw [fits]
        exact bounded
      rw [List.getD_eq_getElem _ _ inside]
      exact nonnegative _ (List.getElem_mem inside)

/-- An initial tableau says what its program says. -/
theorem encodes (initial : tableau.IsInitial program)
    (canonical : program.IsCanonical) : tableau.Encodes program where
  height_eq := by
    rw [initial.height_eq, initial.constraintCount_eq]
  width_eq := by
    rw [initial.width_eq, initial.columnCount_eq, program.artificialCount_eq]
  artificial_eq := by
    rw [initial.artificial_eq, program.artificialCount_eq]
  completes_iff := fun _ _ fits all => initial.completes_iff fits all
  contains_iff := fun _ fits nonnegative =>
    initial.contains_iff_exists_slacks canonical fits nonnegative
  slacks_unique := fun _ _ _ fits all allOthers =>
    initial.slacks_unique fits all allOthers
  rhs_nonneg := by
    intro row inside
    rw [← initial.constraintCount_eq] at inside
    exact ⟨_, initial.rhs_eq_ok inside, initial.feasible row inside⟩
  distinct := initial.unitBasis.nodup_basis
  unitBasis := initial.unitBasis
  basis_eq := by
    intro row constraint place
    rw [initial.basis_eq place, initialBasic]
    unfold Constraint.needsArtificial artificialsBefore
    by_cases negative : constraint.constant < 0
    · rw [if_pos (decide_eq_true negative), if_neg (not_le.mpr negative)]
      rfl
    · rw [if_neg (by simpa using negative), if_pos (not_lt.mp negative)]

/-! ## The value at the beginning of the first phase -/

/-- The artificial variable of a row has the size of its constant. -/
theorem basicSolution_artificial (initial : tableau.IsInitial program)
    (place : program.constraints[row]? = some constraint)
    (needs : constraint.needsArtificial = true) :
    tableau.basicSolution (program.width + program.constraints.length +
      artificialsBefore program.constraints row) = |constraint.constant| := by
  have negative : constraint.constant < 0 := by
    simpa [Constraint.needsArtificial] using needs
  have basic := initial.basis_eq place
  rw [initialBasic, if_pos needs] at basic
  unfold basicSolution
  rw [initial.unitBasis.basicValue_of_basic basic, initial.level_eq place,
    Constraint.sign, if_pos needs, abs_of_neg negative, mul_neg_one]

/-- The rows with artificial variables are counted by these variables. -/
theorem sum_artificialSolution (initial : tableau.IsInitial program)
    {count : Nat} (inside : count ≤ program.constraints.length) :
    ∑ index ∈ Finset.range (artificialsBefore program.constraints count),
      tableau.basicSolution
        (program.width + program.constraints.length + index) =
      (((program.constraints.take count).filter
        (·.needsArtificial)).map fun constraint =>
          |constraint.constant|).sum := by
  induction count with
  | zero => simp [artificialsBefore]
  | succ count induction =>
      have earlier := induction (Nat.le_of_succ_le inside)
      have place : program.constraints[count]? =
          some program.constraints[count] :=
        List.getElem?_eq_getElem inside
      have counted : artificialsBefore program.constraints (count + 1) =
          artificialsBefore program.constraints count +
            if program.constraints[count].needsArtificial then 1 else 0 := by
        unfold artificialsBefore
        rw [List.take_add_one, place, List.countP_append]
        simp
      rw [counted, List.take_add_one, place, List.filter_append,
        List.map_append, List.sum_append, ← earlier]
      cases needs : program.constraints[count].needsArtificial with
      | true =>
          have own := initial.basicSolution_artificial place needs
          simp [Finset.sum_range_succ, own, needs]
      | false => simp [needs]

theorem objectiveAt_basicSolution (initial : tableau.IsInitial program) :
    tableau.objectiveAt tableau.basicSolution = -program.shortage := by
  have sum := initial.sum_artificialSolution
    (Nat.le_refl program.constraints.length)
  rw [List.take_length] at sum
  rw [initial.objectiveAt_eq]
  exact congrArg Neg.neg sum

/-- Pricing leaves the basic solution as it is, and its objective becomes the
value of the tableau. -/
theorem value_of_repriced (initial : tableau.IsInitial program)
    (form : prepared.BasicForm) (repriced : prepared.Repriced tableau) :
    prepared.value = .ok (-program.shortage) := by
  have solution : prepared.basicSolution = tableau.basicSolution := by
    funext column
    unfold basicSolution basicValue rowOf?
    rw [repriced.basis_eq]
    cases found : tableau.basis.findIdx? (· == (column : Int)) with
    | none => rfl
    | some row =>
        exact repriced.level_eq (initial.row_lt (rowOf?_eq_some found))
  have value : prepared.level prepared.constraintCount =
      -program.shortage := by
    rw [← form.objectiveAt_basicSolution, solution,
      repriced.objectiveAt_eq _ initial.unitBasis.solves_basicSolution,
      initial.objectiveAt_basicSolution]
  rw [form.value_eq_ok, value]

end IsInitial

/-- The initial tableau of a canonical program exists and encodes it.  When the
first phase begins, every basic variable has the reduced cost zero, and the
value is minus the sum of the absolute values of the negative constants. -/
theorem ofCanonical_encodes {program : LinearProgram}
    (canonical : program.IsCanonical) :
    ∃ initial, ofCanonical program = .ok initial ∧
      initial.Encodes program ∧
        ∃ prepared log, initial.startPhaseOne = .ok (prepared, log) ∧
          prepared.basis = initial.basis ∧
          (∀ index ∈ prepared.basis, prepared.reducedCost index = .ok 0) ∧
            prepared.value = .ok (-program.shortage) := by
  obtain ⟨initial, built, isInitial⟩ := ofCanonical_eq_ok canonical
  obtain ⟨prepared, log, started, form, repriced, _⟩ :=
    startPhaseOne_eq_ok isInitial.unitBasis isInitial.distinct isInitial.counts
  refine ⟨initial, built, isInitial.encodes canonical, prepared, log, started,
    repriced.basis_eq, ?_, isInitial.value_of_repriced form repriced⟩
  intro index member
  obtain ⟨row, basic⟩ := List.getElem?_of_mem member
  obtain ⟨column, inside, columnBasic, _⟩ :=
    form.unit row (form.row_lt basic)
  obtain rfl : (column : Int) = index := by
    rw [columnBasic] at basic
    exact Option.some.inj basic
  rw [form.reducedCost_eq_ok inside, form.cost columnBasic]

/-- On the line one of three constants is negative, so that one artificial
variable is basic.  A point with the sum two has slacks. -/
theorem ofCanonical_encodes_onLine :
    ∃ initial, ofCanonical (onLine 2 (-1)).canonicalForm.1 = .ok initial ∧
      initial.basis = [3, 6, 5] ∧
      (∃ slacks, (∀ slack ∈ slacks, 0 ≤ slack) ∧
        initial.Completes [2, 0, 0] slacks) ∧
      ∃ prepared log, initial.startPhaseOne = .ok (prepared, log) ∧
        prepared.reducedCost 6 = .ok 0 ∧ prepared.value = .ok (-2) := by
  obtain ⟨initial, built, encodes, prepared, log, started, same, priced,
    value⟩ := ofCanonical_encodes (onLine 2 (-1)).isCanonical_canonicalForm
  have computed : (ofCanonical (onLine 2 (-1)).canonicalForm.1).toOption.map
      Tableau.basis = some [3, 6, 5] := by
    decide +kernel
  have basis : initial.basis = [3, 6, 5] := by
    rw [built] at computed
    exact Option.some.inj computed
  have contained : (onLine 2 (-1)).canonicalForm.1.polytope.contains
      [2, 0, 0] = .ok true := by
    apply toOption_eq_some_iff.mp
    decide +kernel
  have short : (onLine 2 (-1)).canonicalForm.1.shortage = 2 := by
    decide +kernel
  obtain ⟨slacks, _, nonnegative, completes⟩ :=
    (encodes.contains_iff _ (by decide +kernel) (by decide +kernel)).mp
      contained
  rw [short] at value
  refine ⟨initial, built, basis, ⟨slacks, nonnegative, completes⟩, prepared,
    log, started, priced 6 ?_, value⟩
  rw [same, basis]
  decide

end Tableau

end RationalSimplex
