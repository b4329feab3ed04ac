import RationalSimplex.Proofs.Simplex.Expulsion
import RationalSimplex.Proofs.Simplex.Invariant
import RationalSimplex.Proofs.Tableau.Uniqueness

/-!
# No row is redundant

In the initial tableau of a program every row has a slack variable of its own,
which can make up for any value of the artificial variable.  Pivots keep the
solutions, so that no row ever comes to speak of artificial variables alone.
The artificial variables that are basic after the first phase are therefore
driven out by pivots, and no row is dropped.
-/

namespace RationalSimplex

/-- Every artificial variable belongs to a constraint that needs it. -/
theorem exists_artificialsBefore_eq {constraints : List Constraint}
    {number count : Nat} (less : number < artificialsBefore constraints count) :
    ∃ row constraint, constraints[row]? = some constraint ∧
      constraint.needsArtificial = true ∧
        artificialsBefore constraints row = number := by
  induction count with
  | zero => simp [artificialsBefore] at less
  | succ count induction =>
      by_cases earlier : number < artificialsBefore constraints count
      · exact induction earlier
      · have counted : artificialsBefore constraints (count + 1) =
            artificialsBefore constraints count +
              (constraints[count]?.toList.countP (·.needsArtificial)) := by
          unfold artificialsBefore
          rw [List.take_add_one, List.countP_append]
        cases place : constraints[count]? with
        | none =>
            simp only [place, Option.toList_none, List.countP_nil] at counted
            omega
        | some constraint =>
            cases needs : constraint.needsArtificial with
            | false =>
                simp [place, needs] at counted
                omega
            | true =>
                simp [place, needs] at counted
                exact ⟨count, constraint, place, needs, by omega⟩

/-- Constraints that need artificial variables are told apart by them. -/
theorem artificialsBefore_inj {constraints : List Constraint}
    {row other : Nat} {constraint otherConstraint : Constraint}
    (place : constraints[row]? = some constraint)
    (otherPlace : constraints[other]? = some otherConstraint)
    (needs : constraint.needsArtificial = true)
    (otherNeeds : otherConstraint.needsArtificial = true)
    (equal : artificialsBefore constraints other =
      artificialsBefore constraints row) : other = row := by
  rcases Nat.lt_trichotomy other row with before | same | after
  · exact absurd equal (artificialsBefore_lt otherPlace otherNeeds before).ne
  · exact same
  · exact absurd equal (artificialsBefore_lt place needs after).ne'

/-! ## Artificial variables can be told apart -/

namespace LinearProgram

/-- The solution in which all variables are zero, with the slack variable of a
row and an artificial variable larger by one. -/
def relaxed (program : LinearProgram) (row number column : Nat) : Rat :=
  program.withSlacks [] column +
    if column = program.width + row ∨
      column = program.width + program.constraints.length + number then 1
    else 0

variable {program : LinearProgram} {row number other : Nat}

theorem relaxed_variable (inside : other < program.width) :
    program.relaxed row number other = program.withSlacks [] other := by
  unfold relaxed
  rw [if_neg (by omega), add_zero]

theorem relaxed_slack (inside : other < program.constraints.length) :
    program.relaxed row number (program.width + other) =
      program.withSlacks [] (program.width + other) +
        if other = row then 1 else 0 := by
  unfold relaxed
  congr 2
  rw [eq_iff_iff]
  omega

theorem relaxed_artificial (inside : row < program.constraints.length) :
    program.relaxed row number
        (program.width + program.constraints.length + other) =
      if other = number then 1 else 0 := by
  unfold relaxed
  rw [program.withSlacks_artificial [] (Nat.le_add_right _ _), zero_add]
  congr 1
  rw [eq_iff_iff]
  omega

end LinearProgram

namespace Tableau

variable {tableau source : Tableau} {program : LinearProgram}
  {log : PhaseLog} {work next : Tableau × PhaseLog} {row : Nat}

/-- The artificial variables can be told apart: each can be one while the others
are zero. -/
def SeparatesArtificial (tableau : Tableau) : Prop :=
  ∀ column < tableau.columnCount, (column : Int) ∈ tableau.artificial →
    ∃ values, tableau.Solves values ∧ values column = 1 ∧
      ∀ other < tableau.columnCount, (other : Int) ∈ tableau.artificial →
        other ≠ column → values other = 0

theorem Equivalent.separatesArtificial (equivalent : tableau.Equivalent source)
    (separates : source.SeparatesArtificial) :
    tableau.SeparatesArtificial := by
  unfold SeparatesArtificial
  rw [equivalent.columnCount_eq, equivalent.artificial_eq]
  intro column inside artificial
  obtain ⟨values, solves, one, others⟩ := separates column inside artificial
  exact ⟨values, (equivalent.solves_iff values).mpr solves, one, others⟩

/-- The slack variable of a row makes up for its artificial variable. -/
theorem IsInitial.solves_relaxed (isInitial : tableau.IsInitial program)
    {constraint : Constraint}
    (place : program.constraints[row]? = some constraint)
    (needs : constraint.needsArtificial = true) :
    tableau.Solves (program.relaxed row
      (artificialsBefore program.constraints row)) := by
  have rowInside : row < program.constraints.length :=
    (List.getElem?_eq_some_iff.mp place).1
  intro other otherInside
  obtain ⟨otherConstraint, otherPlace⟩ :=
    isInitial.exists_constraint otherInside
  have otherBound : other < program.constraints.length :=
    (List.getElem?_eq_some_iff.mp otherPlace).1
  have base := isInitial.solves_withSlacks [] other otherInside
  have artificial : program.withSlacks [] (program.width +
      program.constraints.length +
        artificialsBefore program.constraints other) = 0 :=
    program.withSlacks_artificial [] (by omega)
  have products : ∑ column ∈ Finset.range program.width,
      otherConstraint.expression.coefficients.getD column 0 *
        program.relaxed row (artificialsBefore program.constraints row)
          column =
            ∑ column ∈ Finset.range program.width,
              otherConstraint.expression.coefficients.getD column 0 *
                program.withSlacks [] column := by
    apply Finset.sum_congr rfl
    intro column member
    rw [LinearProgram.relaxed_variable (Finset.mem_range.mp member)]
  rw [isInitial.residual_eq otherPlace, artificial] at base
  rw [isInitial.residual_eq otherPlace, products,
    LinearProgram.relaxed_slack otherBound,
    LinearProgram.relaxed_artificial rowInside]
  by_cases same : other = row
  · subst same
    obtain rfl : constraint = otherConstraint := by
      rw [place] at otherPlace
      exact Option.some.inj otherPlace
    have sign : constraint.sign = -1 := if_pos needs
    rw [sign, if_pos needs] at base ⊢
    rw [if_pos rfl, if_pos rfl]
    linarith
  -- The equation of another row has neither of the two variables.
  · have apart : (if otherConstraint.needsArtificial then
        if artificialsBefore program.constraints other =
          artificialsBefore program.constraints row then (1 : Rat) else 0
        else 0) = 0 := by
      split
      · next otherNeeds =>
          apply if_neg
          exact fun equal => same
            (artificialsBefore_inj place otherPlace needs otherNeeds equal)
      · rfl
    rw [apart, if_neg same, add_zero]
    simpa using base

/-- Where an artificial variable is one, the slack variable of its row is larger
by one. -/
theorem IsInitial.separatesArtificial (isInitial : tableau.IsInitial program) :
    tableau.SeparatesArtificial := by
  intro column inside artificial
  obtain ⟨behind, _⟩ := isInitial.mem_artificial_iff.mp artificial
  obtain ⟨number, rfl⟩ := Nat.exists_eq_add_of_le behind
  have columns := isInitial.columnCount_eq
  have counted : number < artificialsBefore program.constraints
      program.constraints.length := by
    have few : number < program.artificialCount := by omega
    exact few
  obtain ⟨row, constraint, place, needs, rfl⟩ :=
    exists_artificialsBefore_eq counted
  have rowInside : row < program.constraints.length :=
    (List.getElem?_eq_some_iff.mp place).1
  refine ⟨_, isInitial.solves_relaxed place needs, ?_, ?_⟩
  · rw [LinearProgram.relaxed_artificial rowInside, if_pos rfl]
  · intro other _ otherArtificial different
    obtain ⟨otherBehind, _⟩ :=
      isInitial.mem_artificial_iff.mp otherArtificial
    obtain ⟨otherNumber, rfl⟩ := Nat.exists_eq_add_of_le otherBehind
    rw [LinearProgram.relaxed_artificial rowInside, if_neg (by omega)]

/-! ## Only pivots -/

/-- The state while artificial variables are driven out without loss of a row:
the tableau is the one that the noted pivots lead to, and it says the same as
the tableau at the start. -/
structure Exchanging (source : Tableau) (log : PhaseLog) (bound : Nat)
    (work : Tableau × PhaseLog) : Prop
    extends Expelling source log bound work where
  solves_all : ∀ values, work.1.Solves values ↔ source.Solves values
  exchanged : ∃ pivots,
    work.2 = { log with expulsions := log.expulsions ++ pivots } ∧
      source.pivotAll pivots = .ok work.1

/-- An artificial variable that is basic in a row without other entries would be
zero in all solutions. -/
theorem Exchanging.not_drop (exchanging : Exchanging source log (row + 1) work)
    (separates : source.SeparatesArtificial) {basic : Int}
    (basicRow : work.1.basis[row]? = some basic)
    (listed : basic ∈ source.artificial)
    (zero : work.1.level row = 0)
    (empty : ∀ column < work.1.columnCount,
      (column : Int) ∉ source.artificial → work.1.entry row column = 0) :
    False := by
  have inside : row < work.1.constraintCount := exchanging.bound_le
  have counts := exchanging.columnCount_eq
  obtain ⟨own, ownInside, ownBasic, ownUnit⟩ :=
    exchanging.form.unit row inside
  obtain rfl : (own : Int) = basic := by
    rw [ownBasic] at basicRow
    exact Option.some.inj basicRow
  obtain ⟨values, solves, one, others⟩ :=
    separates own (by omega) listed
  -- The row would say that the variable is zero, and here it is one.
  have equation := (exchanging.solves_all values).mpr solves row inside
  have sum : ∑ column ∈ Finset.range work.1.columnCount,
      work.1.entry row column * values column = 1 := by
    rw [Finset.sum_eq_single_of_mem own (Finset.mem_range.mpr ownInside)]
    · rw [ownUnit row inside, if_pos rfl, one, mul_one]
    · intro column member different
      have columnInside := Finset.mem_range.mp member
      by_cases artificial : (column : Int) ∈ source.artificial
      · rw [others column (by omega) artificial different, mul_zero]
      · rw [empty column columnInside artificial, zero_mul]
  rw [residual_eq, sum, zero] at equation
  linarith

theorem Exchanging.step (separates : source.SeparatesArtificial)
    (exchanging : Exchanging source log (row + 1) work) :
    ∃ next, expelFrom source.artificial work row = .ok next ∧
      Exchanging source log row next := by
  obtain ⟨next, expelled, expels⟩ := exchanging.exists_expels
  have expelling := exchanging.of_expels expels
  have inside : row < work.1.constraintCount := exchanging.bound_le
  refine ⟨next, expelled, ?_⟩
  cases expels with
  | keep _ _ =>
      exact {
        toExpelling := expelling
        solves_all := exchanging.solves_all
        exchanged := exchanging.exchanged }
  | @replace column _ columnInside _ nonzero =>
      obtain ⟨pivots, logged, led⟩ := exchanging.exchanged
      exact {
        toExpelling := expelling
        solves_all := fun values =>
          (exchanging.form.solves_pivoted_iff inside nonzero values).trans
            (exchanging.solves_all values)
        exchanged := by
          refine ⟨pivots ++ [(row, column)], ?_, ?_⟩
          · simp only [logged, List.append_assoc]
          · have carried :=
              exchanging.form.pivot_eq_ok inside columnInside nonzero
            unfold pivotAll at led ⊢
            rw [List.foldlM_append, led]
            simp [carried] }
  | drop basicRow listed zero empty =>
      exact absurd (exchanging.not_drop separates basicRow listed zero empty)
        not_false

theorem ReadyForPhaseTwo.exchanging (ready : tableau.ReadyForPhaseTwo)
    (log : PhaseLog) :
    Exchanging tableau log tableau.constraintCount (tableau, log) where
  toExpelling := ready.expelling log
  solves_all := fun _ => Iff.rfl
  exchanged := ⟨[], by simp, rfl⟩

/-- Where artificial variables can be told apart, they are driven out by pivots
alone. -/
theorem ReadyForPhaseTwo.expelArtificials_exchanges
    (ready : tableau.ReadyForPhaseTwo)
    (separates : tableau.SeparatesArtificial) (log : PhaseLog) :
    ∃ driven pivots, tableau.expelArtificials log =
        .ok (driven, { log with expulsions := log.expulsions ++ pivots }) ∧
      tableau.pivotAll pivots = .ok driven ∧
        Expelling tableau log 0
          (driven, { log with expulsions := log.expulsions ++ pivots }) := by
  obtain ⟨⟨driven, after⟩, folded, exchanging⟩ :=
    foldlM_descending_invariant (Exchanging.step separates)
      (ready.exchanging log)
  obtain ⟨pivots, logged, led⟩ := exchanging.exchanged
  obtain rfl : after = _ := logged
  exact ⟨driven, pivots, folded, led, exchanging.toExpelling⟩

end Tableau

end RationalSimplex
