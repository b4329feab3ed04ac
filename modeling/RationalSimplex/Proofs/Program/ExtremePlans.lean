import Mathlib.Algebra.BigOperators.Field
import RationalSimplex.Proofs.Geometry.Vertices
import RationalSimplex.Proofs.Program.Certificate
import RationalSimplex.Proofs.Simplex.Climb

/-!
# The plans of the second phase are extreme points

The basic solution of a tableau is its only solution in which all nonbasic
variables are zero.  When the plan of the tableau lies halfway between two
points of the polytope, these points with their slacks are solutions without
negative values, whose nonbasic variables add up to zero.  Both are the basic
solution then.
-/

namespace RationalSimplex

/-! ## Points halfway between others -/

/-- The point halfway between two points. -/
def halfwayBetween (first second : List Rat) : List Rat :=
  List.zipWith (fun left right => (left + right) / 2) first second

section Halfway

variable {first second : List Rat} (same : first.length = second.length)

include same

theorem getD_halfwayBetween (place : Nat) :
    (halfwayBetween first second).getD place 0 =
      (first.getD place 0 + second.getD place 0) / 2 := by
  unfold halfwayBetween
  rcases Nat.lt_or_ge place first.length with inside | outside
  · have secondInside : place < second.length := by omega
    simp [List.getD_eq_getElem?_getD, inside, secondInside]
  · have secondOutside : second.length ≤ place := by omega
    simp [List.getD_eq_getElem?_getD, outside, secondOutside]

@[simp] theorem dot_halfwayBetween (left : List Rat) :
    dot left (halfwayBetween first second) =
      (dot left first + dot left second) / 2 := by
  have fits := Nat.le_refl left.length
  rw [dot_eq_sum fits, dot_eq_sum fits, dot_eq_sum fits,
    ← Finset.sum_add_distrib, Finset.sum_div]
  apply Finset.sum_congr rfl
  intro place _
  rw [getD_halfwayBetween same]
  ring

/-- The slacks halfway between two points are halfway between the slacks. -/
@[simp]
theorem LinearProgram.withSlacks_halfwayBetween (program : LinearProgram)
    (column : Nat) :
    program.withSlacks (halfwayBetween first second) column =
      (program.withSlacks first column +
        program.withSlacks second column) / 2 := by
  unfold withSlacks
  split
  · exact getD_halfwayBetween same column
  · split
    · rw [dot_halfwayBetween same]
      ring
    · norm_num

end Halfway

namespace Polytope

/-- The point has a coordinate for every variable and lies in the polytope. -/
def HasPoint (polytope : Polytope) (point : List Rat) : Prop :=
  point.length = polytope.dimension ∧ polytope.contains point = .ok true

/-- The point lies in the polytope, and not halfway between two others. -/
def IsExtremePoint (polytope : Polytope) (point : List Rat) : Prop :=
  polytope.HasPoint point ∧
    ¬∃ first second, first ≠ second ∧ polytope.HasPoint first ∧
      polytope.HasPoint second ∧ point = halfwayBetween first second

/-- In the plane these are the points that are known as extreme there. -/
theorem isExtremePoint_iff_isExtreme {polytope : Polytope}
    (plane : polytope.dimension = 2) {point : Point} :
    polytope.IsExtremePoint [point.1, point.2] ↔ polytope.IsExtreme point := by
  have hasPoint : ∀ point : Point, polytope.HasPoint [point.1, point.2] ↔
      polytope.contains [point.1, point.2] = .ok true := by
    intro point
    exact and_iff_right plane.symm
  constructor
  · rintro ⟨inside, extreme⟩
    refine ⟨inside.2, ?_⟩
    rintro ⟨first, second, different, firstInside, secondInside, rfl⟩
    apply extreme
    refine ⟨[first.1, first.2], [second.1, second.2], ?_,
      (hasPoint first).mpr firstInside, (hasPoint second).mpr secondInside, rfl⟩
    intro same
    obtain ⟨abscissas, ordinates⟩ := List.cons_eq_cons.mp same
    exact different (Prod.ext abscissas (List.head_eq_of_cons_eq ordinates))
  · rintro ⟨inside, extreme⟩
    refine ⟨(hasPoint point).mpr inside, ?_⟩
    rintro ⟨first, second, different, firstInside, secondInside, halfway⟩
    obtain ⟨x, y, rfl⟩ := List.length_eq_two.mp (firstInside.1.trans plane)
    obtain ⟨z, w, rfl⟩ := List.length_eq_two.mp (secondInside.1.trans plane)
    obtain ⟨abscissas, ordinates⟩ := List.cons_eq_cons.mp halfway
    apply extreme
    refine ⟨(x, y), (z, w), ?_, firstInside.2, secondInside.2,
      Prod.ext abscissas (List.head_eq_of_cons_eq ordinates)⟩
    intro same
    cases same
    exact different rfl

end Polytope

namespace Tableau

variable {tableau initial : Tableau} {program : LinearProgram}
  {values : Nat → Rat} {column : Nat}

/-! ## The basic solution -/

/-- Where the nonbasic variables are zero, every basic variable has the
right-hand side of its row. -/
theorem UnitBasis.eq_basicSolution (form : tableau.UnitBasis)
    (solves : tableau.Solves values)
    (zero : ∀ column < tableau.columnCount,
      (column : Int) ∉ tableau.basis → values column = 0)
    (inside : column < tableau.columnCount) :
    values column = tableau.basicSolution column := by
  by_cases basic : (column : Int) ∈ tableau.basis
  · obtain ⟨row, place⟩ := List.getElem?_of_mem basic
    have rowInside := form.row_lt place
    have sum : ∑ other ∈ Finset.range tableau.columnCount,
        tableau.entry row other * values other = values column := by
      rw [Finset.sum_eq_single_of_mem column (Finset.mem_range.mpr inside)]
      · rw [(form.of_basic place).2 row rowInside, if_pos rfl, one_mul]
      · intro other member different
        by_cases otherBasic : (other : Int) ∈ tableau.basis
        · obtain ⟨otherRow, otherPlace⟩ := List.getElem?_of_mem otherBasic
          have apart : row ≠ otherRow := by
            rw [ne_eq, form.row_eq_iff place otherPlace]
            exact_mod_cast different.symm
          rw [(form.of_basic otherPlace).2 row rowInside, if_neg apart,
            zero_mul]
        · rw [zero other (Finset.mem_range.mp member) otherBasic, mul_zero]
    have equation := solves row rowInside
    rw [residual_eq, sum, sub_eq_zero] at equation
    exact equation.symm.trans (form.basicValue_of_basic place _).symm
  · rw [zero column inside basic]
    exact (basicValue_eq_zero basic _).symm

namespace IsOfPhaseTwo

/-- A solution of the second phase consists of a point and its slacks. -/
theorem withSlacks_eq (isOfPhase : tableau.IsOfPhaseTwo initial program)
    (isInitial : initial.IsInitial program) (solves : tableau.Solves values)
    (inside : column < tableau.columnCount) :
    program.withSlacks ((List.range program.width).map values) column =
      values column := by
  rcases Nat.lt_or_ge column program.width with variable_ | behind
  · rw [LinearProgram.withSlacks_variable variable_]
    simp [variable_]
  · obtain ⟨row, rfl⟩ := Nat.exists_eq_add_of_le behind
    have rowInside : row < program.constraints.length := by
      rw [isOfPhase.columnCount_eq] at inside
      omega
    have place := List.getElem?_eq_getElem rowInside
    rw [LinearProgram.withSlacks_slack place,
      isOfPhase.slack_eq isInitial place solves]

/-- Halfway between two points a nonbasic variable is zero, and so it is at both
points, since it is negative at neither. -/
theorem eq_of_halfwayBetween (isOfPhase : tableau.IsOfPhaseTwo initial program)
    (isInitial : initial.IsInitial program) (canonical : program.IsCanonical)
    {first second : List Rat} (same : first.length = second.length)
    (firstInside : program.polytope.Contains first)
    (secondInside : program.polytope.Contains second)
    (halfway : (List.range program.width).map tableau.basicSolution =
      halfwayBetween first second) {place : Nat}
    (before : place < program.width) :
    first.getD place 0 = second.getD place 0 := by
  have form := isOfPhase.form
  have middle : ∀ column < tableau.columnCount,
      (program.withSlacks first column +
        program.withSlacks second column) / 2 =
          tableau.basicSolution column := by
    intro column inside
    rw [← isOfPhase.withSlacks_eq isInitial form.solves_basicSolution inside,
      halfway, program.withSlacks_halfwayBetween same]
  have zero : ∀ column < tableau.columnCount,
      (column : Int) ∉ tableau.basis → program.withSlacks first column = 0 := by
    intro column inside nonbasic
    have sum := middle column inside
    have none : tableau.basicSolution column = 0 :=
      basicValue_eq_zero nonbasic _
    have firstSign := LinearProgram.withSlacks_nonneg canonical firstInside
      column
    have secondSign := LinearProgram.withSlacks_nonneg canonical secondInside
      column
    linarith
  have inside : place < tableau.columnCount := by
    rw [isOfPhase.columnCount_eq]
    omega
  have determined := form.eq_basicSolution
    (isOfPhase.solves_withSlacks isInitial first) zero inside
  rw [← middle place inside, LinearProgram.withSlacks_variable before,
    LinearProgram.withSlacks_variable before] at determined
  linarith

end IsOfPhaseTwo

/-- The plan of a tableau of the second phase is an extreme point. -/
theorem Maintains.isExtremePoint {prepared : Tableau} {columns : List Int}
    (maintains : tableau.Maintains prepared)
    (preparation : Prepared initial columns prepared)
    (isInitial : initial.IsInitial program) (canonical : program.IsCanonical) :
    program.polytope.IsExtremePoint tableau.basicPlan := by
  have isOfPhase := maintains.isOfPhaseTwo preparation isInitial
  have attains := maintains.attains preparation isInitial canonical
  have plan := basicPlan_eq ((preparation.expresses isInitial
    canonical).of_equivalent maintains.equivalent).start_eq
  have dimension : program.polytope.dimension = program.width :=
    program.objective_width.symm
  refine ⟨⟨by rw [plan, dimension]; simp, attains.1⟩, ?_⟩
  rintro ⟨first, second, different, firstHas, secondHas, halfway⟩
  apply different
  apply List.ext_getElem (firstHas.1.trans secondHas.1.symm)
  intro place firstInside secondInside
  rw [← List.getD_eq_getElem first 0 firstInside,
    ← List.getD_eq_getElem second 0 secondInside]
  rw [plan] at halfway
  apply isOfPhase.eq_of_halfwayBetween isInitial canonical
    (firstHas.1.trans secondHas.1.symm)
    (LinearProgram.contains_iff.mp firstHas.2).2
    (LinearProgram.contains_iff.mp secondHas.2).2 halfway
  rw [← dimension, ← firstHas.1]
  exact firstInside

end Tableau

namespace PivotRule

variable {σ : Type} {rule : PivotRule σ} {program : LinearProgram}
  {initial prepared : Tableau} {columns : List Int} {start : σ}
  {before after first last : Progress σ}

/-! ## The log of the second phase -/

/-- All plans that have been noted are extreme points of a polytope. -/
def NotesExtreme (point : Progress σ) (polytope : Polytope) : Prop :=
  ∀ plan ∈ point.log.plans, polytope.IsExtremePoint plan

/-- A round adds the plan of its tableau. -/
theorem Round.notesExtreme (round : rule.Round before after)
    (maintains : before.tableau.Maintains prepared)
    (preparation : Tableau.Prepared initial columns prepared)
    (isInitial : initial.IsInitial program) (canonical : program.IsCanonical)
    (notes : NotesExtreme before program.polytope) :
    NotesExtreme after program.polytope := by
  obtain ⟨pivot, _, _, logged⟩ :=
    round.exists_noted maintains.form.toShaped
  have plans : after.log.plans =
      before.log.plans ++ [after.tableau.basicPlan] := by
    rw [logged]
    rfl
  intro plan member
  rw [plans, List.mem_append, List.mem_singleton] at member
  rcases member with earlier | rfl
  · exact notes plan earlier
  · exact (round.maintains maintains).isExtremePoint preparation isInitial
      canonical

theorem Rounds.notesExtreme (rounds : rule.Rounds first last)
    (maintains : first.tableau.Maintains prepared)
    (preparation : Tableau.Prepared initial columns prepared)
    (isInitial : initial.IsInitial program) (canonical : program.IsCanonical)
    (notes : NotesExtreme first program.polytope) :
    NotesExtreme last program.polytope := by
  induction rounds with
  | none => exact notes
  | next round _ induction =>
      exact induction (round.maintains maintains)
        (round.notesExtreme maintains preparation isInitial canonical notes)

theorem ReachesInPhaseTwo.notesExtreme
    (reached : rule.ReachesInPhaseTwo initial start last)
    (isInitial : initial.IsInitial program)
    (canonical : program.IsCanonical) :
    NotesExtreme last program.polytope := by
  obtain ⟨ended, first, reachedOne, stopped, begins, rounds⟩ := reached
  obtain ⟨columns, fresh, preparation, same, logged⟩ := begins.exists_noted
    (reachedOne.readyForPhaseTwo stopped begins.value_eq isInitial)
  have fromInitial :=
    preparation.of_equivalent (reachedOne.maintains isInitial).equivalent
  have maintains : first.tableau.Maintains first.tableau :=
    .refl preparation.form preparation.feasible
  have plans : first.log.plans = [first.tableau.basicPlan] := by
    rw [logged]
    simp [PhaseLog.withTableau, same.plans_eq, PhaseLog.empty]
  apply rounds.notesExtreme maintains fromInitial isInitial canonical
  intro plan member
  rw [plans, List.mem_singleton] at member
  rw [member]
  exact maintains.isExtremePoint fromInitial isInitial canonical

theorem ReachesInPhaseTwo.isExtremePoint
    (reached : rule.ReachesInPhaseTwo initial start last)
    (isInitial : initial.IsInitial program)
    (canonical : program.IsCanonical) :
    program.polytope.IsExtremePoint last.tableau.basicPlan := by
  obtain ⟨prepared, columns, preparation, maintains⟩ :=
    reached.exists_prepared isInitial
  exact maintains.isExtremePoint preparation isInitial canonical

/-- In the plane the second phase goes from vertex to vertex. -/
theorem ReachesInPhaseTwo.exists_vertex
    (reached : rule.ReachesInPhaseTwo initial start last)
    (isInitial : initial.IsInitial program) (canonical : program.IsCanonical)
    (plane : program.polytope.dimension = 2) :
    ∃ vertices, program.polytope.vertices = .ok vertices ∧
      ∃ vertex ∈ vertices, last.tableau.basicPlan = [vertex.1, vertex.2] := by
  have extreme := reached.isExtremePoint isInitial canonical
  obtain ⟨x, y, plan⟩ := List.length_eq_two.mp (extreme.1.1.trans plane)
  obtain ⟨vertices, listed, _⟩ := Polytope.exists_vertices_perm plane
  refine ⟨vertices, listed, (x, y), ?_, plan⟩
  rw [Polytope.mem_vertices_iff plane listed,
    ← Polytope.isExtremePoint_iff_isExtreme plane, ← plan]
  exact extreme

/-! ## Solutions -/

theorem EndsInPhaseTwo.extreme {solution : Solution} {ended : Progress σ}
    (ends : rule.EndsInPhaseTwo initial start solution ended first last)
    (isInitial : initial.IsInitial program)
    (canonical : program.IsCanonical) :
    (∀ log, solution.phaseTwo = some log →
        ∀ plan ∈ log.plans, program.polytope.IsExtremePoint plan) ∧
      ∀ plan value, solution.outcome = .optimal plan value →
        program.polytope.IsExtremePoint plan := by
  obtain ⟨success, phaseTwo⟩ := ends.phaseTwo_eq
  obtain ⟨prepared, columns, _, maintains⟩ :=
    ends.reached.exists_prepared isInitial
  constructor
  · intro log equal
    rw [phaseTwo] at equal
    cases equal
    exact ends.reached.notesExtreme isInitial canonical
  · intro plan value optimal
    have shaped := maintains.form.toShaped
    have outcome := ends.outcome_eq
    by_cases none : last.tableau.improving = []
    · rw [shaped.finalOutcome_of_improving_eq_nil none, optimal] at outcome
      cases outcome
      exact ends.reached.isExtremePoint isInitial canonical
    · rw [shaped.finalOutcome_of_improving_ne_nil none, optimal] at outcome
      cases outcome

/-- Whatever the rule picks from the pivots on offer, all plans that are
recorded in the second phase are extreme points of the polytope, and so is an
optimal plan. -/
theorem solve_extreme (canonical : program.IsCanonical)
    (respects : rule.Respects) (start : σ) :
    ∃ initial, Tableau.ofCanonical program = .ok initial ∧
      (∀ point, rule.ReachesInPhaseTwo initial start point →
        ∀ plan ∈ point.log.plans, program.polytope.IsExtremePoint plan) ∧
      ∀ budget, rule.solve budget start initial ≠ .error .budget →
        ∃ solution final,
          rule.solve budget start initial = .ok (solution, final) ∧
          (∀ log, solution.phaseTwo = some log →
            ∀ plan ∈ log.plans, program.polytope.IsExtremePoint plan) ∧
          ∀ plan value, solution.outcome = .optimal plan value →
            program.polytope.IsExtremePoint plan := by
  obtain ⟨initial, built, isInitial⟩ := Tableau.ofCanonical_eq_ok canonical
  refine ⟨initial, built, ?_, ?_⟩
  · intro point reached
    exact reached.notesExtreme isInitial canonical
  · intro budget ended
    obtain ⟨⟨solution, final⟩, run, _⟩ :=
      (rule.yields_solve budget start isInitial canonical).exists_of_respects
        respects ended
    refine ⟨solution, final, run, ?_⟩
    rcases ends_of_solve run with ⟨_, ends⟩ | ⟨_, _, _, ends⟩
    · constructor
      · intro log passed
        rw [ends.phaseTwo_eq] at passed
        cases passed
      · intro plan value optimal
        rw [ends.outcome_eq] at optimal
        cases optimal
    · exact ends.extreme isInitial canonical

/-- On the line the second phase goes from one extreme point to another. -/
theorem solve_extreme_onLine :
    ∃ initial solution final log,
      Tableau.ofCanonical (LinearProgram.onLine 2 (-1)).canonicalForm.1 =
        .ok initial ∧
      PivotRule.first.solve 4 () initial = .ok (solution, final) ∧
      solution.phaseTwo = some log ∧
      log.plans = [[2, 0, 0], [0, 2, 0]] ∧
      solution.outcome = .optimal [0, 2, 0] (-2) ∧
      ∀ plan ∈ [[2, 0, 0], [0, 2, 0]], (LinearProgram.onLine 2
        (-1)).canonicalForm.1.polytope.IsExtremePoint plan := by
  have computed : ((Tableau.ofCanonical
      (LinearProgram.onLine 2 (-1)).canonicalForm.1).toOption.bind
        fun initial => (PivotRule.first.solve 4 () initial).toOption.map
          fun result => (result.1.phaseTwo.map PhaseLog.plans,
            result.1.outcome)) =
      some (some [[2, 0, 0], [0, 2, 0]], .optimal [0, 2, 0] (-2)) := by
    decide +kernel
  obtain ⟨initial, built, _, extreme⟩ := solve_extreme
    (LinearProgram.onLine 2 (-1)).isCanonical_canonicalForm respects_first ()
  rw [built] at computed
  obtain ⟨⟨solution, final⟩, run, seen⟩ := exists_ok_of_map_toOption computed
  obtain ⟨passed, outcome⟩ := Prod.mk.inj seen
  obtain ⟨log, phaseTwo, plans⟩ := Option.map_eq_some_iff.mp passed
  obtain ⟨other, last, again, recorded, _⟩ :=
    extreme 4 (ne_error_of_eq_ok run _)
  rw [run] at again
  cases again
  have all := recorded log phaseTwo
  rw [plans] at all
  exact ⟨initial, solution, final, log, built, run, phaseTwo, plans, outcome,
    all⟩

end PivotRule

end RationalSimplex
