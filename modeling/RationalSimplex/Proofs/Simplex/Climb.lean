import RationalSimplex.Proofs.Simplex.Cycling
import RationalSimplex.Proofs.Simplex.Trace

/-!
# A phase climbs

An admissible pivot raises the value of the tableau, or it is degenerate.  In
the latter case the entering variable takes over the value zero of the leaving
one, so that no variable changes its value.  The values of the first phase stay
below zero, since they are minus the sum of the artificial variables.
-/

namespace RationalSimplex.Tableau

variable {tableau before after source initial first last : Tableau}
  {program : LinearProgram} {pivot : Pivot} {pivots : List Pivot}
  {row column : Nat}

/-- The value grows, or neither the value nor the plan changes. -/
def Climbs (before after : Tableau) : Prop :=
  before.corner < after.corner ∨
    before.corner = after.corner ∧ before.basicPlan = after.basicPlan

/-! ## One pivot -/

theorem basicValue_eq_zero {index : Int} (nonbasic : index ∉ tableau.basis)
    (levels : Nat → Rat) : tableau.basicValue levels index = 0 := by
  unfold basicValue
  rw [rowOf?_eq_none.mpr nonbasic]

/-- A column with a reduced cost is not basic. -/
theorem BasicForm.not_mem_basis (form : tableau.BasicForm)
    (negative : tableau.entry tableau.constraintCount column < 0) :
    (column : Int) ∉ tableau.basis := by
  intro basic
  obtain ⟨row, place⟩ := List.getElem?_of_mem basic
  exact negative.ne (form.cost place)

/-- A degenerate pivot changes the value of no variable. -/
theorem UnitBasis.basicValue_pivoted (form : tableau.UnitBasis)
    (pivotedForm : (tableau.pivoted row column).UnitBasis)
    (inside : row < tableau.constraintCount)
    (nonbasic : (column : Int) ∉ tableau.basis)
    (zero : tableau.level row = 0) (index : Int) :
    (tableau.pivoted row column).basicValue
        (tableau.pivoted row column).level index =
      tableau.basicValue tableau.level index := by
  -- The entering and the leaving variable are zero on both sides.
  by_cases basic : index ∈ (tableau.pivoted row column).basis
  · obtain ⟨other, place⟩ := List.getElem?_of_mem basic
    rw [pivotedForm.basicValue_of_basic place, level_pivoted_of_zero zero]
    rw [form.basis_pivoted inside] at place
    split at place
    · next same =>
        obtain rfl := Option.some.inj place
        rw [same, zero, basicValue_eq_zero nonbasic]
    · rw [form.basicValue_of_basic place]
  · rw [basicValue_eq_zero basic]
    by_cases before : index ∈ tableau.basis
    · obtain ⟨other, place⟩ := List.getElem?_of_mem before
      rw [form.basicValue_of_basic place]
      by_cases same : other = row
      · rw [same, zero]
      · have kept : (tableau.pivoted row column).basis[other]? =
            some index := by
          simp [form.toShaped, inside, same, place]
        exact absurd (List.mem_of_getElem? kept) basic
    · rw [basicValue_eq_zero before]

theorem Takes.climbs (takes : before.Takes pivot after)
    (form : before.BasicForm) (feasible : before.Feasible) :
    before.Climbs after := by
  rcases takes.corner_cases form feasible with
    ⟨degenerate, same⟩ | ⟨_, less⟩
  · right
    refine ⟨same.symm, ?_⟩
    obtain ⟨offered, rfl⟩ := form.toShaped.takes_iff.mp takes
    obtain ⟨rowInside, columnInside, negative, positive, _⟩ :=
      mem_candidates_iff.mp offered
    have pivotedForm := form.pivoted rowInside columnInside positive.ne'
    have zero : before.level pivot.1 = 0 := by
      unfold Degenerate at degenerate
      rw [form.rhs_eq_ok rowInside] at degenerate
      exact Except.ok.inj degenerate
    unfold basicPlan
    apply List.map_congr_left
    intro index _
    exact (form.basicValue_pivoted pivotedForm.toUnitBasis rowInside
      (form.not_mem_basis negative) zero index).symm
  · exact .inl less

/-! ## The visited tableaux -/

theorem Leads.maintains_of_mem_visited (leads : Leads first pivots last)
    (maintains : first.Maintains source)
    (member : tableau ∈ first.visited pivots) :
    tableau.Maintains source := by
  induction leads with
  | refl =>
      obtain rfl := List.mem_singleton.mp member
      exact maintains
  | pivot offered _ induction =>
      rcases List.mem_cons.mp member with rfl | later
      · exact maintains
      · exact induction (maintains.pivoted offered) later

theorem Leads.isChain_visited (leads : Leads first pivots last)
    (maintains : first.Maintains source) :
    (first.visited pivots).IsChain Climbs := by
  induction leads with
  | refl => exact List.isChain_singleton _
  | @pivot tableau last pivot pivots offered _ induction =>
      have climbs : tableau.Climbs (tableau.pivoted pivot.1 pivot.2) := by
        have takes : tableau.Takes pivot (tableau.pivoted pivot.1 pivot.2) :=
          maintains.form.toShaped.takes_iff.mpr ⟨offered, rfl⟩
        exact takes.climbs maintains.form maintains.feasible
      have rest := induction (maintains.pivoted offered)
      cases pivots with
      | nil => exact List.isChain_pair.mpr climbs
      | cons => exact List.isChain_cons_cons.mpr ⟨climbs, rest⟩

/-! ## What the value of a tableau is the value of -/

/-- In the second phase the plan is a point of the program, and the value is its
value. -/
theorem Maintains.attains {columns : List Int}
    (maintains : tableau.Maintains source)
    (preparation : Prepared initial columns source)
    (isInitial : initial.IsInitial program) (canonical : program.IsCanonical) :
    program.Attains tableau.basicPlan tableau.corner := by
  have expresses := (preparation.expresses isInitial canonical).of_equivalent
    maintains.equivalent
  have value : tableau.corner =
      tableau.objectiveAt tableau.basicSolution :=
    maintains.form.objectiveAt_basicSolution.symm
  rw [basicPlan_eq expresses.start_eq, value]
  exact expresses.sound _ maintains.form.solves_basicSolution
    (maintains.feasible.basicSolution_nonneg maintains.form.toShaped)

end RationalSimplex.Tableau
