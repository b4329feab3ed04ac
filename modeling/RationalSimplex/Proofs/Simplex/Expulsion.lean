import RationalSimplex.Proofs.Simplex.Pricing
import RationalSimplex.Proofs.Tableau.Erasure

/-!
# Artificial variables leave the basis

After a successful first phase the basic artificial variables have the value
zero.  Each is replaced by a pivot in its row, which changes no right-hand
side, or its row says nothing about the other variables and is dropped.  The
solutions without artificial variables stay the same.
-/

namespace RationalSimplex.Tableau

/-- The artificial variables are zero. -/
def FreeOfArtificial (tableau : Tableau) (values : Nat → Rat) : Prop :=
  ∀ column < tableau.columnCount,
    (column : Int) ∈ tableau.artificial → values column = 0

/-- The state before the rows below a bound are searched for artificial
variables, with the tableau and the log at the start. -/
structure Expelling (source : Tableau) (log : PhaseLog) (bound : Nat)
    (work : Tableau × PhaseLog) : Prop where
  form : work.1.UnitBasis
  feasible : work.1.Feasible
  columnCount_eq : work.1.columnCount = source.columnCount
  start_eq : work.1.start = source.start
  artificial_eq : work.1.artificial = source.artificial
  objective_eq : work.1.objective = source.objective
  solves_iff : ∀ values, source.FreeOfArtificial values →
    (work.1.Solves values ↔ source.Solves values)
  level_zero : ∀ {row : Nat} {index : Int}, work.1.basis[row]? = some index →
    index ∈ source.artificial → work.1.level row = 0
  expelled : ∀ {row : Nat} {index : Int}, bound ≤ row →
    work.1.basis[row]? = some index → index ∉ source.artificial
  bound_le : bound ≤ work.1.constraintCount
  sameRun : work.2.SameRun log

/-- A column that may take the place of an artificial variable in a row. -/
def replaces (tableau : Tableau) (artificial : List Int) (row column : Nat) :
    Bool :=
  decide ((column : Int) ∉ artificial ∧ tableau.entry row column ≠ 0)

theorem Shaped.canReplace_eq_ok {tableau : Tableau} (shaped : tableau.Shaped)
    {row column : Nat} (rowInside : row < tableau.constraintCount)
    (columnInside : column < tableau.columnCount) (artificial : List Int) :
    tableau.canReplace artificial row column =
      .ok (tableau.replaces artificial row column) := by
  unfold canReplace replaces
  by_cases listed : (column : Int) ∈ artificial
  · simp [listed]
  · rw [if_neg listed, shaped.get_eq_ok rowInside.le columnInside.le]
    simp [listed]

/-- The first column of a row that may take the place of an artificial
variable. -/
theorem Shaped.findM?_canReplace_eq_ok {tableau : Tableau}
    (shaped : tableau.Shaped) {row : Nat}
    (inside : row < tableau.constraintCount) (artificial : List Int) :
    (List.range tableau.columnCount).findM?
        (tableau.canReplace artificial row) =
      .ok ((List.range tableau.columnCount).find?
        (tableau.replaces artificial row)) := by
  apply findM?_eq_ok
  intro column member
  exact shaped.canReplace_eq_ok inside (List.mem_range.mp member) artificial

/-- What becomes of a row: it is left as it is, another variable takes the place
of the artificial one, or it is dropped. -/
inductive Expels (artificial : List Int) (work : Tableau × PhaseLog)
    (row : Nat) : Tableau × PhaseLog → Prop where
  | keep {basic : Int} :
      work.1.basis[row]? = some basic → basic ∉ artificial →
      Expels artificial work row work
  | replace {column : Nat} :
      work.1.level row = 0 → column < work.1.columnCount →
      (column : Int) ∉ artificial → work.1.entry row column ≠ 0 →
      Expels artificial work row (work.1.pivoted row column,
        { work.2 with expulsions := work.2.expulsions ++ [(row, column)] })
  | drop {basic : Int} :
      work.1.basis[row]? = some basic → basic ∈ artificial →
      work.1.level row = 0 →
      (∀ column < work.1.columnCount,
        (column : Int) ∉ artificial → work.1.entry row column = 0) →
      Expels artificial work row (work.1.erasedRow row,
        { work.2 with droppedRows := work.2.droppedRows ++ [row] })

namespace Expelling

variable {source : Tableau} {log : PhaseLog} {row : Nat}
  {work : Tableau × PhaseLog}

/-- A row whose basic variable is not artificial is left as it is. -/
theorem keep (expelling : Expelling source log (row + 1) work) {basic : Int}
    (basicRow : work.1.basis[row]? = some basic)
    (genuine : basic ∉ source.artificial) :
    Expelling source log row work :=
  { expelling with
    expelled := by
      intro other index bound otherBasic
      rcases Nat.eq_or_lt_of_le bound with rfl | later
      · rw [basicRow] at otherBasic
        rwa [← Option.some.inj otherBasic]
      · exact expelling.expelled later otherBasic
    bound_le := Nat.le_of_succ_le expelling.bound_le }

/-- A pivot brings another variable into the row. -/
theorem replace (expelling : Expelling source log (row + 1) work)
    (zero : work.1.level row = 0) {column : Nat}
    (inside : column < work.1.columnCount)
    (genuine : (column : Int) ∉ source.artificial)
    (nonzero : work.1.entry row column ≠ 0) :
    Expelling source log row (work.1.pivoted row column,
      { work.2 with expulsions := work.2.expulsions ++ [(row, column)] }) := by
  have rowInside : row < work.1.constraintCount := expelling.bound_le
  exact {
    form := expelling.form.pivoted rowInside inside nonzero
    feasible := by
      intro other otherInside
      rw [level_pivoted_of_zero zero]
      exact expelling.feasible other (by simpa using otherInside)
    columnCount_eq := columnCount_pivoted.trans expelling.columnCount_eq
    start_eq := expelling.start_eq
    artificial_eq := expelling.artificial_eq
    objective_eq := expelling.objective_eq
    solves_iff := fun values free =>
      (expelling.form.solves_pivoted_iff rowInside nonzero values).trans
        (expelling.solves_iff values free)
    level_zero := by
      intro other index basic listed
      rw [level_pivoted_of_zero zero]
      rw [expelling.form.basis_pivoted rowInside] at basic
      split at basic
      · next same =>
          rw [same]
          exact zero
      · exact expelling.level_zero basic listed
    expelled := by
      intro other index bound basic
      rw [expelling.form.basis_pivoted rowInside] at basic
      split at basic
      · rw [← Option.some.inj basic]
        exact genuine
      · next different => exact expelling.expelled (by omega) basic
    bound_le := by simpa using rowInside.le
    sameRun := work.2.sameRun_noted.trans expelling.sameRun }

/-- A row without another entry says nothing about the solutions without
artificial variables. -/
theorem drop (expelling : Expelling source log (row + 1) work)
    (zero : work.1.level row = 0)
    (empty : ∀ column < work.1.columnCount,
      (column : Int) ∉ source.artificial → work.1.entry row column = 0) :
    Expelling source log row (work.1.erasedRow row,
      { work.2 with droppedRows := work.2.droppedRows ++ [row] }) := by
  have inside : row < work.1.constraintCount := expelling.bound_le
  exact {
    form := expelling.form.erasedRow inside
    feasible := expelling.feasible.erasedRow expelling.form.toShaped inside
    columnCount_eq := expelling.columnCount_eq
    start_eq := expelling.start_eq
    artificial_eq := expelling.artificial_eq
    objective_eq := expelling.objective_eq
    solves_iff := by
      intro values free
      have satisfied : work.1.matrix.residual values row = 0 := by
        rw [residual_eq, zero, zero_sub, neg_eq_zero]
        apply Finset.sum_eq_zero
        intro column member
        have columnInside := Finset.mem_range.mp member
        by_cases listed : (column : Int) ∈ source.artificial
        · rw [expelling.columnCount_eq] at columnInside
          rw [free column columnInside listed, mul_zero]
        · rw [empty column columnInside listed, zero_mul]
      exact (expelling.form.solves_erasedRow_iff inside satisfied).trans
        (expelling.solves_iff values free)
    level_zero := by
      intro other index basic listed
      rw [basis_erasedRow] at basic
      rw [level_erasedRow]
      exact expelling.level_zero basic listed
    expelled := by
      intro other index bound basic
      rw [basis_erasedRow] at basic
      have later : row + 1 ≤ skip row other := by
        unfold skip
        rw [if_neg (by omega)]
        omega
      exact expelling.expelled later basic
    bound_le := by
      rw [expelling.form.constraintCount_erasedRow inside]
      omega
    sameRun := work.2.sameRun_noted.trans expelling.sameRun }

theorem exists_expels (expelling : Expelling source log (row + 1) work) :
    ∃ next, expelFrom source.artificial work row = .ok next ∧
      Expels source.artificial work row next := by
  have inside : row < work.1.constraintCount := expelling.bound_le
  obtain ⟨basic, basicRow⟩ : ∃ basic, work.1.basis[row]? = some basic := by
    refine ⟨_, List.getElem?_eq_getElem ?_⟩
    rw [expelling.form.basis_length]
    exact inside
  unfold expelFrom
  simp only [basicRow]
  by_cases listed : basic ∈ source.artificial
  · have zero := expelling.level_zero basicRow listed
    have searched :=
      expelling.form.findM?_canReplace_eq_ok inside source.artificial
    rw [if_neg (not_not.mpr listed)]
    simp only [expelling.form.rhs_eq_ok inside, zero, searched, ne_eq,
      not_true_eq_false, if_false, bind, Except.bind, pure, Except.pure]
    cases found : (List.range work.1.columnCount).find?
        (work.1.replaces source.artificial row) with
    | none =>
        refine ⟨_, ?_, .drop basicRow listed zero ?_⟩
        · simp [expelling.form.toShaped, inside]
        · intro column columnInside genuine
          have rejected := List.find?_eq_none.mp found column
            (List.mem_range.mpr columnInside)
          by_contra nonzero
          exact rejected (decide_eq_true ⟨genuine, nonzero⟩)
    | some column =>
        have test : work.1.replaces source.artificial row column = true :=
          List.find?_some found
        have accepted := of_decide_eq_true test
        have columnInside :=
          List.mem_range.mp (List.mem_of_find?_eq_some found)
        refine ⟨_, ?_, .replace zero columnInside accepted.1 accepted.2⟩
        simp [expelling.form.toShaped, inside, columnInside, accepted.2]
  · exact ⟨work, if_pos listed, .keep basicRow listed⟩

theorem of_expels (expelling : Expelling source log (row + 1) work)
    {next : Tableau × PhaseLog}
    (expels : Expels source.artificial work row next) :
    Expelling source log row next := by
  cases expels with
  | keep basicRow genuine => exact expelling.keep basicRow genuine
  | replace zero inside genuine nonzero =>
      exact expelling.replace zero inside genuine nonzero
  | drop _ _ zero empty => exact expelling.drop zero empty

/-- One row after another is freed of artificial variables. -/
theorem step (expelling : Expelling source log (row + 1) work) :
    ∃ next, expelFrom source.artificial work row = .ok next ∧
      Expelling source log row next := by
  obtain ⟨next, expelled, expels⟩ := expelling.exists_expels
  exact ⟨next, expelled, expelling.of_expels expels⟩

end Expelling

/-- The end of a first phase that made the artificial variables zero.  They are
columns behind the variables of the objective, and the basic ones have the
right-hand side zero. -/
structure ReadyForPhaseTwo (tableau : Tableau) : Prop where
  form : tableau.UnitBasis
  feasible : tableau.Feasible
  distinct : tableau.artificial.Nodup
  objective_fits : tableau.objective.expression.width ≤ tableau.columnCount
  inside : ∀ index ∈ tableau.artificial,
    (tableau.objective.expression.width : Int) ≤ index ∧
      index < tableau.columnCount
  level_zero : ∀ {row : Nat} {index : Int}, tableau.basis[row]? = some index →
    index ∈ tableau.artificial → tableau.level row = 0

theorem ReadyForPhaseTwo.expelling {tableau : Tableau}
    (ready : tableau.ReadyForPhaseTwo) (log : PhaseLog) :
    Expelling tableau log tableau.constraintCount (tableau, log) where
  form := ready.form
  feasible := ready.feasible
  columnCount_eq := rfl
  start_eq := rfl
  artificial_eq := rfl
  objective_eq := rfl
  solves_iff := fun _ _ => Iff.rfl
  level_zero := ready.level_zero
  expelled := by
    intro row index bound basic
    have inside := ready.form.row_lt basic
    omega
  bound_le := Nat.le_refl _
  sameRun := .refl log

/-- Artificial variables can always be taken out of the basis. -/
theorem ReadyForPhaseTwo.expelArtificials_eq_ok {tableau : Tableau}
    (ready : tableau.ReadyForPhaseTwo) (log : PhaseLog) :
    ∃ driven after, tableau.expelArtificials log = .ok (driven, after) ∧
      Expelling tableau log 0 (driven, after) := by
  obtain ⟨⟨driven, after⟩, folded, expelling⟩ :=
    foldlM_descending_invariant Expelling.step (ready.expelling log)
  exact ⟨driven, after, folded, expelling⟩

end RationalSimplex.Tableau
