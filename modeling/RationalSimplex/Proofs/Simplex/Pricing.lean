import RationalSimplex.Proofs.Simplex.Phase
import RationalSimplex.Proofs.Tableau.ObjectiveRow

/-!
# Pricing

Both phases begin by subtracting constraint rows from the objective row until
every basic variable has the reduced cost zero.  The artificial variables of
the first phase are priced one after the other, and in the second phase all
columns from the left to the right.
-/

namespace RationalSimplex

/-- The two logs tell of the same tableaux and pivots. -/
structure PhaseLog.SameRun (log source : PhaseLog) : Prop where
  pivots_eq : log.pivots = source.pivots
  candidates_eq : log.candidates = source.candidates
  snapshots_eq : log.snapshots = source.snapshots
  plans_eq : log.plans = source.plans

theorem PhaseLog.SameRun.refl (log : PhaseLog) : log.SameRun log :=
  ⟨rfl, rfl, rfl, rfl⟩

theorem PhaseLog.SameRun.trans {last middle first : PhaseLog}
    (later : last.SameRun middle) (earlier : middle.SameRun first) :
    last.SameRun first where
  pivots_eq := later.pivots_eq.trans earlier.pivots_eq
  candidates_eq := later.candidates_eq.trans earlier.candidates_eq
  snapshots_eq := later.snapshots_eq.trans earlier.snapshots_eq
  plans_eq := later.plans_eq.trans earlier.plans_eq

/-- What is noted beside the pivots leaves the run as it is. -/
theorem PhaseLog.sameRun_noted (log : PhaseLog)
    {subtractions : List (Nat × Rat)} {droppedColumns : List Int}
    {expulsions : List Pivot} {droppedRows : List Nat}
    {success : Option Bool} :
    ({ log with
      subtractions := subtractions
      droppedColumns := droppedColumns
      expulsions := expulsions
      droppedRows := droppedRows
      success := success } : PhaseLog).SameRun log :=
  ⟨rfl, rfl, rfl, rfl⟩

namespace Tableau

/-! ## The start of the first phase -/

/-- The state of a pricing whose source and log are given. -/
structure Pricing (source : Tableau) (log : PhaseLog)
    (work : Tableau × PhaseLog) : Prop where
  form : work.1.UnitBasis
  repriced : work.1.Repriced source
  sameRun : work.2.SameRun log

variable {source tableau : Tableau} {log : PhaseLog}
  {work : Tableau × PhaseLog}

theorem Pricing.start (form : tableau.UnitBasis) (log : PhaseLog) :
    Pricing tableau log (tableau, log) :=
  ⟨form, .refl tableau, .refl log⟩

theorem Pricing.subtract (pricing : Pricing source log work) {row : Nat}
    (inside : row < work.1.constraintCount) (factor : Rat) :
    Pricing source log
      (work.1.pricedOut row factor, work.2.noteSubtraction row factor) where
  form := (pricing.form.repriced_pricedOut inside).unitBasis pricing.form
  repriced := (pricing.form.repriced_pricedOut inside).trans pricing.repriced
  sameRun := work.2.sameRun_noted.trans pricing.sameRun

/-- Every basic variable has the reduced cost one when it is listed, and zero
when it is not. -/
def Counts (tableau : Tableau) (listed : List Int) : Prop :=
  ∀ {row column : Nat}, tableau.basis[row]? = some (column : Int) →
    tableau.entry tableau.constraintCount column =
      if (column : Int) ∈ listed then 1 else 0

/-- The state of a pricing when the listed artificial variables are still to be
priced. -/
structure PricingArtificials (source : Tableau) (pending : List Int)
    (work : Tableau × PhaseLog) : Prop
    extends Pricing source PhaseLog.empty work where
  distinct : pending.Nodup
  counts : work.1.Counts pending

theorem PricingArtificials.step {artificial : Int} {rest : List Int}
    (pricing : PricingArtificials source (artificial :: rest) work) :
    ∃ next, priceArtificial work artificial = .ok next ∧
      PricingArtificials source rest next := by
  obtain ⟨absent, distinct⟩ := List.nodup_cons.mp pricing.distinct
  unfold Tableau.priceArtificial
  cases found : work.1.rowOf? artificial with
  | none =>
      refine ⟨work, rfl, pricing.toPricing, distinct, ?_⟩
      intro row column basic
      have different : (column : Int) ≠ artificial := by
        intro same
        rw [same] at basic
        exact rowOf?_eq_none.mp found (List.mem_of_getElem? basic)
      rw [pricing.counts basic]
      simp [different]
  | some row =>
      have basicRow := rowOf?_eq_some found
      have inside := pricing.form.row_lt basicRow
      refine ⟨_, ?_, pricing.subtract inside 1, distinct, ?_⟩
      · simp only [pricing.form.priceOut_eq_ok inside one_ne_zero]
        rfl
      · intro other column basic
        have old : work.1.basis[other]? = some (column : Int) := basic
        rw [constraintCount_pricedOut,
          pricing.form.cost_pricedOut inside old, pricing.counts old]
        by_cases same : row = other
        · have equal := (pricing.form.row_eq_iff basicRow old).mp same
          rw [equal] at absent
          simp [same, equal, absent]
        · have different := mt (pricing.form.row_eq_iff basicRow old).mpr same
          simp [same, Ne.symm different]

/-- The first phase starts in basic form when the reduced costs count the
artificial variables among the basic ones. -/
theorem startPhaseOne_eq_ok (form : tableau.UnitBasis)
    (distinct : tableau.artificial.Nodup)
    (counts : tableau.Counts tableau.artificial) :
    ∃ prepared log, tableau.startPhaseOne = .ok (prepared, log) ∧
      prepared.BasicForm ∧ prepared.Repriced tableau ∧
        log.SameRun PhaseLog.empty := by
  have start : PricingArtificials tableau tableau.artificial
      (tableau, PhaseLog.empty) :=
    ⟨.start form PhaseLog.empty, distinct, counts⟩
  obtain ⟨⟨prepared, log⟩, folded, pricing⟩ :=
    foldlM_invariant PricingArtificials.step start
  refine ⟨prepared, log, folded, ⟨pricing.form, ?_⟩, pricing.repriced,
    pricing.sameRun⟩
  intro row column basic
  simpa using pricing.counts basic

/-! ## The start of the second phase -/

/-- Every basic variable that is not listed has the reduced cost zero. -/
def Cleared (tableau : Tableau) (listed : List Nat) : Prop :=
  ∀ {row column : Nat}, tableau.basis[row]? = some (column : Int) →
    column ∉ listed → tableau.entry tableau.constraintCount column = 0

/-- The state of a pricing when the listed columns are still to be priced. -/
structure PricingColumns (source : Tableau) (log : PhaseLog)
    (pending : List Nat) (work : Tableau × PhaseLog) : Prop
    extends Pricing source log work where
  inside : ∀ column ∈ pending, column < source.columnCount
  cleared : work.1.Cleared pending

theorem PricingColumns.step {column : Nat} {rest : List Nat}
    (pricing : PricingColumns source log (column :: rest) work) :
    ∃ next, priceColumn work column = .ok next ∧
      PricingColumns source log rest next := by
  have inside : column < work.1.columnCount := by
    rw [pricing.repriced.columnCount_eq]
    exact pricing.inside column List.mem_cons_self
  have restInside : ∀ other ∈ rest, other < source.columnCount :=
    fun other member => pricing.inside other (List.mem_cons_of_mem _ member)
  unfold Tableau.priceColumn
  cases found : work.1.rowOf? (column : Int) with
  | none =>
      refine ⟨work, rfl, pricing.toPricing, restInside, ?_⟩
      intro row other basic unlisted
      have different : other ≠ column := by
        rintro rfl
        exact rowOf?_eq_none.mp found (List.mem_of_getElem? basic)
      exact pricing.cleared basic (by simp [different, unlisted])
  | some row =>
      have basicRow := rowOf?_eq_some found
      have rowInside := pricing.form.row_lt basicRow
      simp only [pricing.form.reducedCost_eq_ok inside, ok_bind]
      by_cases zero : work.1.entry work.1.constraintCount column = 0
      · refine ⟨work, by rw [if_pos zero]; rfl, pricing.toPricing, restInside,
          ?_⟩
        intro other place basic unlisted
        by_cases same : place = column
        · rw [same]
          exact zero
        · exact pricing.cleared basic (by simp [same, unlisted])
      · refine ⟨_, ?_, pricing.subtract rowInside
          (work.1.entry work.1.constraintCount column), restInside, ?_⟩
        · rw [if_neg zero, pricing.form.priceOut_eq_ok rowInside zero]
          rfl
        · intro other place basic unlisted
          have old : work.1.basis[other]? = some (place : Int) := basic
          rw [constraintCount_pricedOut,
            pricing.form.cost_pricedOut rowInside old]
          have told : row = other ↔ column = place := by
            rw [pricing.form.row_eq_iff basicRow old, Nat.cast_inj]
          by_cases same : row = other
          · rw [if_pos same, told.mp same, sub_self]
          · have different : place ≠ column := Ne.symm (mt told.mpr same)
            rw [if_neg same, sub_zero]
            exact pricing.cleared old (by simp [different, unlisted])

/-- Pricing all columns leads to basic form. -/
theorem priceColumns_eq_ok (form : tableau.UnitBasis) (log : PhaseLog) :
    ∃ priced after,
      (List.range tableau.columnCount).foldlM priceColumn (tableau, log) =
        .ok (priced, after) ∧
      priced.BasicForm ∧ priced.Repriced tableau ∧ after.SameRun log := by
  have cleared : tableau.Cleared (List.range tableau.columnCount) := by
    intro row column basic unlisted
    exact absurd (List.mem_range.mpr (form.of_basic basic).1) unlisted
  have start : PricingColumns tableau log (List.range tableau.columnCount)
      (tableau, log) :=
    ⟨.start form log, fun column member => List.mem_range.mp member, cleared⟩
  obtain ⟨⟨priced, after⟩, folded, pricing⟩ :=
    foldlM_invariant PricingColumns.step start
  refine ⟨priced, after, folded, ⟨pricing.form, ?_⟩, pricing.repriced,
    pricing.sameRun⟩
  intro row column basic
  exact pricing.cleared basic List.not_mem_nil

end Tableau

end RationalSimplex
