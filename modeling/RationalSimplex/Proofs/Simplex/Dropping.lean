import RationalSimplex.Proofs.Simplex.Pricing
import RationalSimplex.Proofs.Tableau.Erasure

/-!
# Artificial columns are dropped

The columns of the artificial variables are dropped from the right to the left,
so that the columns that are still to be dropped keep their numbers.  What
solves the tableau afterwards solves it before, with zeros put in at the
dropped columns.
-/

namespace RationalSimplex

/-! ## Zeros at several places -/

theorem insertZero_nonneg {values : Nat → Rat}
    (nonnegative : ∀ place, 0 ≤ values place) (column place : Nat) :
    0 ≤ insertZero column values place := by
  unfold insertZero
  split
  · exact nonnegative place
  · split
    · exact le_refl 0
    · exact nonnegative _

/-- An assignment that is zero at a place comes from one without the place. -/
@[simp] theorem insertZero_skip {values : Nat → Rat} {column : Nat}
    (zero : values column = 0) :
    insertZero column (fun place => values (skip column place)) = values := by
  funext place
  rcases Nat.lt_trichotomy place column with before | same | after
  · simp [insertZero, skip, before]
  · simp [insertZero, same, zero]
  · have notBefore : ¬place < column := by omega
    have different : place ≠ column := by omega
    have skipped : skip column (place - 1) = place := by
      unfold skip
      rw [if_neg (by omega)]
      omega
    simp only [insertZero, notBefore, different, if_false, skipped]

/-- The assignment with zeros put in at the listed columns, one after the
other. -/
def insertZeros (columns : List Int) (values : Nat → Rat) : Nat → Rat :=
  columns.foldl (fun values column => insertZero column.toNat values) values

theorem insertZeros_of_lt {columns : List Int} {place : Nat}
    (before : ∀ column ∈ columns, (place : Int) < column)
    (values : Nat → Rat) : insertZeros columns values place = values place := by
  induction columns generalizing values with
  | nil => rfl
  | cons column columns induction =>
      have first := before column List.mem_cons_self
      have rest := induction
        (fun other member => before other (List.mem_cons_of_mem _ member))
        (insertZero column.toNat values)
      have kept : insertZero column.toNat values place = values place := by
        unfold insertZero
        rw [if_pos (by omega)]
      exact rest.trans kept

theorem insertZeros_of_mem {columns : List Int}
    (ascending : columns.Pairwise (· < ·)) {place : Nat}
    (member : (place : Int) ∈ columns) (values : Nat → Rat) :
    insertZeros columns values place = 0 := by
  induction columns generalizing values with
  | nil => exact absurd member List.not_mem_nil
  | cons column columns induction =>
      obtain ⟨least, rest⟩ := List.pairwise_cons.mp ascending
      rcases List.mem_cons.mp member with rfl | later
      · have kept := insertZeros_of_lt least
          (insertZero (place : Int).toNat values)
        have zero : insertZero (place : Int).toNat values place = 0 := by
          simp [insertZero]
        exact kept.trans zero
      · exact induction rest later _

theorem insertZeros_nonneg {values : Nat → Rat}
    (nonnegative : ∀ place, 0 ≤ values place) (columns : List Int)
    (place : Nat) : 0 ≤ insertZeros columns values place := by
  induction columns generalizing values with
  | nil => exact nonnegative place
  | cons column columns induction =>
      exact induction (insertZero_nonneg nonnegative column.toNat)

/-- An assignment with zeros at the listed columns comes from one without these
columns. -/
theorem exists_insertZeros {columns : List Int}
    (ascending : columns.Pairwise (· < ·)) {values : Nat → Rat}
    (zero : ∀ place : Nat, (place : Int) ∈ columns → values place = 0)
    (natural : ∀ column ∈ columns, 0 ≤ column) :
    ∃ reduced, insertZeros columns reduced = values ∧
      (∀ place : Nat, (∀ column ∈ columns, (place : Int) < column) →
        reduced place = values place) ∧
      ((∀ place, 0 ≤ values place) → ∀ place, 0 ≤ reduced place) := by
  induction columns with
  | nil => exact ⟨values, rfl, fun _ _ => rfl, id⟩
  | cons column columns induction =>
      obtain ⟨least, rest⟩ := List.pairwise_cons.mp ascending
      obtain ⟨larger, restored, kept, nonnegative⟩ := induction rest
        (fun place member => zero place (List.mem_cons_of_mem _ member))
        (fun other member => natural other (List.mem_cons_of_mem _ member))
      obtain ⟨index, rfl⟩ := Int.eq_ofNat_of_zero_le
        (natural column List.mem_cons_self)
      have absent : larger index = 0 := by
        rw [kept index least]
        exact zero index List.mem_cons_self
      refine ⟨fun place => larger (skip index place), ?_, ?_, ?_⟩
      · rw [← restored]
        exact congrArg (insertZeros columns) (insertZero_skip absent)
      · intro place before
        have first := before index List.mem_cons_self
        have same : skip index place = place := by
          unfold skip
          rw [if_pos (by omega)]
        simp only [same]
        exact kept place fun other member =>
          before other (List.mem_cons_of_mem _ member)
      · intro all place
        exact nonnegative all _

namespace Tableau

/-! ## Dropping one column after the other -/

/-- The state while columns are dropped, with the tableau at the start and the
columns that are still to be dropped, from the right to the left. -/
structure Dropping (source : Tableau) (pending : List Int)
    (work : Tableau × PhaseLog) : Prop where
  form : work.1.UnitBasis
  feasible : work.1.Feasible
  constraintCount_eq : work.1.constraintCount = source.constraintCount
  start_eq : work.1.start = source.start
  objective_eq : work.1.objective = source.objective
  columnCount_eq : work.1.columnCount + work.2.droppedColumns.length =
    source.columnCount
  objective_fits : work.1.objective.expression.width ≤ work.1.columnCount
  solves_iff : ∀ values, work.1.Solves values ↔
    source.Solves (insertZeros work.2.droppedColumns values)
  mem_artificial_iff : ∀ index,
    index ∈ work.1.artificial ↔ index ∈ pending
  mem_source_iff : ∀ index, index ∈ source.artificial ↔
    index ∈ pending ∨ index ∈ work.2.droppedColumns
  ascending : (pending.reverse ++ work.2.droppedColumns).Pairwise (· < ·)
  inside : ∀ index ∈ pending,
    (work.1.objective.expression.width : Int) ≤ index ∧
      index < work.1.columnCount
  nonbasic : ∀ index ∈ pending, index ∉ work.1.basis
  sameRun : work.2.SameRun PhaseLog.empty

namespace Dropping

variable {source : Tableau} {work : Tableau × PhaseLog} {column : Int}
  {rest : List Int}

theorem lt_of_mem (dropping : Dropping source (column :: rest) work)
    {index : Int} (member : index ∈ rest) : index < column := by
  have ordered := (List.pairwise_append.mp dropping.ascending).1
  rw [List.pairwise_reverse] at ordered
  exact (List.pairwise_cons.mp ordered).1 index member

/-- The last of the columns can be dropped. -/
theorem step (dropping : Dropping source (column :: rest) work) :
    ∃ next, dropColumn work column = .ok next ∧ Dropping source rest next := by
  obtain ⟨behind, bounded⟩ := dropping.inside column List.mem_cons_self
  obtain ⟨index, rfl⟩ := Int.eq_ofNat_of_zero_le (by omega : 0 ≤ column)
  have inside : index < work.1.columnCount := by omega
  have nonbasic := dropping.nonbasic index List.mem_cons_self
  have columnCount := columnCount_erasedColumn inside
  have last : ∀ other ∈ work.1.artificial, other ≤ (index : Int) := by
    intro other listed
    rcases List.mem_cons.mp ((dropping.mem_artificial_iff other).mp listed) with
      rfl | member
    · exact le_refl _
    · exact (dropping.lt_of_mem member).le
  refine ⟨(work.1.erasedColumn index, { work.2 with
    droppedColumns := (index : Int) :: work.2.droppedColumns }), ?_, ?_⟩
  · unfold dropColumn
    rw [dropping.form.eraseColumn_eq_ok inside]
    rfl
  · exact {
      form := dropping.form.erasedColumn inside nonbasic
      feasible := dropping.feasible.erasedColumn inside
      constraintCount_eq :=
        constraintCount_erasedColumn.trans dropping.constraintCount_eq
      start_eq := dropping.start_eq
      objective_eq := dropping.objective_eq
      columnCount_eq := by
        have count := dropping.columnCount_eq
        simp only [columnCount, List.length_cons]
        omega
      objective_fits := by
        have same : (work.1.erasedColumn index).objective =
            work.1.objective := rfl
        simp only [columnCount, same]
        omega
      solves_iff := by
        intro values
        exact (solves_erasedColumn_iff inside values).trans
          (dropping.solves_iff (insertZero index values))
      mem_artificial_iff := by
        intro other
        rw [mem_artificial_erasedColumn_iff last, dropping.mem_artificial_iff,
          List.mem_cons]
        constructor
        · rintro ⟨listed, different⟩
          exact listed.resolve_left different
        · intro member
          exact ⟨Or.inr member, (dropping.lt_of_mem member).ne⟩
      mem_source_iff := by
        intro other
        rw [dropping.mem_source_iff, List.mem_cons, List.mem_cons]
        exact or_assoc.trans or_left_comm
      ascending := by
        have listed := dropping.ascending
        rw [List.reverse_cons, List.append_assoc] at listed
        exact listed
      inside := by
        intro other member
        obtain ⟨otherBehind, _⟩ :=
          dropping.inside other (List.mem_cons_of_mem _ member)
        have less : other < index := dropping.lt_of_mem member
        refine ⟨otherBehind, ?_⟩
        simp only [columnCount]
        omega
      nonbasic := by
        intro other member
        apply not_mem_basis_erasedColumn (dropping.lt_of_mem member) _ nonbasic
        exact dropping.nonbasic other (List.mem_cons_of_mem _ member)
      sameRun := work.2.sameRun_noted.trans dropping.sameRun }

/-- In the end the dropped columns are those of the artificial variables. -/
theorem mem_droppedColumns_iff (dropping : Dropping source [] work)
    {index : Int} :
    index ∈ work.2.droppedColumns ↔ index ∈ source.artificial := by
  rw [dropping.mem_source_iff]
  simp

theorem ascending_droppedColumns (dropping : Dropping source [] work) :
    work.2.droppedColumns.Pairwise (· < ·) :=
  dropping.ascending

end Dropping

/-- Distinct numbers are sorted strictly, the greatest first. -/
theorem pairwise_gt_mergeSort {indices : List Int} (distinct : indices.Nodup) :
    (indices.mergeSort fun left right =>
      decide (right ≤ left)).Pairwise (· > ·) := by
  have ordered : (indices.mergeSort fun left right =>
      decide (right ≤ left)).Pairwise fun left right =>
        decide (right ≤ left) = true := by
    apply List.pairwise_mergeSort
    · intro first second third earlier later
      simp only [decide_eq_true_eq] at earlier later ⊢
      exact later.trans earlier
    · intro first second
      simpa using Int.le_total second first
  have different : (indices.mergeSort fun left right =>
      decide (right ≤ left)).Pairwise (· ≠ ·) :=
    (List.mergeSort_perm _ _).nodup_iff.mpr distinct
  apply (ordered.and different).imp
  intro left right both
  have below : right ≤ left := of_decide_eq_true both.1
  exact lt_of_le_of_ne below both.2.symm

/-- Artificial variables that are not basic and come behind the objective are
dropped from the right to the left. -/
theorem UnitBasis.dropping {tableau : Tableau} (form : tableau.UnitBasis)
    (feasible : tableau.Feasible) (distinct : tableau.artificial.Nodup)
    (fits : tableau.objective.expression.width ≤ tableau.columnCount)
    (inside : ∀ index ∈ tableau.artificial,
      (tableau.objective.expression.width : Int) ≤ index ∧
        index < tableau.columnCount)
    (nonbasic : ∀ index ∈ tableau.artificial, index ∉ tableau.basis) :
    Dropping tableau (tableau.artificial.mergeSort
      fun left right => decide (right ≤ left)) (tableau, PhaseLog.empty) := by
  have permuted := List.mergeSort_perm tableau.artificial
    fun left right => decide (right ≤ left)
  exact {
    form := form
    feasible := feasible
    constraintCount_eq := rfl
    start_eq := rfl
    objective_eq := rfl
    columnCount_eq := rfl
    objective_fits := fits
    solves_iff := fun _ => Iff.rfl
    mem_artificial_iff := fun _ => permuted.mem_iff.symm
    mem_source_iff := by
      intro index
      simp [permuted.mem_iff, PhaseLog.empty]
    ascending := by
      have descending := pairwise_gt_mergeSort distinct
      simpa [PhaseLog.empty, List.pairwise_reverse] using descending
    inside := fun index member => inside index (permuted.mem_iff.mp member)
    nonbasic := fun index member => nonbasic index (permuted.mem_iff.mp member)
    sameRun := .refl _ }

end Tableau

end RationalSimplex
