import RationalSimplex.Proofs.Program.Invariant
import RationalSimplex.Proofs.Simplex.Replay

/-!
# All rows are kept

A tableau that is built from a program keeps its rows.  After the first phase
every row in which an artificial variable is basic gets another basic variable
by exactly one pivot, the last of these rows first, and the last tableau of the
second phase has a row for every constraint and a column for every variable and
every slack variable.
-/

namespace RationalSimplex

namespace Tableau

variable {tableau source prepared : Tableau} {log phaseOne phaseTwo : PhaseLog}
  {work : Tableau × PhaseLog} {row bound : Nat} {pivots : List Pivot}

/-- An artificial variable is basic in the row. -/
def HasArtificial (source : Tableau) (row : Nat) : Prop :=
  ∃ index ∈ source.artificial, source.basis[row]? = some index

/-- The pivots bring other variables into all rows from a bound on in which
artificial variables are basic, once into each, the last row first. -/
structure Relieves (source : Tableau) (bound : Nat) (pivots : List Pivot) :
    Prop where
  descending : (pivots.map Prod.fst).Pairwise (· > ·)
  mem_rows_iff : ∀ row, row ∈ pivots.map Prod.fst ↔
    bound ≤ row ∧ source.HasArtificial row
  genuine : ∀ pivot ∈ pivots, pivot.2 < source.columnCount ∧
    (pivot.2 : Int) ∉ source.artificial

/-- A row without a basic artificial variable needs no pivot. -/
theorem Relieves.skip (relieves : source.Relieves (row + 1) pivots)
    (genuine : ¬source.HasArtificial row) : source.Relieves row pivots where
  descending := relieves.descending
  mem_rows_iff := by
    intro other
    rw [relieves.mem_rows_iff]
    constructor
    · rintro ⟨later, relieved⟩
      exact ⟨Nat.le_of_succ_le later, relieved⟩
    · rintro ⟨later, relieved⟩
      refine ⟨Nat.lt_of_le_of_ne later ?_, relieved⟩
      rintro rfl
      exact genuine relieved
  genuine := relieves.genuine

theorem Relieves.append (relieves : source.Relieves (row + 1) pivots)
    (relieved : source.HasArtificial row) {column : Nat}
    (inside : column < source.columnCount)
    (genuine : (column : Int) ∉ source.artificial) :
    source.Relieves row (pivots ++ [(row, column)]) where
  descending := by
    rw [List.map_append, List.map_singleton, List.pairwise_append]
    refine ⟨relieves.descending, List.pairwise_singleton _ _, ?_⟩
    intro other listed last isRow
    rw [List.mem_singleton.mp isRow]
    exact ((relieves.mem_rows_iff other).mp listed).1
  mem_rows_iff := by
    intro other
    rw [List.map_append, List.map_singleton, List.mem_append,
      List.mem_singleton, relieves.mem_rows_iff]
    constructor
    · rintro (⟨later, otherRelieved⟩ | rfl)
      · exact ⟨Nat.le_of_succ_le later, otherRelieved⟩
      · exact ⟨Nat.le_refl _, relieved⟩
    · rintro ⟨later, otherRelieved⟩
      rcases Nat.eq_or_lt_of_le later with same | after
      · exact .inr same.symm
      · exact .inl ⟨after, otherRelieved⟩
  genuine := by
    intro pivot listed
    rcases List.mem_append.mp listed with earlier | last
    · exact relieves.genuine pivot earlier
    · rw [List.mem_singleton.mp last]
      exact ⟨inside, genuine⟩

/-! ## Rows get other basic variables -/

/-- The state while rows get other basic variables.  The rows that are still to
be visited have their basic variables from the start. -/
structure Relieving (source : Tableau) (log : PhaseLog) (bound : Nat)
    (work : Tableau × PhaseLog) : Prop
    extends Exchanging source log bound work where
  constraintCount_eq : work.1.constraintCount = source.constraintCount
  untouched : ∀ row < bound, work.1.basis[row]? = source.basis[row]?
  relieves : ∀ pivots, work.2.expulsions = log.expulsions ++ pivots →
    source.Relieves bound pivots

theorem expelFrom_of_not_mem {artificial : List Int} {basic : Int}
    (basicRow : work.1.basis[row]? = some basic)
    (genuine : basic ∉ artificial) :
    expelFrom artificial work row = .ok work := by
  unfold expelFrom
  simp only [basicRow]
  exact if_pos genuine

theorem Relieving.keep (relieving : Relieving source log (row + 1) work)
    (exchanging : Exchanging source log row work)
    (genuine : ¬source.HasArtificial row) : Relieving source log row work where
  toExchanging := exchanging
  constraintCount_eq := relieving.constraintCount_eq
  untouched := fun other before =>
    relieving.untouched other (Nat.lt_succ_of_lt before)
  relieves := fun pivots noted => (relieving.relieves pivots noted).skip genuine

theorem Relieving.replace (relieving : Relieving source log (row + 1) work)
    {column : Nat}
    (exchanging : Exchanging source log row (work.1.pivoted row column,
      { work.2 with expulsions := work.2.expulsions ++ [(row, column)] }))
    (relieved : source.HasArtificial row)
    (inside : column < work.1.columnCount)
    (genuine : (column : Int) ∉ source.artificial) :
    Relieving source log row (work.1.pivoted row column,
      { work.2 with
        expulsions := work.2.expulsions ++ [(row, column)] }) where
  toExchanging := exchanging
  constraintCount_eq :=
    constraintCount_pivoted.trans relieving.constraintCount_eq
  untouched := by
    intro other before
    rw [relieving.form.basis_pivoted relieving.bound_le, if_neg before.ne]
    exact relieving.untouched other (Nat.lt_succ_of_lt before)
  relieves := by
    intro pivots noted
    obtain ⟨earlier, logged, _⟩ := relieving.exchanged
    have listed : work.2.expulsions = log.expulsions ++ earlier := by
      rw [logged]
    rw [listed, List.append_assoc] at noted
    obtain rfl := List.append_cancel_left noted
    rw [relieving.columnCount_eq] at inside
    exact (relieving.relieves earlier listed).append relieved inside genuine

theorem Relieving.step (separates : source.SeparatesArtificial)
    (relieving : Relieving source log (row + 1) work) :
    ∃ next, expelFrom source.artificial work row = .ok next ∧
      Relieving source log row next := by
  obtain ⟨next, expelled, exchanging⟩ :=
    relieving.toExchanging.step separates
  obtain ⟨other, again, expels⟩ := relieving.exists_expels
  obtain rfl : next = other := Except.ok.inj (expelled.symm.trans again)
  have inside : row < work.1.constraintCount := relieving.bound_le
  obtain ⟨basic, _, basicRow, _⟩ := relieving.form.unit row inside
  have sourceRow : source.basis[row]? = some (basic : Int) := by
    rw [← relieving.untouched row (Nat.lt_succ_self row)]
    exact basicRow
  refine ⟨next, expelled, ?_⟩
  by_cases listed : (basic : Int) ∈ source.artificial
  · have relieved : source.HasArtificial row := ⟨basic, listed, sourceRow⟩
    cases expels with
    | keep keptRow genuine =>
        rw [basicRow] at keptRow
        cases keptRow
        exact absurd listed genuine
    | replace _ columnInside genuine _ =>
        exact relieving.replace exchanging relieved columnInside genuine
    | drop droppedRow droppedListed zero empty =>
        exact absurd (relieving.not_drop separates droppedRow droppedListed
          zero empty) not_false
  · rw [expelFrom_of_not_mem basicRow listed] at expelled
    cases expelled
    apply relieving.keep exchanging
    rintro ⟨index, artificial, place⟩
    rw [sourceRow] at place
    cases place
    exact listed artificial

/-- Before any row is visited no pivot is needed. -/
theorem ReadyForPhaseTwo.relieves_nil (ready : tableau.ReadyForPhaseTwo) :
    tableau.Relieves tableau.constraintCount [] where
  descending := .nil
  mem_rows_iff := by
    intro row
    constructor
    · exact fun listed => absurd listed List.not_mem_nil
    · rintro ⟨outside, index, _, place⟩
      exact absurd (ready.form.row_lt place) (Nat.not_lt.mpr outside)
  genuine := fun _ listed => absurd listed List.not_mem_nil

/-- Where artificial variables can be told apart, the rows in which they are
basic get other basic variables. -/
theorem ReadyForPhaseTwo.expelArtificials_relieves
    (ready : tableau.ReadyForPhaseTwo)
    (separates : tableau.SeparatesArtificial) (log : PhaseLog) :
    ∃ driven after, tableau.expelArtificials log = .ok (driven, after) ∧
      Relieving tableau log 0 (driven, after) := by
  have start : Relieving tableau log tableau.constraintCount
      (tableau, log) := {
    toExchanging := ready.exchanging log
    constraintCount_eq := rfl
    untouched := fun _ _ => rfl
    relieves := by
      intro pivots noted
      obtain rfl : pivots = [] := by simpa using noted
      exact ready.relieves_nil }
  obtain ⟨⟨driven, after⟩, folded, relieving⟩ :=
    foldlM_descending_invariant (Relieving.step separates) start
  exact ⟨driven, after, folded, relieving⟩

/-- The change of phases drops no row. -/
theorem ReadyForPhaseTwo.relieves_of_changePhase
    (ready : tableau.ReadyForPhaseTwo)
    (separates : tableau.SeparatesArtificial)
    (changed : tableau.changePhase log = .ok (prepared, phaseOne, phaseTwo)) :
    prepared.constraintCount = tableau.constraintCount ∧
      ∃ driven pivots,
        phaseOne = { log with expulsions := log.expulsions ++ pivots } ∧
          tableau.Relieves 0 pivots ∧ tableau.pivotAll pivots = .ok driven ∧
            ∀ index ∈ driven.basis, index ∉ tableau.artificial := by
  obtain ⟨driven, after, expelled, relieving⟩ :=
    ready.expelArtificials_relieves separates log
  have expelling : Expelling tableau log 0 (driven, after) :=
    relieving.toExpelling
  obtain ⟨dropped, droppedLog, droppedAll, dropping⟩ :=
    ready.dropArtificials_eq_ok expelling
  obtain ⟨second, secondLog, started, _, repriced, _⟩ :=
    dropping.startPhaseTwo_eq_ok droppedAll
  unfold changePhase at changed
  simp only [expelled, started, ok_bind] at changed
  cases changed
  have same := repriced.toSameConstraints.trans
    dropping.form.sameConstraints_entered
  obtain ⟨pivots, logged, carried⟩ := relieving.exchanged
  have relieves := relieving.relieves pivots (by rw [logged])
  refine ⟨(same.constraintCount_eq.trans dropping.constraintCount_eq).trans
    relieving.constraintCount_eq, driven, pivots, logged, relieves, carried, ?_⟩
  intro index basic
  obtain ⟨row, place⟩ := List.getElem?_of_mem basic
  exact expelling.expelled (Nat.zero_le row) place

end Tableau

/-- The solution of a run that passed its first phase has kept all rows.  Every
row in which an artificial variable was basic has got another basic variable by
a pivot, and the last tableau has as many rows as there are constraints, with
different variables or slack variables as basic variables. -/
structure Solution.KeepsRows (solution : Solution) (program : LinearProgram) :
    Prop where
  droppedRows_eq : solution.phaseOne.droppedRows = []
  relieved : ∃ ended driven : Tableau,
    solution.phaseOne.snapshots.getLast? = some ended.snapshot ∧
      ended.Relieves 0 solution.phaseOne.expulsions ∧
        ended.pivotAll solution.phaseOne.expulsions = .ok driven ∧
          ∀ index ∈ driven.basis, index ∉ ended.artificial
  height_eq : solution.tableau.matrix.height = program.constraints.length + 1
  width_eq : solution.tableau.matrix.width =
    program.width + program.constraints.length + 1
  basis_length : solution.tableau.basis.length = program.constraints.length
  basis_distinct : solution.tableau.basis.Nodup
  basis_inside : ∀ index ∈ solution.tableau.basis,
    0 ≤ index ∧ index < program.width + program.constraints.length

namespace PivotRule

variable {σ : Type} {rule : PivotRule σ} {program : LinearProgram}
  {initial : Tableau} {start : σ} {before after first last ended : Progress σ}
  {solution : Solution}

/-! ## The log of the first phase -/

/-- Before the change of phases the log has notes of no rows that were dropped
or relieved, and its last snapshot is that of the tableau. -/
structure IsRecorded (point : Progress σ) : Prop where
  expulsions_eq : point.log.expulsions = []
  droppedRows_eq : point.log.droppedRows = []
  snapshot : point.log.snapshots.getLast? = some point.tableau.snapshot

theorem Round.isRecorded (round : rule.Round before after)
    (shaped : before.tableau.Shaped) (recorded : IsRecorded before) :
    IsRecorded after := by
  obtain ⟨pivot, _, _, logged⟩ := round.exists_noted shaped
  exact {
    expulsions_eq := by rw [logged]; exact recorded.expulsions_eq
    droppedRows_eq := by rw [logged]; exact recorded.droppedRows_eq
    snapshot := by rw [logged]; exact List.getLast?_concat }

theorem Rounds.isRecorded (rounds : rule.Rounds first last)
    (maintains : first.tableau.Maintains initial)
    (recorded : IsRecorded first) : IsRecorded last := by
  induction rounds with
  | none => exact recorded
  | next round _ induction =>
      exact induction (round.maintains maintains)
        (round.isRecorded maintains.form.toShaped recorded)

theorem BeginsPhaseOne.isRecorded (begins : BeginsPhaseOne initial start first)
    (isInitial : initial.IsInitial program) : IsRecorded first := by
  have shaped := (begins.maintains isInitial).1.form.toShaped
  obtain ⟨work, log, _, started, noted⟩ := begins.prepared
  obtain ⟨⟨_, logged, _⟩, _⟩ := Tableau.subtracted_of_startPhaseOne started
  obtain rfl : log = _ := logged
  rw [PhaseLog.noteTableau_eq_ok shaped] at noted
  have same := Except.ok.inj noted
  exact {
    expulsions_eq := by rw [← same]; rfl
    droppedRows_eq := by rw [← same]; rfl
    snapshot := by rw [← same]; exact List.getLast?_concat }

theorem ReachesInPhaseOne.isRecorded
    (reached : rule.ReachesInPhaseOne initial start last)
    (isInitial : initial.IsInitial program) : IsRecorded last := by
  obtain ⟨first, begins, rounds⟩ := reached
  exact rounds.isRecorded (begins.maintains isInitial).1
    (begins.isRecorded isInitial)

/-! ## Solutions -/

theorem EndsInPhaseTwo.keepsRows
    (ends : rule.EndsInPhaseTwo initial start solution ended first last)
    (isInitial : initial.IsInitial program) : solution.KeepsRows program := by
  have ready := ends.reachedOne.readyForPhaseTwo ends.stoppedOne
    ends.begins.value_eq isInitial
  have equivalent := (ends.reachedOne.maintains isInitial).equivalent
  have recorded := ends.reachedOne.isRecorded isInitial
  obtain ⟨_, changed⟩ := ends.phaseOne_eq
  obtain ⟨count, driven, pivots, logged, relieves, carried, genuine⟩ :=
    ready.relieves_of_changePhase
      (equivalent.separatesArtificial isInitial.separatesArtificial) changed
  obtain ⟨_, _, _, _, _, preparation, _⟩ := ready.noted_of_changePhase
    (equivalent.separatesArtificial isInitial.separatesArtificial) changed
  have maintains := ends.rounds.maintains
    (.refl preparation.form preparation.feasible)
  have isOfPhaseTwo := maintains.isOfPhaseTwo
    (preparation.of_equivalent equivalent) isInitial
  have expulsions : solution.phaseOne.expulsions = pivots := by
    rw [logged, recorded.expulsions_eq, List.nil_append]
  have counted : last.tableau.constraintCount = program.constraints.length := by
    rw [maintains.equivalent.constraintCount_eq, count,
      equivalent.constraintCount_eq, isInitial.constraintCount_eq]
  have form := maintains.form
  rw [← expulsions] at relieves carried
  exact {
    droppedRows_eq := by rw [logged]; exact recorded.droppedRows_eq
    relieved := ⟨ended.tableau, driven, by rw [logged]; exact recorded.snapshot,
      relieves, carried, genuine⟩
    height_eq := by rw [ends.tableau_eq, form.height_eq, counted]
    width_eq := by
      rw [ends.tableau_eq, form.width_eq, isOfPhaseTwo.columnCount_eq]
    basis_length := by rw [ends.tableau_eq, form.basis_length, counted]
    basis_distinct := by rw [ends.tableau_eq]; exact isOfPhaseTwo.distinct
    basis_inside := by
      rw [ends.tableau_eq]
      intro index basic
      obtain ⟨row, place⟩ := List.getElem?_of_mem basic
      obtain ⟨column, inside, own, _⟩ := form.unit row (form.row_lt place)
      rw [own] at place
      cases place
      rw [isOfPhaseTwo.columnCount_eq] at inside
      omega }

/-- Whatever constraints a canonical program has, and whatever the rule picks
from the pivots on offer, a run that ends and passes the first phase keeps all
rows. -/
theorem solve_keepsRows (canonical : program.IsCanonical)
    (respects : rule.Respects) (budget : Nat) (start : σ) :
    ∃ initial, Tableau.ofCanonical program = .ok initial ∧
      (rule.solve budget start initial ≠ .error .budget →
        ∃ solution final,
          rule.solve budget start initial = .ok (solution, final) ∧
            ∀ log, solution.phaseTwo = some log →
              solution.KeepsRows program) := by
  obtain ⟨initial, built, isInitial⟩ := Tableau.ofCanonical_eq_ok canonical
  refine ⟨initial, built, ?_⟩
  intro ended
  obtain ⟨⟨solution, final⟩, run, _⟩ :=
    (rule.yields_solve budget start isInitial canonical).exists_of_respects
      respects ended
  refine ⟨solution, final, run, ?_⟩
  intro log passed
  rcases ends_of_solve run with ⟨_, ends⟩ | ⟨_, _, _, ends⟩
  · rw [ends.phaseTwo_eq] at passed
    cases passed
  · exact ends.keepsRows isInitial

/-- The equality of the line becomes two constraints, one of which needs an
artificial variable that is driven out in the end. -/
theorem solve_keepsRows_onLine :
    ∃ initial solution final log,
      Tableau.ofCanonical (LinearProgram.onLine 2 (-1)).canonicalForm.1 =
        .ok initial ∧
      PivotRule.first.solve 4 () initial = .ok (solution, final) ∧
      solution.phaseTwo = some log ∧
      solution.phaseOne.expulsions = [(1, 3)] ∧
      solution.KeepsRows (LinearProgram.onLine 2 (-1)).canonicalForm.1 := by
  have computed : ((Tableau.ofCanonical
      (LinearProgram.onLine 2 (-1)).canonicalForm.1).toOption.bind
        fun initial => (PivotRule.first.solve 4 () initial).toOption.map
          fun result => (result.1.phaseTwo.isSome,
            result.1.phaseOne.expulsions)) = some (true, [(1, 3)]) := by
    decide +kernel
  obtain ⟨initial, built, kept⟩ := solve_keepsRows
    (LinearProgram.onLine 2 (-1)).isCanonical_canonicalForm respects_first 4 ()
  rw [built] at computed
  obtain ⟨⟨solution, final⟩, run, seen⟩ := exists_ok_of_map_toOption computed
  obtain ⟨passed, expulsions⟩ := Prod.mk.inj seen
  obtain ⟨log, phaseTwo⟩ := Option.isSome_iff_exists.mp passed
  obtain ⟨other, last, again, keeps⟩ := kept (ne_error_of_eq_ok run _)
  rw [run] at again
  cases again
  exact ⟨initial, solution, final, log, built, run, phaseTwo, expulsions,
    keeps log phaseTwo⟩

end PivotRule

end RationalSimplex
