import RationalSimplex.Proofs.Simplex.Replay

/-!
# Right-hand sides at the change of phases

The rows are visited from the last to the first.  A pivot that drives an
artificial variable out happens in a row with the right-hand side zero, and a
dropped row takes only its own right-hand side along.  The second phase thus
starts with the right-hand sides of the rows that were not dropped.
-/

namespace RationalSimplex

/-- When a place before those that were dropped is dropped as well, the places
in front and behind stay as they are. -/
theorem eraseIdx_filter_range {size place : Nat} {dropped : List Nat}
    (inside : place < size) (later : ∀ other ∈ dropped, place < other) :
    ((List.range size).filter (· ∉ dropped)).eraseIdx place =
      (List.range size).filter (· ∉ dropped ++ [place]) := by
  obtain ⟨rest, rfl⟩ := Nat.exists_eq_add_of_lt inside
  have front : ∀ other < place, other ∉ dropped := fun other before listed =>
    absurd (later other listed) (by omega)
  have own : place ∉ dropped := fun listed => absurd (later place listed)
    (Nat.lt_irrefl place)
  have split : List.range (place + rest + 1) =
      List.range place ++ place :: (List.range rest).map (place + 1 + ·) := by
    rw [show place + rest + 1 = place + 1 + rest by omega, List.range_add,
      List.range_succ, List.append_assoc, List.singleton_append]
  have kept : (List.range place).filter (· ∉ dropped) = List.range place := by
    apply List.filter_eq_self.mpr
    intro other member
    simpa using front other (List.mem_range.mp member)
  have keptToo : (List.range place).filter (· ∉ dropped ++ [place]) =
      List.range place := by
    apply List.filter_eq_self.mpr
    intro other member
    have before := List.mem_range.mp member
    simpa using ⟨front other before, before.ne⟩
  have behind : ((List.range rest).map (place + 1 + ·)).filter
      (· ∉ dropped ++ [place]) =
        ((List.range rest).map (place + 1 + ·)).filter (· ∉ dropped) := by
    apply List.filter_congr
    intro other member
    obtain ⟨index, _, rfl⟩ := List.mem_map.mp member
    have different : place + 1 + index ≠ place := by omega
    simp [different]
  rw [split, List.filter_append, List.filter_append, kept, keptToo,
    List.filter_cons_of_pos (by simpa using own),
    List.filter_cons_of_neg (by simp), behind,
    List.eraseIdx_append_of_length_le (by simp)]
  simp

namespace Tableau

variable {tableau source : Tableau} {row column : Nat}

/-- The right-hand sides of the constraint rows. -/
def levels (tableau : Tableau) : List Rat :=
  (List.range tableau.constraintCount).map tableau.level

theorem levels_pivoted_of_zero (zero : tableau.level row = 0) :
    (tableau.pivoted row column).levels = tableau.levels := by
  unfold levels
  rw [constraintCount_pivoted]
  apply List.map_congr_left
  intro index _
  exact level_pivoted_of_zero zero index

@[simp] theorem Shaped.levels_erasedRow (shaped : tableau.Shaped)
    (inside : row < tableau.constraintCount) :
    (tableau.erasedRow row).levels = tableau.levels.eraseIdx row := by
  apply List.ext_getElem
  · simp [levels, shaped, List.length_eraseIdx, inside]
  · intro index _ _
    simp only [levels, List.getElem_map, List.getElem_range,
      List.getElem_eraseIdx, level_erasedRow, skip]
    split <;> rfl

@[simp] theorem levels_erasedColumn (inside : column < tableau.columnCount) :
    (tableau.erasedColumn column).levels = tableau.levels := by
  simp [levels, inside]

theorem SameConstraints.levels_eq (same : tableau.SameConstraints source) :
    tableau.levels = source.levels := by
  unfold levels
  rw [same.constraintCount_eq]
  apply List.map_congr_left
  intro index member
  exact same.level_eq (List.mem_range.mp member)

/-! ## Rows -/

/-- The state while artificial variables are expelled, with the rows that were
dropped: their numbers are those that they had at the start. -/
structure Thinning (source : Tableau) (log : PhaseLog) (bound : Nat)
    (work : Tableau × PhaseLog) : Prop
    extends Expelling source log bound work where
  thinned : ∃ dropped, work.2.droppedRows = log.droppedRows ++ dropped ∧
    dropped.Pairwise (· > ·) ∧
    (∀ row ∈ dropped, bound ≤ row ∧ row < source.constraintCount) ∧
    work.1.levels = ((List.range source.constraintCount).filter
      (· ∉ dropped)).map source.level

/-- A visited row is left, gets another basic variable, or is dropped. -/
theorem Thinning.step {log : PhaseLog} {work : Tableau × PhaseLog}
    (thinning : Thinning source log (row + 1) work) :
    ∃ next, expelFrom source.artificial work row = .ok next ∧
      Thinning source log row next := by
  obtain ⟨next, expelled, expels⟩ := thinning.exists_expels
  have expelling := thinning.of_expels expels
  have inside : row < work.1.constraintCount := thinning.bound_le
  obtain ⟨dropped, noted, descending, bounds, levels⟩ := thinning.thinned
  have weaker : ∀ other ∈ dropped,
      row ≤ other ∧ other < source.constraintCount := fun other listed =>
    ⟨Nat.le_of_succ_le (bounds other listed).1, (bounds other listed).2⟩
  refine ⟨next, expelled, expelling, ?_⟩
  cases expels with
  | keep _ _ => exact ⟨dropped, noted, descending, weaker, levels⟩
  | replace zero _ _ _ =>
      exact ⟨dropped, noted, descending, weaker,
        (levels_pivoted_of_zero zero).trans levels⟩
  | drop _ _ _ _ =>
      have rowInside : row < source.constraintCount := by
        have count := congrArg List.length levels
        have fewer := List.length_filter_le (fun other => decide
          (other ∉ dropped)) (List.range source.constraintCount)
        simp only [Tableau.levels, List.length_map,
          List.length_range] at count fewer
        omega
      refine ⟨dropped ++ [row], ?_, ?_, ?_, ?_⟩
      · simp only [noted, List.append_assoc]
      · rw [List.pairwise_append]
        refine ⟨descending, List.pairwise_singleton _ _, ?_⟩
        intro other listed last isRow
        rw [List.mem_singleton.mp isRow]
        exact (bounds other listed).1
      · intro other listed
        rcases List.mem_append.mp listed with earlier | last
        · exact weaker other earlier
        · rw [List.mem_singleton.mp last]
          exact ⟨Nat.le_refl row, rowInside⟩
      · rw [thinning.form.levels_erasedRow inside, levels, List.eraseIdx_map,
          eraseIdx_filter_range rowInside
            fun other listed => (bounds other listed).1]

/-- The right-hand sides that are left when artificial variables have been
expelled. -/
theorem ReadyForPhaseTwo.expelArtificials_thins
    (ready : tableau.ReadyForPhaseTwo) (log : PhaseLog) :
    ∃ driven after, tableau.expelArtificials log = .ok (driven, after) ∧
      Thinning tableau log 0 (driven, after) := by
  have start : Thinning tableau log tableau.constraintCount (tableau, log) := {
    toExpelling := ready.expelling log
    thinned := by
      refine ⟨[], by simp, .nil, by simp, ?_⟩
      simp [levels] }
  obtain ⟨⟨driven, after⟩, folded, thinning⟩ :=
    foldlM_descending_invariant Thinning.step start
  exact ⟨driven, after, folded, thinning⟩

/-! ## Columns -/

theorem Dropping.levels_dropColumn {column : Int} {rest : List Int}
    {work next : Tableau × PhaseLog}
    (dropping : Dropping source (column :: rest) work)
    (dropped : dropColumn work column = .ok next) :
    next.1.levels = work.1.levels := by
  obtain ⟨behind, bounded⟩ := dropping.inside column List.mem_cons_self
  obtain ⟨index, rfl⟩ := Int.eq_ofNat_of_zero_le (by omega : 0 ≤ column)
  have inside : index < work.1.columnCount := by omega
  unfold dropColumn at dropped
  rw [dropping.form.eraseColumn_eq_ok inside] at dropped
  cases dropped
  exact levels_erasedColumn inside

/-- The state while columns are dropped, with the right-hand sides as they were
at the start. -/
structure Narrowing (source : Tableau) (pending : List Int)
    (work : Tableau × PhaseLog) : Prop
    extends Dropping source pending work where
  levels_eq : work.1.levels = source.levels

theorem Narrowing.step {column : Int} {rest : List Int}
    {work : Tableau × PhaseLog}
    (narrowing : Narrowing source (column :: rest) work) :
    ∃ next, dropColumn work column = .ok next ∧
      Narrowing source rest next := by
  obtain ⟨next, dropped, dropping⟩ := narrowing.toDropping.step
  have same := narrowing.levels_dropColumn dropped
  exact ⟨next, dropped, dropping, same.trans narrowing.levels_eq⟩

/-! ## The change of phases -/

/-- The second phase starts in basic form, without artificial variables and
without negative right-hand sides.  The right-hand sides are those of the rows
that were not dropped.  The solutions are the earlier ones with zeros for the
artificial variables, and the last row gives the objective at each. -/
theorem changePhase_sound (ready : tableau.ReadyForPhaseTwo)
    (log : PhaseLog) :
    ∃ prepared phaseOne phaseTwo dropped,
      tableau.changePhase log = .ok (prepared, phaseOne, phaseTwo) ∧
      prepared.artificial = [] ∧
      prepared.basis.Nodup ∧ prepared.BasicForm ∧ prepared.Feasible ∧
      phaseOne.droppedRows = log.droppedRows ++ dropped ∧
      dropped.Pairwise (· > ·) ∧
      (∀ row ∈ dropped, row < tableau.constraintCount) ∧
      prepared.levels = ((List.range tableau.constraintCount).filter
        (· ∉ dropped)).map tableau.level ∧
      phaseTwo.droppedColumns.Pairwise (· < ·) ∧
      (∀ column,
        column ∈ phaseTwo.droppedColumns ↔ column ∈ tableau.artificial) ∧
      (∀ values, prepared.Solves values ↔
        tableau.Solves (insertZeros phaseTwo.droppedColumns values)) ∧
      ∀ values, prepared.Solves values →
        tableau.objective.evaluate
            ((List.range prepared.columnCount).map values) =
          .ok (prepared.objectiveAt values) := by
  obtain ⟨driven, phaseOne, expelled, thinning⟩ :=
    ready.expelArtificials_thins log
  have start : Narrowing driven _ (driven, PhaseLog.empty) :=
    ⟨ready.dropping thinning.toExpelling, rfl⟩
  obtain ⟨⟨dropped, droppedLog⟩, droppedAll, narrowing⟩ :=
    foldlM_invariant Narrowing.step start
  have dropping := narrowing.toDropping
  obtain ⟨prepared, phaseTwo, started, form, repriced, _⟩ :=
    dropping.startPhaseTwo_eq_ok droppedAll
  obtain ⟨_, _, entered, priced, droppedAgain, erased, enters, subtracted,
    _⟩ := steps_of_startPhaseTwo started
  cases droppedAll.symm.trans droppedAgain
  have columns : phaseTwo.droppedColumns = droppedLog.droppedColumns :=
    (prepareAgain_eq_ok erased enters subtracted).2
  have preparation :=
    thinning.prepared_of_dropping dropping form repriced
  rw [← columns] at preparation
  have same := repriced.toSameConstraints.trans
    dropping.form.sameConstraints_entered
  obtain ⟨rows, noted, descending, bounds, levels⟩ := thinning.thinned
  refine ⟨prepared, phaseOne, phaseTwo, rows, ?_, preparation.artificial_eq,
    form.nodup_basis, form, preparation.feasible, noted, descending,
    fun row listed => (bounds row listed).2, ?_, preparation.ascending,
    preparation.mem_columns_iff, preparation.solves_iff, ?_⟩
  · unfold changePhase
    simp only [expelled, started, ok_bind]
    rfl
  · exact same.levels_eq.trans (narrowing.levels_eq.trans levels)
  · intro values solves
    have fits := preparation.objective_fits
    have price := preparation.objectiveAt_eq values solves
    rw [preparation.objective_eq] at fits price
    exact Objective.evaluate_eq_ok_iff.mpr ⟨by simpa using fits, price.symm⟩

/-- Two artificial variables are basic at the level zero: the entry for the
first variable takes the place of the one, and the row of the other says
nothing. -/
def zeroLevels : Tableau where
  matrix := {
    width := 7
    rows := [[1, 1, 1, 0, 0, 0, 4], [-1, 1, 0, 1, 1, 0, 0],
      [0, 0, 0, 0, 0, 1, 0], [0, 0, 0, -1, 0, -1, 0]]
    uniform := by decide +kernel }
  objective := ⟨⟨[1, 1]⟩, true⟩
  basis := [2, 3, 5]
  start := [0, 1]
  artificial := [3, 5]
  iteration := 1

theorem readyForPhaseTwo_zeroLevels : zeroLevels.ReadyForPhaseTwo where
  form := {
    height_eq := rfl
    width_eq := rfl
    basis_length := rfl
    unit := by
      unfold IsUnit
      decide +kernel }
  feasible := by
    unfold Feasible
    decide +kernel
  distinct := by decide
  objective_fits := by decide
  inside := by decide
  level_zero := by
    intro row index basic listed
    match row with
    | 0 =>
        obtain rfl : 2 = index := Option.some.inj basic
        exact absurd listed (by decide)
    | 1 => rfl
    | 2 => rfl
    | row + 3 => cases basic

/-- One row is dropped and one gets another basic variable by a pivot on a
negative entry, and the columns of both artificial variables are dropped. -/
theorem changePhase_sound_zeroLevels :
    ∃ prepared phaseOne phaseTwo,
      zeroLevels.changePhase PhaseLog.empty =
        .ok (prepared, phaseOne, phaseTwo) ∧
      phaseOne.expulsions = [(1, 0)] ∧ phaseOne.droppedRows = [2] ∧
      phaseTwo.droppedColumns = [3, 5] ∧ prepared.BasicForm ∧
      prepared.levels = [4, 0] ∧
      ∀ values, prepared.Solves values ↔
        zeroLevels.Solves (insertZeros [3, 5] values) := by
  obtain ⟨prepared, phaseOne, phaseTwo, dropped, changed, _, _, form, _, noted,
    _, _, levels, ascending, listed, solves, _⟩ :=
    changePhase_sound readyForPhaseTwo_zeroLevels PhaseLog.empty
  obtain ⟨driven, expelled⟩ : ∃ driven,
      zeroLevels.expelArtificials PhaseLog.empty = .ok (driven, phaseOne) := by
    obtain ⟨⟨driven, after⟩, expelled, started⟩ := bind_eq_ok_iff.mp changed
    obtain ⟨_, _, result⟩ := bind_eq_ok_iff.mp started
    cases result
    exact ⟨driven, expelled⟩
  have computed : (zeroLevels.expelArtificials PhaseLog.empty).toOption.map
      (fun work => (work.2.expulsions, work.2.droppedRows)) =
      some ([(1, 0)], [2]) := by
    decide +kernel
  rw [expelled] at computed
  have rows : (phaseOne.expulsions, phaseOne.droppedRows) = ([(1, 0)], [2]) :=
    Option.some.inj computed
  obtain ⟨expulsions, rows⟩ := Prod.mk.inj rows
  obtain rfl : dropped = [2] := noted.symm.trans rows
  have columns : phaseTwo.droppedColumns = [3, 5] :=
    ascending.eq_of_mem_iff (by decide) fun {column} => listed column
  rw [columns] at solves
  refine ⟨prepared, phaseOne, phaseTwo, changed, expulsions, rows, columns,
    form, ?_, solves⟩
  rw [levels]
  decide +kernel

end Tableau

end RationalSimplex
