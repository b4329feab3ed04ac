import Mathlib.Data.Finset.Powerset
import RationalSimplex.Proofs.Simplex.Invariant
import RationalSimplex.Proofs.Tableau.Uniqueness

/-!
# Degenerate pivots

Admissible pivots never lower the value of a tableau, and they raise it unless
the right-hand side of the pivot row is zero.  The value depends on the set of
the basic variables only, so that pivots which raise it never come back to a
set.  There are no more sets than ways to choose a basic variable for every row.
A run that goes on for longer has met degenerate pivots, and it has gone round
in a circle of them.
-/

namespace RationalSimplex

namespace Tableau

/-- The pivot is on offer, and carrying it out gives the other tableau. -/
def Takes (before : Tableau) (pivot : Pivot) (after : Tableau) : Prop :=
  ∃ offered, before.admissiblePivots = .ok offered ∧ pivot ∈ offered ∧
    before.pivot pivot.1 pivot.2 = .ok after

/-- Each of the first tableaux is taken to the next one by its pivot. -/
def Consecutive (tables : Nat → Tableau) (pivots : Nat → Pivot)
    (count : Nat) : Prop :=
  ∀ index < count, (tables index).Takes (pivots index) (tables (index + 1))

/-- The right-hand side of the pivot row is zero. -/
def Degenerate (tableau : Tableau) (pivot : Pivot) : Prop :=
  tableau.rhs pivot.1 = .ok 0

instance (tableau : Tableau) (pivot : Pivot) :
    Decidable (tableau.Degenerate pivot) :=
  match read : tableau.rhs pivot.1 with
  | .ok number => decidable_of_iff (number = 0) (by
      unfold Degenerate
      rw [read]
      exact Except.ok.injEq number 0 ▸ Iff.rfl)
  | .error _ => isFalse (by
      unfold Degenerate
      rw [read]
      exact nofun)

variable {tableau before after source : Tableau} {pivot : Pivot}

/-! ## One pivot -/

theorem Shaped.takes_iff (shaped : before.Shaped) :
    before.Takes pivot after ↔ pivot ∈ before.candidates ∧
      after = before.pivoted pivot.1 pivot.2 := by
  unfold Takes
  rw [shaped.admissiblePivots_eq_ok]
  constructor
  · rintro ⟨_, same, offered, carried⟩
    cases same
    rw [shaped.pivot_of_mem_candidates offered] at carried
    exact ⟨offered, (Except.ok.inj carried).symm⟩
  · rintro ⟨offered, rfl⟩
    exact ⟨_, rfl, offered, shaped.pivot_of_mem_candidates offered⟩

theorem Takes.maintains (takes : before.Takes pivot after)
    (maintains : before.Maintains source) : after.Maintains source := by
  obtain ⟨offered, rfl⟩ := maintains.form.toShaped.takes_iff.mp takes
  exact maintains.pivoted offered

/-- The number that is read as the value. -/
def corner (tableau : Tableau) : Rat :=
  tableau.level tableau.constraintCount

/-- The value grows with the right-hand side of the pivot row. -/
theorem Takes.corner_cases (takes : before.Takes pivot after)
    (form : before.BasicForm) (feasible : before.Feasible) :
    (before.Degenerate pivot ∧ after.corner = before.corner) ∨
      (¬before.Degenerate pivot ∧ before.corner < after.corner) := by
  obtain ⟨offered, rfl⟩ := form.toShaped.takes_iff.mp takes
  obtain ⟨rowInside, _, negative, positive, _⟩ :=
    mem_candidates_iff.mp offered
  have read := form.rhs_eq_ok rowInside
  have different : before.constraintCount ≠ pivot.1 := rowInside.ne'
  unfold Degenerate corner
  rw [constraintCount_pivoted, level_pivoted, if_neg different, read]
  rcases (feasible pivot.1 rowInside).eq_or_lt with zero | above
  · left
    rw [← zero]
    exact ⟨rfl, by ring⟩
  · right
    constructor
    · intro equal
      exact above.ne' (Except.ok.inj equal)
    · have raised : before.entry before.constraintCount pivot.2 *
          before.level pivot.1 / before.entry pivot.1 pivot.2 < 0 :=
        div_neg_of_neg_of_pos (mul_neg_of_neg_of_pos negative above) positive
      linarith

/-! ## The value of a basis -/

/-- Tableaux that say the same have the same value when they have the same basic
variables. -/
theorem Maintains.corner_eq {other : Tableau}
    (maintains : tableau.Maintains source)
    (otherMaintains : other.Maintains source)
    (same : ∀ index, index ∈ tableau.basis ↔ index ∈ other.basis) :
    tableau.corner = other.corner := by
  have sameBasis : SameBasis tableau other := {
    form := maintains.form
    otherForm := otherMaintains.form
    equivalent := maintains.equivalent.trans otherMaintains.equivalent.symm
    mem_iff := same }
  exact sameBasis.level_last_eq

/-- The sets of as many columns as there are rows. -/
def columnSets (tableau : Tableau) : Finset (Finset Int) :=
  ((Finset.range tableau.columnCount).image fun (column : Nat) =>
    (column : Int)).powersetCard tableau.constraintCount

theorem card_columnSets (tableau : Tableau) :
    tableau.columnSets.card =
      tableau.columnCount.choose tableau.constraintCount := by
  unfold columnSets
  rw [Finset.card_powersetCard,
    Finset.card_image_of_injective _ Nat.cast_injective, Finset.card_range]

/-- There is one basic variable for every row, and it is a column. -/
theorem UnitBasis.toFinset_basis_mem (form : tableau.UnitBasis) :
    tableau.basis.toFinset ∈ tableau.columnSets := by
  unfold columnSets
  rw [Finset.mem_powersetCard]
  constructor
  · intro index member
    obtain ⟨row, place⟩ := List.getElem?_of_mem (List.mem_toFinset.mp member)
    obtain ⟨column, inside, own, _⟩ := form.unit row (form.row_lt place)
    obtain rfl := Option.some.inj (place.symm.trans own)
    exact Finset.mem_image_of_mem _ (Finset.mem_range.mpr inside)
  · rw [List.toFinset_card_of_nodup form.nodup_basis, form.basis_length]

/-! ## Sequences of pivots -/

namespace Consecutive

variable {tables : Nat → Tableau} {pivots : Nat → Pivot}
  {count first second index : Nat}

theorem maintains (consecutive : Consecutive tables pivots count)
    (form : (tables 0).BasicForm) (feasible : (tables 0).Feasible)
    (inside : index ≤ count) : (tables index).Maintains (tables 0) := by
  induction index with
  | zero => exact .refl form feasible
  | succ index induction =>
      exact (consecutive index inside).maintains (induction (by omega))

section

variable (consecutive : Consecutive tables pivots count)
  (form : (tables 0).BasicForm) (feasible : (tables 0).Feasible)

include consecutive form feasible

theorem corner_le_corner (order : first ≤ second) (inside : second ≤ count) :
    (tables first).corner ≤ (tables second).corner := by
  induction second, order using Nat.le_induction with
  | base => exact le_refl _
  | succ second _ induction =>
      have before : second ≤ count := Nat.le_of_succ_le inside
      have maintained := consecutive.maintains form feasible before
      apply (induction before).trans
      rcases (consecutive second inside).corner_cases maintained.form
        maintained.feasible with ⟨_, same⟩ | ⟨_, less⟩
      · exact same.ge
      · exact less.le

theorem corner_lt_corner (order : first < second) (inside : second ≤ count)
    (raises : ¬(tables first).Degenerate (pivots first)) :
    (tables first).corner < (tables second).corner := by
  have before : first < count := lt_of_lt_of_le order inside
  have maintained := consecutive.maintains form feasible before.le
  rcases (consecutive first before).corner_cases maintained.form
    maintained.feasible with ⟨degenerate, _⟩ | ⟨_, less⟩
  · exact absurd degenerate raises
  · exact less.trans_le
      (consecutive.corner_le_corner form feasible order inside)

theorem corner_eq_of_basis (firstInside : first ≤ count)
    (secondInside : second ≤ count)
    (same : (tables first).basis.toFinset = (tables second).basis.toFinset) :
    (tables first).corner = (tables second).corner := by
  apply (consecutive.maintains form feasible firstInside).corner_eq
    (consecutive.maintains form feasible secondInside)
  exact List.toFinset.ext_iff.mp same

theorem toFinset_basis_mem (inside : index ≤ count) :
    (tables index).basis.toFinset ∈ (tables 0).columnSets := by
  have maintained := consecutive.maintains form feasible inside
  unfold columnSets
  rw [← maintained.equivalent.columnCount_eq,
    ← maintained.equivalent.constraintCount_eq]
  exact maintained.form.toFinset_basis_mem

/-- No set of basic variables is met again after a pivot that raises the
value. -/
theorem basis_ne (order : first < second) (inside : second ≤ count)
    (raises : ¬(tables first).Degenerate (pivots first)) :
    (tables first).basis.toFinset ≠ (tables second).basis.toFinset := by
  intro same
  have less :=
    consecutive.corner_lt_corner form feasible order inside raises
  have equal := consecutive.corner_eq_of_basis form feasible
    (order.le.trans inside) inside same
  exact less.ne equal

/-- The tableaux before the pivots that raise the value, and the last one, all
have different sets of basic variables. -/
theorem card_raising_lt :
    ((Finset.range count).filter fun index =>
      ¬(tables index).Degenerate (pivots index)).card <
        (tables 0).columnCount.choose (tables 0).constraintCount := by
  have absent : count ∉ (Finset.range count).filter fun index =>
      ¬(tables index).Degenerate (pivots index) := by
    simp
  rw [← card_columnSets, Nat.lt_iff_add_one_le,
    ← Finset.card_insert_of_notMem absent]
  have within : ∀ {index : Nat}, index ∈ insert count
      ((Finset.range count).filter fun index =>
        ¬(tables index).Degenerate (pivots index)) → index ≤ count := by
    intro index member
    rcases Finset.mem_insert.mp member with rfl | listed
    · exact le_refl _
    · exact (Finset.mem_range.mp (Finset.mem_filter.mp listed).1).le
  have different : ∀ {index other : Nat}, index ∈ insert count
      ((Finset.range count).filter fun index =>
        ¬(tables index).Degenerate (pivots index)) →
      other ≤ count → index < other →
        (tables index).basis.toFinset ≠ (tables other).basis.toFinset := by
    intro index other member inside order
    rcases Finset.mem_insert.mp member with rfl | listed
    · omega
    · exact consecutive.basis_ne form feasible order inside
        (Finset.mem_filter.mp listed).2
  apply Finset.card_le_card_of_injOn fun index => (tables index).basis.toFinset
  · intro index member
    exact consecutive.toFinset_basis_mem form feasible (within member)
  · intro index member other otherMember same
    rcases lt_trichotomy index other with less | equal | greater
    · exact absurd same (different member (within otherMember) less)
    · exact equal
    · exact absurd same.symm (different otherMember (within member) greater)

/-- More pivots than there are sets of basic variables come back to one of them,
and none of the pivots in between raises the value. -/
theorem exists_circle (long : (tables 0).columnCount.choose
    (tables 0).constraintCount ≤ count) :
    ∃ first second, first < second ∧ second ≤ count ∧
      (∀ index, index ∈ (tables first).basis ↔
        index ∈ (tables second).basis) ∧
      (∀ index, first ≤ index → index < second →
        (tables index).Degenerate (pivots index)) ∧
      ∀ index, first ≤ index → index ≤ second →
        (tables index).value = (tables first).value := by
  have crowded :
      (tables 0).columnSets.card < (Finset.range (count + 1)).card := by
    rw [card_columnSets, Finset.card_range]
    exact Nat.lt_succ_of_le long
  have lands : Set.MapsTo (fun index => (tables index).basis.toFinset)
      (Finset.range (count + 1)) (tables 0).columnSets := by
    intro index member
    have inside := Finset.mem_range.mp member
    exact consecutive.toFinset_basis_mem form feasible (by omega)
  obtain ⟨one, oneInside, other, otherInside, different, same⟩ :=
    Finset.exists_ne_map_eq_of_card_lt_of_maps_to crowded lands
  obtain ⟨first, second, order, inside, same⟩ : ∃ first second,
      first < second ∧ second ≤ count ∧
        (tables first).basis.toFinset = (tables second).basis.toFinset := by
    have oneLe := Finset.mem_range_succ_iff.mp oneInside
    have otherLe := Finset.mem_range_succ_iff.mp otherInside
    rcases lt_or_gt_of_ne different with less | greater
    · exact ⟨one, other, less, otherLe, same⟩
    · exact ⟨other, one, greater, oneLe, same.symm⟩
  have ends := consecutive.corner_eq_of_basis form feasible
    (order.le.trans inside) inside same
  refine ⟨first, second, order, inside, List.toFinset.ext_iff.mp same,
    ?_, ?_⟩
  · intro index after before
    by_contra raises
    have up := consecutive.corner_le_corner form feasible after
      (before.le.trans inside)
    have less :=
      consecutive.corner_lt_corner form feasible before inside raises
    exact absurd ends (up.trans_lt less).ne
  · intro index after before
    have up := consecutive.corner_le_corner form feasible after
      (before.trans inside)
    have rest :=
      consecutive.corner_le_corner form feasible before inside
    have equal : (tables index).corner = (tables first).corner :=
      le_antisymm (rest.trans ends.ge) up
    rw [(consecutive.maintains form feasible
        (before.trans inside)).form.value_eq_ok,
      (consecutive.maintains form feasible
        (order.le.trans inside)).form.value_eq_ok]
    exact congrArg Except.ok equal

end

end Consecutive

end Tableau

/-! ## Runs without degenerate pivots -/

namespace PivotRule

variable {σ : Type} {rule : PivotRule σ} {budget : Nat}

/-- A budget of as many pivots as there are sets of basic variables runs out
only after a degenerate pivot. -/
theorem exists_degenerate_of_exhaust {point : Progress σ}
    (form : point.tableau.BasicForm) (feasible : point.tableau.Feasible)
    (enough : point.tableau.columnCount.choose point.tableau.constraintCount ≤
      budget + 1)
    (spent : rule.exhaust budget point = .error .budget) :
    ∃ before after pivot, rule.Rounds point before ∧
      rule.Round before after ∧
      after.log.pivots = before.log.pivots ++ [pivot] ∧
      before.tableau.Degenerate pivot := by
  obtain ⟨points, rfl, rounds⟩ := exists_rounds_of_exhaust spent
  have reached : ∀ index ≤ budget + 1,
      rule.Rounds (points 0) (points index) := by
    intro index inside
    induction index with
    | zero => exact .none _
    | succ index induction =>
        have round := rounds index (Nat.le_of_succ_le_succ inside)
        exact (induction (Nat.le_of_succ_le inside)).trans
          (.next round (.none _))
  have carried : ∀ index, ∃ pivot, index ≤ budget →
      (points index).tableau.Takes pivot (points (index + 1)).tableau ∧
        (points (index + 1)).log.pivots =
          (points index).log.pivots ++ [pivot] := by
    intro index
    by_cases inside : index ≤ budget
    · have shaped := ((reached index (Nat.le_succ_of_le inside)).maintains
        (.refl form feasible)).form.toShaped
      obtain ⟨pivot, offered, pivoted, _, logged⟩ :=
        (rounds index inside).exists_pivot shaped
      exact ⟨pivot, fun _ => ⟨shaped.takes_iff.mpr ⟨offered, pivoted⟩,
        logged⟩⟩
    · exact ⟨(0, 0), fun le => absurd le inside⟩
  choose pivots taken using carried
  by_contra none
  have raises : ∀ index ≤ budget,
      ¬(points index).tableau.Degenerate (pivots index) := by
    intro index inside degenerate
    exact none ⟨points index, points (index + 1), pivots index,
      reached index (Nat.le_succ_of_le inside), rounds index inside,
      (taken index inside).2, degenerate⟩
  have consecutive : Tableau.Consecutive (fun index => (points index).tableau)
      pivots (budget + 1) :=
    fun index less => (taken index (Nat.le_of_lt_succ less)).1
  have few := consecutive.card_raising_lt form feasible
  rw [Finset.filter_true_of_mem fun index member =>
    raises index (Nat.le_of_lt_succ (Finset.mem_range.mp member)),
    Finset.card_range] at few
  omega

end PivotRule

namespace Tableau

/-- From a tableau in basic form with nonnegative right-hand sides, fewer pivots
have a nonzero right-hand side in their row than there are ways to choose a
basic variable for every row.  A sequence of at least as many pivots comes back
to a set of basic variables by degenerate pivots only, which do not change the
value.  A phase without degenerate pivots therefore ends. -/
theorem degenerate_pivots {tableau : Tableau} (form : tableau.BasicForm)
    (feasible : tableau.Feasible) :
    (∀ tables pivots count, tables 0 = tableau →
      Consecutive tables pivots count →
        ((Finset.range count).filter fun index =>
          ¬(tables index).Degenerate (pivots index)).card <
            tableau.columnCount.choose tableau.constraintCount ∧
        (tableau.columnCount.choose tableau.constraintCount ≤ count →
          ∃ first second, first < second ∧ second ≤ count ∧
            (∀ index, index ∈ (tables first).basis ↔
              index ∈ (tables second).basis) ∧
            (∀ index, first ≤ index → index < second →
              (tables index).Degenerate (pivots index)) ∧
            ∀ index, first ≤ index → index ≤ second →
              (tables index).value = (tables first).value)) ∧
    ∀ (σ : Type) (rule : PivotRule σ) (log noted : PhaseLog) (state : σ)
      (budget : Nat), log.noteTableau tableau = .ok noted →
      tableau.columnCount.choose tableau.constraintCount ≤ budget + 1 →
      (∀ before after pivot,
        rule.Rounds ⟨tableau, noted, state⟩ before →
        rule.Round before after →
        after.log.pivots = before.log.pivots ++ [pivot] →
          ¬before.tableau.Degenerate pivot) →
      (∃ final, rule.run budget ⟨tableau, log, state⟩ = .ok final) ∨
        ∃ answer, rule.run budget ⟨tableau, log, state⟩ =
          .error (.fault (.engine (.invalidPivot answer))) := by
  constructor
  · rintro tables pivots count rfl consecutive
    exact ⟨consecutive.card_raising_lt form feasible,
      consecutive.exists_circle form feasible⟩
  · intro σ rule log noted state budget recorded enough raises
    have yields : rule.Yields _ (rule.run budget ⟨tableau, log, state⟩) :=
      rule.yields_run budget form.toShaped
    cases ran : rule.run budget ⟨tableau, log, state⟩ with
    | ok final => exact .inl ⟨final, rfl⟩
    | error halt =>
        cases halt with
        | fault fault =>
            rw [ran] at yields
            obtain ⟨_, answer, rfl⟩ := yields
            exact .inr ⟨answer, rfl⟩
        | budget =>
            have spent :
                rule.exhaust budget ⟨tableau, noted, state⟩ = .error .budget :=
              (rule.run_of_noteTableau recorded budget).symm.trans ran
            obtain ⟨before, after, pivot, rounds, round, logged, degenerate⟩ :=
              PivotRule.exists_degenerate_of_exhaust form feasible enough spent
            exact absurd degenerate
              (raises before after pivot rounds round logged)

/-- Two constraints with the right-hand side zero, on which pivots may go round
in a circle. -/
def circling : Tableau where
  matrix := {
    width := 7
    rows := [[1 / 2, -11 / 2, -5 / 2, 9, 1, 0, 0],
      [1 / 2, -3 / 2, -1 / 2, 1, 0, 1, 0],
      [-10, 57, 9, 24, 0, 0, 0]]
    uniform := by decide +kernel }
  objective := ⟨⟨[10, -57, -9, -24]⟩, true⟩
  basis := [4, 5]
  start := [0, 1, 2, 3]
  artificial := []
  iteration := 0

/-- Six pivots over and over. -/
def circlingPivot (index : Nat) : Pivot :=
  [(0, 0), (1, 1), (0, 2), (1, 3), (0, 4), (1, 5)].getD (index % 6) (0, 0)

def circlingTable : Nat → Tableau
  | 0 => circling
  | index + 1 =>
      (circlingTable index).pivoted (circlingPivot index).1
        (circlingPivot index).2

theorem basicForm_circling : circling.BasicForm where
  height_eq := rfl
  width_eq := rfl
  basis_length := rfl
  unit := by
    unfold Tableau.IsUnit
    decide +kernel
  cost := by
    intro row column basic
    match row with
    | 0 =>
        obtain rfl : 4 = column := by
          exact_mod_cast Option.some.inj basic
        rfl
    | 1 =>
        obtain rfl : 5 = column := by
          exact_mod_cast Option.some.inj basic
        rfl
    | row + 2 => cases basic

theorem consecutive_circling :
    Consecutive circlingTable circlingPivot 18 := by
  have shaped : ∀ index, (circlingTable index).Shaped := by
    intro index
    induction index with
    | zero => exact basicForm_circling.toShaped
    | succ index induction => exact induction.pivoted
  have offered : ∀ index < 18,
      circlingPivot index ∈ (circlingTable index).candidates := by
    decide +kernel
  intro index inside
  exact (shaped index).takes_iff.mpr ⟨offered index inside, rfl⟩

/-- One variable that can be raised to one. -/
def rising : Tableau where
  matrix := {
    width := 3
    rows := [[1, 1, 1], [-1, 0, 0]]
    uniform := by decide +kernel }
  objective := ⟨⟨[1]⟩, true⟩
  basis := [1]
  start := [0]
  artificial := []
  iteration := 0

theorem basicForm_rising : rising.BasicForm where
  height_eq := rfl
  width_eq := rfl
  basis_length := rfl
  unit := by
    unfold Tableau.IsUnit
    decide +kernel
  cost := by
    intro row column basic
    match row with
    | 0 =>
        obtain rfl : 1 = column := by
          exact_mod_cast Option.some.inj basic
        rfl
    | row + 1 => cases basic

/-- The only pivot that is ever carried out raises the value. -/
theorem not_degenerate_rising {σ : Type} {rule : PivotRule σ} {log : PhaseLog}
    {state : σ} {before after : Progress σ} {pivot : Pivot}
    (rounds : rule.Rounds ⟨rising, log, state⟩ before)
    (round : rule.Round before after)
    (logged : after.log.pivots = before.log.pivots ++ [pivot]) :
    ¬before.tableau.Degenerate pivot := by
  have shaped := basicForm_rising.toShaped
  have offered : rising.candidates = [(0, 0)] := by decide +kernel
  have exhausted : (rising.pivoted 0 0).candidates = [] := by decide +kernel
  have raises : ¬rising.Degenerate (0, 0) := by decide +kernel
  have carried : ∀ {next : Progress σ},
      rule.Round ⟨rising, log, state⟩ next →
        next.tableau = rising.pivoted 0 0 ∧
          next.log.pivots = log.pivots ++ [(0, 0)] := by
    intro next first
    obtain ⟨pivot, member, pivoted, _, noted⟩ := first.exists_pivot shaped
    rw [offered, List.mem_singleton] at member
    rw [member] at pivoted noted
    exact ⟨pivoted, noted⟩
  cases rounds with
  | none =>
      have same := (carried round).2.symm.trans logged
      obtain rfl := List.singleton_inj.mp (List.append_cancel_left same)
      exact raises
  | next first rest =>
      -- No round follows the first one.
      have ended : ∀ {last next : Progress σ},
          last.tableau = rising.pivoted 0 0 → ¬rule.Round last next := by
        intro last next equal another
        obtain ⟨pivot, member, _⟩ :=
          another.exists_pivot (equal ▸ shaped.pivoted)
        rw [equal, exhausted] at member
        cases member
      cases rest with
      | none => exact absurd round (ended (carried first).1)
      | next second _ => exact absurd second (ended (carried first).1)

/-- There are fifteen ways to choose two of the six columns, so that eighteen
pivots have gone round.  A phase that can only raise one variable ends. -/
theorem degenerate_pivots_circling :
    (∃ first second, first < second ∧ second ≤ 18 ∧
      (∀ index, index ∈ (circlingTable first).basis ↔
        index ∈ (circlingTable second).basis) ∧
      (∀ index, first ≤ index → index < second →
        (circlingTable index).Degenerate (circlingPivot index)) ∧
      ∀ index, first ≤ index → index ≤ second →
        (circlingTable index).value = (circlingTable first).value) ∧
    ∃ final, PivotRule.first.run 1 ⟨rising, .empty, ()⟩ = .ok final := by
  constructor
  · have feasible : circling.Feasible := by
      unfold Feasible
      decide +kernel
    have sequences := (degenerate_pivots basicForm_circling feasible).1
      circlingTable circlingPivot 18 rfl consecutive_circling
    exact sequences.2 (by decide +kernel)
  · have feasible : rising.Feasible := by
      unfold Feasible
      decide +kernel
    have shaped := basicForm_rising.toShaped
    have ends := (degenerate_pivots basicForm_rising feasible).2 Unit
      PivotRule.first .empty _ () 1 (PhaseLog.noteTableau_eq_ok shaped _)
      (by decide +kernel) fun _ _ _ => not_degenerate_rising
    rcases ends with done | ⟨answer, refused⟩
    · exact done
    · have yields : PivotRule.first.Yields _
          (PivotRule.first.run 1 ⟨rising, .empty, ()⟩) :=
        PivotRule.first.yields_run 1 shaped
      rw [refused] at yields
      exact absurd PivotRule.respects_first yields.1

end Tableau

end RationalSimplex
