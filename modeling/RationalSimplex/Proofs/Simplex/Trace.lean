import RationalSimplex.Proofs.Simplex.Pricing

/-!
# What the log of a phase tells

The snapshots of a phase that ended are those of the tableaux before, between
and after its pivots.  A snapshot can be opened again: it offers as many pivots
as were noted, the noted pivot is among them, and it leads to the next snapshot.
-/

namespace RationalSimplex

/-- The tableau of a snapshot, with the program of another tableau. -/
def Snapshot.reopen (snapshot : Snapshot) (source : Tableau) :
    Except EngineFault Tableau := do
  let matrix ← RatMatrix.ofRows snapshot.rows
  Tableau.make matrix source.objective snapshot.basis source.start
    snapshot.artificial snapshot.iteration

/-- The log of a phase can be followed from snapshot to snapshot. -/
structure PhaseLog.IsTrace (log : PhaseLog) (source : Tableau) : Prop where
  length_snapshots : log.snapshots.length = log.pivots.length + 1
  length_plans : log.plans.length = log.pivots.length + 1
  length_candidates : log.candidates.length = log.pivots.length
  reopen : ∀ (index : Nat) (snapshot : Snapshot),
    log.snapshots[index]? = some snapshot →
      snapshot.iteration = index ∧
        ∃ tableau plan, snapshot.reopen source = .ok tableau ∧
          tableau.plan = .ok plan ∧ log.plans[index]? = some plan
  step : ∀ (index : Nat) (pivot : Pivot), log.pivots[index]? = some pivot →
    ∃ before after tableau next offered,
      log.snapshots[index]? = some before ∧
      log.snapshots[index + 1]? = some after ∧
      before.reopen source = .ok tableau ∧
      after.reopen source = .ok next ∧
      tableau.admissiblePivots = .ok offered ∧
      pivot ∈ offered ∧
      log.candidates[index]? = some offered.length ∧
      tableau.pivot pivot.1 pivot.2 = .ok next
  stopped : ∃ snapshot tableau,
    log.snapshots.getLast? = some snapshot ∧
      snapshot.reopen source = .ok tableau ∧
        tableau.admissiblePivots = .ok []

namespace Tableau

variable {tableau source between last : Tableau} {pivots : List Pivot}
  {index : Nat}

/-! ## The visited tableaux -/

/-- A snapshot is opened to the tableau that it was taken of. -/
@[simp] theorem Shaped.reopen_snapshot (shaped : tableau.Shaped)
    (start : tableau.start = source.start)
    (objective : tableau.objective = source.objective) :
    tableau.snapshot.reopen source = .ok tableau := by
  have nonempty : tableau.matrix.rows ≠ [] := by
    apply List.ne_nil_of_length_pos
    exact shaped.lt_height (Nat.zero_le _)
  obtain ⟨matrix, built, width, rows⟩ :=
    RatMatrix.ofRows_eq_ok nonempty shaped.width_pos tableau.matrix.uniform
  obtain rfl : matrix = tableau.matrix := by
    cases matrix
    cases width
    cases rows
    rfl
  have sized : (tableau.basis.length : Int) =
      (tableau.matrix.height : Int) - 1 := by
    rw [shaped.basis_length, shaped.height_sub_one]
  unfold Snapshot.reopen make snapshot
  simp [built, sized, ← start, ← objective]

@[simp] theorem visited_zero (tableau : Tableau) (pivots : List Pivot) :
    (tableau.visited pivots)[0]? = some tableau := by
  cases pivots <;> rfl

theorem Leads.visited_length (leads : Leads tableau pivots last) :
    (tableau.visited pivots)[pivots.length]? = some last := by
  induction leads with
  | refl => rfl
  | pivot _ _ induction => exact induction

theorem Leads.getLast?_visited (leads : Leads tableau pivots last) :
    (tableau.visited pivots).getLast? = some last := by
  rw [List.getLast?_eq_getElem?, length_visited, Nat.add_sub_cancel,
    leads.visited_length]

/-- Every pivot was on offer, and it leads to the tableau visited next. -/
theorem Leads.exists_visited (leads : Leads tableau pivots last)
    {pivot : Pivot} (place : pivots[index]? = some pivot) :
    ∃ between, (tableau.visited pivots)[index]? = some between ∧
      pivot ∈ between.candidates ∧
        (tableau.visited pivots)[index + 1]? =
          some (between.pivoted pivot.1 pivot.2) := by
  induction leads generalizing index with
  | refl => cases place
  | @pivot tableau last first pivots offered _ induction =>
      cases index with
      | zero =>
          obtain rfl : first = pivot := Option.some.inj place
          exact ⟨tableau, rfl, offered, visited_zero _ _⟩
      | succ index => exact induction place

theorem iteration_of_visited
    (place : (tableau.visited pivots)[index]? = some between) :
    between.iteration = tableau.iteration + index ∧
      between.objective = tableau.objective := by
  induction pivots generalizing tableau index with
  | nil =>
      cases index with
      | zero =>
          obtain rfl : tableau = between := Option.some.inj place
          exact ⟨by simp, rfl⟩
      | succ index => cases place
  | cons pivot pivots induction =>
      cases index with
      | zero =>
          obtain rfl : tableau = between := Option.some.inj place
          exact ⟨by simp, rfl⟩
      | succ index =>
          obtain ⟨iteration, objective⟩ := induction place
          refine ⟨?_, objective⟩
          rw [iteration, Tableau.iteration_pivoted]
          push_cast
          ring

end Tableau

/-! ## The log -/

/-- The log is that of a phase which went from one tableau to another and had
to stop there. -/
structure PhaseLog.Tells (log : PhaseLog) (first last : Tableau) : Prop where
  leads : first.Leads log.pivots last
  exhausted : last.candidates = []
  sameRun : log.SameRun (PhaseLog.empty.recorded first log.pivots)

namespace PhaseLog.Tells

variable {log : PhaseLog} {first last between source : Tableau} {index : Nat}

theorem snapshots_eq (tells : log.Tells first last) :
    log.snapshots = (first.visited log.pivots).map Tableau.snapshot :=
  tells.sameRun.snapshots_eq

theorem plans_eq (tells : log.Tells first last) :
    log.plans = (first.visited log.pivots).map Tableau.basicPlan :=
  tells.sameRun.plans_eq

theorem candidates_eq (tells : log.Tells first last) :
    log.candidates = ((first.visited log.pivots).take log.pivots.length).map
      fun tableau => tableau.candidates.length :=
  tells.sameRun.candidates_eq

theorem snapshot_of_visited (tells : log.Tells first last)
    (place : (first.visited log.pivots)[index]? = some between) :
    log.snapshots[index]? = some between.snapshot := by
  rw [tells.snapshots_eq, List.getElem?_map, place, Option.map_some]

theorem exists_visited_of_snapshot (tells : log.Tells first last)
    {snapshot : Snapshot} (place : log.snapshots[index]? = some snapshot) :
    ∃ between, (first.visited log.pivots)[index]? = some between ∧
      between.snapshot = snapshot := by
  rw [tells.snapshots_eq, List.getElem?_map] at place
  exact Option.map_eq_some_iff.mp place

theorem plan_of_visited (tells : log.Tells first last)
    (place : (first.visited log.pivots)[index]? = some between) :
    log.plans[index]? = some between.basicPlan := by
  rw [tells.plans_eq, List.getElem?_map, place, Option.map_some]

theorem candidates_of_visited (tells : log.Tells first last)
    (inside : index < log.pivots.length)
    (place : (first.visited log.pivots)[index]? = some between) :
    log.candidates[index]? = some between.candidates.length := by
  rw [tells.candidates_eq, List.getElem?_map,
    List.getElem?_take_of_lt inside, place, Option.map_some]

/-- The log of a phase whose first tableau has done no pivots can be
followed. -/
theorem isTrace (tells : log.Tells first last) (shaped : first.Shaped)
    (began : first.iteration = 0) (start : first.start = source.start)
    (objective : first.objective = source.objective) :
    log.IsTrace source := by
  have reopens : ∀ {index : Nat} {between : Tableau},
      (first.visited log.pivots)[index]? = some between →
        between.Shaped ∧ between.snapshot.reopen source = .ok between := by
    intro index between place
    obtain ⟨betweenShaped, sameStart⟩ :=
      tells.leads.shaped_of_mem_visited shaped (List.mem_of_getElem? place)
    have sameObjective := (Tableau.iteration_of_visited place).2
    exact ⟨betweenShaped, betweenShaped.reopen_snapshot
      (sameStart.trans start) (sameObjective.trans objective)⟩
  have visited := first.length_visited log.pivots
  exact {
    length_snapshots := by rw [tells.snapshots_eq, List.length_map, visited]
    length_plans := by rw [tells.plans_eq, List.length_map, visited]
    length_candidates := by
      rw [tells.candidates_eq, List.length_map, List.length_take, visited]
      omega
    reopen := by
      intro index snapshot place
      obtain ⟨between, passed, rfl⟩ := tells.exists_visited_of_snapshot place
      obtain ⟨betweenShaped, reopened⟩ := reopens passed
      have iteration := (Tableau.iteration_of_visited passed).1
      rw [began, zero_add] at iteration
      exact ⟨iteration, between, _, reopened, betweenShaped.plan_eq_ok,
        tells.plan_of_visited passed⟩
    step := by
      intro index pivot place
      obtain ⟨between, passed, offered, next⟩ :=
        tells.leads.exists_visited place
      obtain ⟨betweenShaped, reopened⟩ := reopens passed
      have inside : index < log.pivots.length :=
        (List.getElem?_eq_some_iff.mp place).1
      exact ⟨between.snapshot, _, between, _, between.candidates,
        tells.snapshot_of_visited passed, tells.snapshot_of_visited next,
        reopened, (reopens next).2, betweenShaped.admissiblePivots_eq_ok,
        offered, tells.candidates_of_visited inside passed,
        betweenShaped.pivot_of_mem_candidates offered⟩
    stopped := by
      have passed := tells.leads.visited_length
      obtain ⟨lastShaped, reopened⟩ := reopens passed
      refine ⟨last.snapshot, last, ?_, reopened, ?_⟩
      · rw [tells.snapshots_eq, List.getLast?_map,
          tells.leads.getLast?_visited, Option.map_some]
      · rw [lastShaped.admissiblePivots_eq_ok, tells.exhausted] }

end PhaseLog.Tells

end RationalSimplex
